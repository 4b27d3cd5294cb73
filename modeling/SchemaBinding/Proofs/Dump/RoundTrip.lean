import Mathlib
import SchemaBinding.Dump.Reading
import SchemaBinding.Dump.Writing
import SchemaBinding.Proofs.Json.RoundTrip

/-!
# Reading dumps that have been written

A dump is read back from its text, whatever texts, numbers and lists are in it, and whichever of the
members that may be missing are there. A member that is missing is left out, but for the greatest
number of occurrences of a list; reading does not depend on that.

## Main results

* `record?_record`: the members of a record
* `FieldInfo.ofJson?_toJson`, `TypeInfo.ofJson?_toJson`, …: the parts of a dump
* `text_readsBack`: dumps
-/

namespace SchemaBinding.Dump

open Json (Value)
open Repository (Constraint Enumeration)

/-! ## Records -/

theorem uniqueMember?_of_notMem {name : String} {ms : List (String × Value)}
    (h : name ∉ ms.map Prod.fst) : uniqueMember? (Json.named ms) name = some none := by
  have hnone : (Json.named ms).filter (·.1 == some name) = [] := by
    rw [List.filter_eq_nil_iff]
    rintro ⟨other, v⟩ hmem hname
    obtain ⟨m, hm, hother⟩ := List.mem_map.mp hmem
    cases hother
    simp only [beq_iff_eq, Option.some.injEq] at hname
    exact h (List.mem_map.mpr ⟨m, hm, hname⟩)
  simp [uniqueMember?, hnone]

/-- Members with names of their own are found by their names. -/
theorem uniqueMember?_named {ms : List (String × Value)} (h : (ms.map Prod.fst).Nodup)
    (name : String) : uniqueMember? (Json.named ms) name = some (ms.lookup name) := by
  induction ms with
  | nil => rfl
  | cons m ms ih =>
    obtain ⟨other, v⟩ := m
    rw [List.map_cons, List.nodup_cons] at h
    by_cases hname : name = other
    · subst hname
      have hrest := uniqueMember?_of_notMem h.1
      simp only [uniqueMember?] at hrest
      split at hrest
      · next hnone =>
        have hcons : Json.named ((name, v) :: ms) = (some name, v) :: Json.named ms := rfl
        simp [uniqueMember?, hcons, hnone]
      · cases hrest
      · cases hrest
    · have hother : (some other == some name) = false := by
        simpa using fun heq => hname heq.symm
      have hskip : uniqueMember? (Json.named ((other, v) :: ms)) name =
          uniqueMember? (Json.named ms) name := by
        simp [uniqueMember?, Json.named, hother]
      rw [hskip, ih h.2, List.lookup_cons, beq_eq_false_iff_ne.mpr hname]

/-- The members of a record are those that it has been made of, if they have names of their own
that are asked for in the same order. -/
theorem record?_record {names : List String} {ms : List (String × Value)} (hnames : names.Nodup)
    (h : (ms.map Prod.fst).Sublist names) :
    record? names (.record ms) = some (names.map fun name => ms.lookup name) := by
  have htexts : (Json.named ms).all (·.1.isSome) = true := by
    simp [Json.named]
  have hmembers : ∀ names : List String, names.mapM (uniqueMember? (Json.named ms)) =
      some (names.map fun name => ms.lookup name) := by
    intro names
    induction names with
    | nil => rfl
    | cons name names ih => simp [uniqueMember?_named (hnames.sublist h), ih]
  show (if (Json.named ms).all (·.1.isSome) then names.mapM _ else none) = _
  rw [if_pos htexts]
  exact hmembers names

theorem lookup_optional (name other : String) (v : Option Value) :
    (optional name v).lookup other = if other = name then v else none := by
  cases v with
  | none => simp [optional]
  | some v =>
    by_cases h : other = name
    · simp [optional, h]
    · simp [optional, List.lookup_cons, beq_eq_false_iff_ne.mpr h, h]

theorem optional_names (name : String) (v : Option Value) :
    ((optional name v).map Prod.fst).Sublist [name] := by
  cases v <;> simp [optional]

/-! ## Plain values -/

section Plain

variable {α : Type} {read : Value → Option α} {write : α → Value}

@[simp] theorem textOf?_text (s : String) : textOf? (.text s) = some s := rfl

@[simp] theorem wordOf?_word (n : UInt32) : wordOf? (word n) = some n := by
  have hbound : n.toNat ≤ Text.maxUnsigned := by
    have hlt := n.toNat_lt
    unfold Text.maxUnsigned
    omega
  simp [wordOf?, word, Text.ofNat32?, hbound]

/-- A list is read back if what is in it is. -/
theorem listOf?_map {as : List α} (h : ∀ a ∈ as, read (write a) = some a) :
    listOf? read (.array (as.map write)) = some as := by
  show (as.map write).mapM read = some as
  induction as with
  | nil => rfl
  | cons a as ih =>
    have has := ih fun a' ha' => h a' (List.mem_cons_of_mem a ha')
    simp [h a List.mem_cons_self, has]

/-- A member that may be missing is read back if what is written of it is not null. -/
theorem optional?_map (o : Option α) (hnull : ∀ a, write a ≠ .null)
    (h : ∀ a ∈ o, read (write a) = some a) : optional? read (o.map write) = some o := by
  cases o with
  | none => rfl
  | some a =>
    rw [Option.map_some, optional?, h a rfl]
    · rfl
    · exact hnull a

/-- It may be written as null as well. -/
theorem optional?_getD (o : Option α) (hnull : ∀ a, write a ≠ .null)
    (h : ∀ a ∈ o, read (write a) = some a) :
    optional? read (some ((o.map write).getD .null)) = some o := by
  cases o with
  | none => rfl
  | some a =>
    rw [Option.map_some, Option.getD_some, optional?, h a rfl]
    · rfl
    · exact hnull a

end Plain

@[simp] theorem optional?_text (o : Option String) : optional? textOf? (o.map .text) = some o :=
  optional?_map o nofun fun s _ => textOf?_text s

@[simp] theorem optional?_word (o : Option UInt32) : optional? wordOf? (o.map word) = some o :=
  optional?_map o nofun fun n _ => wordOf?_word n

/-! ## Fields and lists -/

theorem FieldInfo.ofJson?_toJson (f : FieldInfo) : ofJson? f.toJson = some f := by
  unfold ofJson? toJson
  rw [record?_record (by decide)]
  · simp [List.lookup_append, lookup_optional, List.lookup_cons, required, boolOf?]
  · simp only [List.map_append]
    exact (((List.Sublist.refl _).append (optional_names _ _)).append (.refl _)).append
      (optional_names _ _)

theorem ListInfo.ofJson?_toJson (l : ListInfo) : ofJson? l.toJson = some l := by
  have hmaxOccurs : optional? wordOf? (some ((l.maxOccurs.map word).getD .null)) =
      some l.maxOccurs :=
    optional?_getD l.maxOccurs nofun fun n _ => wordOf?_word n
  unfold ofJson? toJson
  rw [record?_record (by decide)]
  · simp [List.lookup_append, lookup_optional, List.lookup_cons, required, hmaxOccurs]
  · simp only [List.map_append]
    exact ((List.Sublist.refl _).append (optional_names _ _)).append (.refl _)

/-! ## Constraints

Before a constraint is read, it is checked that all in it is ordinary and not nested too deep.
-/

/-- A number does not become smaller by further digits. -/
theorem le_ofDigitChars (cs : List Char) (n : Nat) : n ≤ Nat.ofDigitChars 10 cs n := by
  induction cs generalizing n with
  | nil => exact Nat.le_refl n
  | cons c cs ih =>
    rw [Nat.ofDigitChars_cons]
    have hnext := ih (10 * n + (c.toNat - '0'.toNat))
    omega

theorem extend_nil (n : Nat) : Json.Decimal.extend n [] = (n, 0) := rfl

theorem extend_cons (n d : Nat) (ds : List Nat) : Json.Decimal.extend n (d :: ds) =
    if 10 * n + d < 2 ^ 64 then Json.Decimal.extend (10 * n + d) ds else (n, ds.length + 1) :=
  rfl

/-- All digits are read of a number that 64 bits have room for. -/
theorem extend_eq {cs : List Char} {n : Nat} (h : Nat.ofDigitChars 10 cs n < 2 ^ 64) :
    Json.Decimal.extend n (cs.map fun c => c.toNat - '0'.toNat) =
      (Nat.ofDigitChars 10 cs n, 0) := by
  induction cs generalizing n with
  | nil => rfl
  | cons c cs ih =>
    rw [Nat.ofDigitChars_cons] at h ⊢
    -- What has been read so far is not above the whole number.
    have hfits := Nat.lt_of_le_of_lt (le_ofDigitChars cs _) h
    rw [List.map_cons, extend_cons, if_pos hfits, ih h]

/-- A number of 32 bits is written in digits that are read without loss. -/
theorem isOrdinary_word (n : UInt32) : (word n).isOrdinary = true := by
  have hvalue : Nat.ofDigitChars 10 (Nat.toDigits 10 n.toNat) 0 = n.toNat :=
    Nat.ofDigitChars_toDigits (by decide) (by decide)
  have hlt : n.toNat < 2 ^ 64 := by
    have h := n.toNat_lt
    omega
  have hdigits : Json.Decimal.extend 0 (Value.digitsOf n.toNat) = (n.toNat, 0) := by
    rw [Value.digitsOf, extend_eq (by rwa [hvalue]), hvalue]
  simp [word, Value.isOrdinary, Json.Decimal.ofDigits, hdigits, extend_nil,
    Json.Decimal.fitsDouble]

/-- Texts are ordinary, and nothing is nested in them. -/
theorem ordinary_texts (ss : List String) : Value.areOrdinary (ss.map .text) = true ∧
    Value.depthOfItems (ss.map .text) = 0 := by
  induction ss with
  | nil => exact ⟨rfl, rfl⟩
  | cons s ss ih =>
    simp [Value.areOrdinary, Value.depthOfItems, Value.text, Value.isOrdinary, Value.depth, ih]

/-- Nothing is taken away from a list in which nothing is there twice. -/
theorem eraseDups_of_nodup {ss : List String} (h : ss.Nodup) : ss.eraseDups = ss := by
  induction ss with
  | nil => rfl
  | cons s ss ih =>
    rw [List.nodup_cons] at h
    have hrest : ss.filter (fun b => !b == s) = ss := by
      rw [List.filter_eq_self]
      rintro b hb
      simp only [Bool.not_eq_true', beq_eq_false_iff_ne]
      rintro rfl
      exact h.1 hb
    rw [List.eraseDups_cons, hrest, ih h.2]

/-- An enumeration is what is made of its values. -/
theorem ofList_values (e : Enumeration) : Enumeration.ofList e.values = e := by
  obtain ⟨values, h⟩ := e
  simp [Enumeration.ofList, eraseDups_of_nodup h]

theorem constraintOfJson?_of_kind {v : Value} {kind : String} (hordinary : v.isOrdinary = true)
    (hdepth : v.depth ≤ constraintDepth) (hkind : kindOf? v = some kind) :
    constraintOfJson? v = constraintOfKind? kind v := by
  simp [constraintOfJson?, hordinary, hdepth, hkind]

/-- Constraints are read back, with those that stand in them. -/
theorem constraintOfJson?_toJson (c : Constraint) :
    constraintOfJson? (constraintToJson c) = some c := by
  cases c with
  | stringLength min max =>
    have hmembers : record? ["kind", "min", "max"] (constraintToJson (.stringLength min max)) =
        some [some (.text "stringLength"), some (word min), some (word max)] :=
      rfl
    have hordinary : (constraintToJson (.stringLength min max)).isOrdinary = true := by
      simp [constraintToJson, Value.record, Value.isOrdinary, Value.membersAreOrdinary,
        isOrdinary_word]
      rfl
    have hnesting : (constraintToJson (.stringLength min max)).depth = 1 := by
      simp [constraintToJson, Value.record, Value.depth, Value.depthOfMembers, Value.text, word]
    rw [constraintOfJson?_of_kind hordinary (hnesting ▸ by decide) rfl]
    simp [constraintOfKind?, hmembers, required]
  | enumeration values =>
    have hmembers : record? ["kind", "values"] (constraintToJson (.enumeration values)) =
        some [some (.text "enum"), some (.array (values.values.map .text))] :=
      rfl
    have hvalues : listOf? textOf? (.array (values.values.map .text)) = some values.values :=
      listOf?_map fun s _ => textOf?_text s
    obtain ⟨htexts, hdepth⟩ := ordinary_texts values.values
    have hordinary : (constraintToJson (.enumeration values)).isOrdinary = true := by
      simp [constraintToJson, Value.record, Value.isOrdinary, Value.membersAreOrdinary, htexts]
      rfl
    have hnesting : (constraintToJson (.enumeration values)).depth = 2 := by
      simp [constraintToJson, Value.record, Value.depth, Value.depthOfMembers, Value.text, hdepth]
    rw [constraintOfJson?_of_kind hordinary (hnesting ▸ by decide) rfl]
    simp [constraintOfKind?, hmembers, required, hvalues, ofList_values]

/-! ## Types and dumps -/

theorem TypeInfo.ofJson?_toJson (t : TypeInfo) : ofJson? t.toJson = some t := by
  have hconstraints : optional? (listOf? constraintOfJson?)
      (t.constraints.map fun cs => .array (cs.map constraintToJson)) = some t.constraints :=
    optional?_map t.constraints nofun fun cs _ => listOf?_map fun c _ => constraintOfJson?_toJson c
  have hfields : optional? (listOf? FieldInfo.ofJson?)
      (t.fields.map fun fs => .array (fs.map FieldInfo.toJson)) = some t.fields :=
    optional?_map t.fields nofun fun fs _ => listOf?_map fun f _ => f.ofJson?_toJson
  have hlist : optional? ListInfo.ofJson? (t.list.map ListInfo.toJson) = some t.list :=
    optional?_map t.list nofun fun l _ => l.ofJson?_toJson
  unfold ofJson? toJson
  rw [record?_record (by decide)]
  · simp [List.lookup_append, lookup_optional, List.lookup_cons, required, hconstraints, hfields,
      hlist]
  · simp only [List.map_append]
    exact ((((List.Sublist.refl _).append (optional_names _ _)).append
      (optional_names _ _)).append (optional_names _ _)).append (optional_names _ _)

theorem ofJson?_toJson (d : Dump) : ofJson? d.toJson = some d := by
  have hfields : listOf? FieldInfo.ofJson? (.array (d.fields.map FieldInfo.toJson)) =
      some d.fields :=
    listOf?_map fun f _ => f.ofJson?_toJson
  have htypes : listOf? TypeInfo.ofJson? (.array (d.types.map TypeInfo.toJson)) = some d.types :=
    listOf?_map fun t _ => t.ofJson?_toJson
  unfold ofJson? toJson
  rw [record?_record (by decide)]
  · simp [List.lookup_cons, required, hfields, htypes]
  · exact List.Sublist.refl _

/-! ## What is written -/

theorem plain_optional (name : String) {v : Option Value} (h : ∀ u ∈ v, u.Plain) :
    ∀ m ∈ optional name v, m.2.Plain := by
  cases v with
  | none => nofun
  | some u => simpa [optional] using h u rfl

theorem plain_word (n : UInt32) : (word n).Plain := .natural n.toNat

theorem plain_map {α : Type} {write : α → Value} (h : ∀ a, (write a).Plain) (as : List α) :
    (Value.array (as.map write)).Plain := by
  refine .array fun v hv => ?_
  obtain ⟨a, -, rfl⟩ := List.mem_map.mp hv
  exact h a

theorem plain_option {α : Type} {write : α → Value} (h : ∀ a, (write a).Plain) (o : Option α) :
    ∀ u ∈ o.map write, u.Plain := by
  rintro u hu
  obtain ⟨a, -, rfl⟩ := Option.map_eq_some_iff.mp hu
  exact h a

theorem FieldInfo.plain_toJson (f : FieldInfo) : f.toJson.Plain := by
  have hdefault := plain_optional "default" (plain_option .text f.defaultValue)
  have hmaxLength := plain_optional "max_length" (plain_option plain_word f.maxLength)
  refine .record ?_
  simp only [List.forall_mem_append, List.forall_mem_cons, List.not_mem_nil, false_implies,
    implies_true, and_true]
  exact ⟨⟨⟨⟨.text _, .text _⟩, hdefault⟩, .bool _, .bool _⟩, hmaxLength⟩

theorem ListInfo.plain_toJson (l : ListInfo) : l.toJson.Plain := by
  have hdefault := plain_optional "default" (plain_option .text l.defaultValue)
  have hmaxOccurs : ((l.maxOccurs.map word).getD .null).Plain := by
    cases l.maxOccurs with
    | none => exact .null
    | some n => exact plain_word n
  refine .record ?_
  simp only [List.forall_mem_append, List.forall_mem_cons, List.not_mem_nil, false_implies,
    implies_true, and_true]
  exact ⟨⟨⟨.text _, .text _⟩, hdefault⟩, plain_word _, hmaxOccurs⟩

theorem plain_constraintToJson (c : Constraint) : (constraintToJson c).Plain := by
  cases c with
  | stringLength min max =>
    refine .record ?_
    simp only [List.forall_mem_cons, List.not_mem_nil, false_implies, implies_true, and_true]
    exact ⟨.text _, plain_word min, plain_word max⟩
  | enumeration values =>
    refine .record ?_
    simp only [List.forall_mem_cons, List.not_mem_nil, false_implies, implies_true, and_true]
    exact ⟨.text _, plain_map .text _⟩

theorem TypeInfo.plain_toJson (t : TypeInfo) : t.toJson.Plain := by
  have hsuperType := plain_optional "super_type" (plain_option .text t.superType)
  have hconstraints := plain_optional "constraints"
    (plain_option (plain_map plain_constraintToJson) t.constraints)
  have hfields := plain_optional "fields"
    (plain_option (plain_map FieldInfo.plain_toJson) t.fields)
  have hlist := plain_optional "list" (plain_option ListInfo.plain_toJson t.list)
  refine .record ?_
  simp only [List.forall_mem_append, List.forall_mem_cons, List.not_mem_nil, false_implies,
    implies_true, and_true]
  exact ⟨⟨⟨⟨⟨.text _, .text _⟩, hsuperType⟩, hconstraints⟩, hfields⟩, hlist⟩

/-- A dump is written as plain JSON, without numbers but those of 32 bits. -/
theorem plain_toJson (d : Dump) : d.toJson.Plain := by
  refine .record ?_
  simp only [List.forall_mem_cons, List.not_mem_nil, false_implies, implies_true, and_true]
  exact ⟨.text _, .text _, .text _, plain_map FieldInfo.plain_toJson _,
    plain_map TypeInfo.plain_toJson _⟩

/-- A dump is read back from its text. -/
theorem text_readsBack (d : Dump) : parse? d.text = some d := by
  rw [parse?, text, (plain_toJson d).parse?_pretty, Option.bind_some, ofJson?_toJson]

end SchemaBinding.Dump
