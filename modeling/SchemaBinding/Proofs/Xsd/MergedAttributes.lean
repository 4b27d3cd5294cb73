import Mathlib.Data.List.Pairwise
import SchemaBinding.Proofs.Xsd.AttributeUses
import SchemaBinding.Proofs.Xsd.Derivation

/-!
# Attributes of a chain of bases

The attributes of a type are read from the end of its bases down to the type itself, and a name that
comes again takes the place of the earlier use. So the use that counts for a name is the last one of
the nearest type that has the name, and the uses that count stand in the order in which they are
read.

## Main definitions

* `UsePlace`: where a use stands above a type
* `UsePlace.Before`: the order in which uses are read
* `SchemaSet.Survives`: a use that no later one takes the place of

## Main results

* `SchemaSet.foldl_addUse_eq_pwFilter`: what is left of uses that are added one by one
* `SchemaSet.exists_ancestry_eq`: the types that uses are read from
* `SchemaSet.mem_placedUses`, `SchemaSet.pairwise_placedUses`: uses with their places, as read
* `SchemaSet.merged_attributeUses`: the attributes of a type of an accepted set
-/

namespace SchemaBinding.Xsd

/-- Where a use stands above a type: by how many bases away, and after how many uses of the type
there. -/
structure UsePlace where
  level : Nat
  index : Nat
  deriving DecidableEq, Repr

/-- The order in which uses are read: those that are farther away first, and those of one type as it
declares them. -/
def UsePlace.Before (p q : UsePlace) : Prop :=
  q.level < p.level ∨ p.level = q.level ∧ p.index < q.index

instance (p q : UsePlace) : Decidable (p.Before q) :=
  inferInstanceAs (Decidable (_ ∨ _ ∧ _))

theorem UsePlace.not_before_self (p : UsePlace) : ¬ p.Before p := by
  rintro (h | ⟨-, h⟩)
  · exact Nat.lt_irrefl _ h
  · exact Nat.lt_irrefl _ h

theorem UsePlace.Before.asymm {p q : UsePlace} (h : p.Before q) : ¬ q.Before p := by
  rintro (h' | h') <;> rcases h with h | h <;> omega

namespace SchemaSet

variable {set : SchemaSet} {id : TypeId} {steps n : Nat}

/-- The use at a place above a type. -/
def useAt? (set : SchemaSet) (id : TypeId) (place : UsePlace) : Option AttributeUse :=
  (set.ownUses (set.baseOf^[place.level] id))[place.index]?

/-- The use at a place is the last one of its name, in the order in which uses are read: no type
that is nearer has the name, and the type there does not have it again. -/
def Survives (set : SchemaSet) (id : TypeId) (place : UsePlace) (use : AttributeUse) : Prop :=
  set.useAt? id place = some use ∧
    ∀ place' use', set.useAt? id place' = some use' → set.useName use' = set.useName use →
      ¬ place.Before place'

/-! ## Adding uses -/

/-- A name comes again among what is left of a list just if it does in the list. -/
theorem forall_mem_pwFilter_name {α : Type} (name : α → String) (a : α) (l : List α) :
    (∀ b ∈ l.pwFilter (fun u v => name u ≠ name v), name a ≠ name b) ↔
      ∀ b ∈ l, name a ≠ name b := by
  refine List.forall_mem_pwFilter (R := fun u v => name u ≠ name v) ?_ a l
  intro x y z hxz
  by_cases hxy : name x = name y
  · exact .inr fun hyz => hxz (hxy.trans hyz)
  · exact .inl hxy

/-- Of uses that are added one by one those are left whose name does not come again: of the ones
that are known already, those with a name that is not added, and of the added ones, the last of each
name. -/
theorem foldl_addUse_eq_pwFilter (own known : List AttributeUse) :
    own.foldl set.addUse known =
      known.filter (fun u => set.useName u ∉ own.map set.useName) ++
        own.pwFilter (fun u v => set.useName u ≠ set.useName v) := by
  -- What is known changes with every use that is added, so the induction is for any known uses.
  induction own generalizing known with
  | nil => simp
  | cons use own ih =>
    have hagain : (∀ v ∈ own.pwFilter (fun u v => set.useName u ≠ set.useName v),
        set.useName use ≠ set.useName v) ↔ set.useName use ∉ own.map set.useName := by
      rw [forall_mem_pwFilter_name]
      simp [eq_comm]
    have hknown : (set.addUse known use).filter (fun u => set.useName u ∉ own.map set.useName) =
        known.filter (fun u => set.useName u ∉ (use :: own).map set.useName) ++
          [use].filter (fun u => set.useName u ∉ own.map set.useName) := by
      unfold addUse
      rw [List.filter_append, List.filter_filter]
      refine congrArg (· ++ _) (List.filter_congr fun u _ => ?_)
      rw [Bool.eq_iff_iff]
      simp [useName, and_comm]
    rw [List.foldl_cons, ih, hknown, List.append_assoc]
    congr 1
    -- The use itself is left just if its name is not among those that come after it.
    by_cases hnew : set.useName use ∉ own.map set.useName
    · rw [List.filter_cons_of_pos (by simpa using hnew), List.pwFilter_cons_of_pos (hagain.mpr hnew)]
      rfl
    · rw [List.filter_cons_of_neg (by simpa using hnew),
        List.pwFilter_cons_of_neg (hnew ∘ hagain.mp)]
      rfl

/-- In a list in order, what is left without the uses whose name comes again is the last of its
name. -/
theorem not_before_of_mem_pwFilter {placed : List (UsePlace × AttributeUse)}
    (horder : placed.Pairwise fun p q => p.1.Before q.1) {p q : UsePlace × AttributeUse}
    (hp : p ∈ placed.pwFilter fun p q => set.useName p.2 ≠ set.useName q.2) (hq : q ∈ placed)
    (hname : set.useName q.2 = set.useName p.2) : ¬ p.1.Before q.1 := by
  induction placed with
  | nil => cases hq
  | cons x placed ih =>
    obtain ⟨hx, hplaced⟩ := List.pairwise_cons.mp horder
    by_cases hagain : ∀ b ∈ placed.pwFilter fun p q => set.useName p.2 ≠ set.useName q.2,
        set.useName x.2 ≠ set.useName b.2
    · rw [List.pwFilter_cons_of_pos hagain] at hp
      rcases List.mem_cons.mp hp with rfl | hrest
      · rcases List.mem_cons.mp hq with rfl | hq
        · exact UsePlace.not_before_self _
        · have hnew := (forall_mem_pwFilter_name (set.useName ·.2) p placed).mp hagain
          exact absurd hname.symm (hnew q hq)
      · rcases List.mem_cons.mp hq with rfl | hq
        · exact (hx p (List.pwFilter_subset _ hrest)).asymm
        · exact ih hplaced hrest hq
    · rw [List.pwFilter_cons_of_neg hagain] at hp
      rcases List.mem_cons.mp hq with rfl | hq
      · exact (hx p (List.pwFilter_subset _ hp)).asymm
      · exact ih hplaced hp hq

/-! ## The types that uses are read from -/

/-- A chain of bases that comes to an end goes from base to base, up to the first type that is its
own base. -/
theorem EndsWithin.exists_ancestryWithin_eq (h : set.EndsWithin steps id) :
    ∃ n, set.ancestryWithin steps id = (List.range (n + 1)).map (set.baseOf^[·] id) ∧
      set.baseOf (set.baseOf^[n] id) = set.baseOf^[n] id ∧
      ∀ m < n, set.baseOf (set.baseOf^[m] id) ≠ set.baseOf^[m] id := by
  induction steps generalizing id with
  | zero => exact ⟨0, rfl, h.baseOf_eq, nofun⟩
  | succ steps ih =>
    by_cases hself : set.baseOf id = id
    · exact ⟨0, ancestryWithin_of_self hself _, hself, nofun⟩
    · obtain ⟨n, hancestry, hend, hbefore⟩ := ih (h.base hself)
      refine ⟨n + 1, ?_, hend, fun m hm => ?_⟩
      · rw [ancestryWithin_of_ne hself, hancestry, List.range_succ_eq_map (n := n + 1),
          List.map_cons, List.map_map]
        rfl
      · cases m with
        | zero => exact hself
        | succ m => exact hbefore m (Nat.lt_of_succ_lt_succ hm)

/-- From the end of a chain on, the types stay the same. -/
theorem iterate_baseOf_min (h : set.baseOf (set.baseOf^[n] id) = set.baseOf^[n] id) (level : Nat) :
    set.baseOf^[min level n] id = set.baseOf^[level] id := by
  rcases Nat.le_total level n with hle | hle
  · rw [Nat.min_eq_left hle]
  · obtain ⟨further, rfl⟩ := Nat.exists_eq_add_of_le' hle
    rw [Nat.min_eq_right hle, Function.iterate_add_apply, Function.iterate_fixed h]

/-- The root of all types is its own base in a set that has been read. -/
theorem Accepted.anyType (h : set.Accepted) :
    set.HasType anyType ∧ set.baseOf anyType = anyType := by
  obtain ⟨files, limits, location, h⟩ := h
  obtain ⟨documents, log, draft, -, hread, hs⟩ := exists_of_parse h
  have hfinished := Draft.finished_of_read hread
  refine of_complete (P := fun set => set.HasType SchemaSet.anyType ∧
    set.baseOf SchemaSet.anyType = SchemaSet.anyType) (fun set id content h => ?_)
    (fun _ => ⟨hfinished.sound.anyType, ?_⟩) hs
  · rw [baseOf_setContent]
    exact ⟨hasType_setContent.mpr h.1, h.2⟩
  · unfold baseOf
    rw [hfinished.anyType]
    rfl

/-- All bases come to an end in a set that has been read, also those of a type that is not there,
which is read as the root. -/
theorem Accepted.endsWithin (h : set.Accepted) (id : TypeId) : set.EndsWithin set.types.size id := by
  by_cases hid : set.HasType id
  · exact hasRoot_iff.mp (h.rooted id hid)
  · have hbase : set.baseOf id = SchemaSet.anyType := by
      unfold baseOf
      rw [type_of_not_hasType hid]
      rfl
    refine endsWithin_iff.mpr ⟨1, Nat.one_le_of_lt h.anyType.1, ?_⟩
    rw [Function.iterate_one, hbase, h.anyType.2]

theorem Accepted.exists_ancestry_eq (h : set.Accepted) (id : TypeId) :
    ∃ n, set.ancestry id = (List.range (n + 1)).map (set.baseOf^[·] id) ∧
      set.baseOf (set.baseOf^[n] id) = set.baseOf^[n] id ∧
      ∀ m < n, set.baseOf (set.baseOf^[m] id) ≠ set.baseOf^[m] id :=
  (h.endsWithin id).exists_ancestryWithin_eq

/-! ## Uses with their places -/

/-- The uses of a type and of the types above it, up to some level, with their places, in the order
in which they are read. -/
def placedUses (set : SchemaSet) (id : TypeId) (n : Nat) : List (UsePlace × AttributeUse) :=
  (List.range (n + 1)).reverse.flatMap fun level =>
    (set.ownUses (set.baseOf^[level] id)).zipIdx.map fun (use, index) => (⟨level, index⟩, use)

theorem mem_placedUses {place : UsePlace} {use : AttributeUse} :
    (place, use) ∈ set.placedUses id n ↔ place.level ≤ n ∧ set.useAt? id place = some use := by
  obtain ⟨level, index⟩ := place
  unfold placedUses useAt?
  simp only [List.mem_flatMap, List.mem_reverse, List.mem_range, List.mem_map, Prod.exists,
    List.mem_zipIdx_iff_getElem?, Prod.mk.injEq, UsePlace.mk.injEq]
  constructor
  · rintro ⟨_, hlevel, _, _, huse, ⟨rfl, rfl⟩, rfl⟩
    exact ⟨Nat.le_of_lt_succ hlevel, huse⟩
  · rintro ⟨hlevel, huse⟩
    exact ⟨level, Nat.lt_succ_of_le hlevel, use, index, huse, ⟨rfl, rfl⟩, rfl⟩

theorem pairwise_placedUses (set : SchemaSet) (id : TypeId) (n : Nat) :
    (set.placedUses id n).Pairwise fun p q => p.1.Before q.1 := by
  unfold placedUses
  rw [List.pairwise_flatMap, List.pairwise_reverse]
  refine ⟨fun level _ => ?_, List.pairwise_lt_range.imp fun hlt p hp q hq => ?_⟩
  · rw [List.pairwise_map, List.pairwise_iff_getElem]
    intro i j hi hj hlt
    rw [List.getElem_zipIdx, List.getElem_zipIdx]
    exact .inr ⟨rfl, Nat.add_lt_add_left hlt 0⟩
  · obtain ⟨_, -, rfl⟩ := List.mem_map.mp hp
    obtain ⟨_, -, rfl⟩ := List.mem_map.mp hq
    exact .inl hlt

theorem map_snd_placedUses (set : SchemaSet) (id : TypeId) (n : Nat) :
    (set.placedUses id n).map Prod.snd =
      ((List.range (n + 1)).map (set.baseOf^[·] id)).reverse.flatMap set.ownUses := by
  unfold placedUses
  rw [← List.map_reverse, List.flatMap_map, List.map_flatMap]
  congr 1
  funext level
  rw [List.map_map]
  exact List.zipIdx_map_fst 0 _

/-! ## The attributes of a type -/

/-- In an accepted set, the attributes of a type are read along the bases of the type, which come to
an end. No name is used twice; a name is used just if a type on the way has it, and then the use is
the last one of the nearest type that has the name. The uses stand in the order in which they are
read, from the end of the bases to the type. -/
theorem merged_attributeUses (h : set.Accepted) (id : TypeId) :
    (∃ n, set.ancestry id = (List.range (n + 1)).map (set.baseOf^[·] id) ∧
      set.baseOf (set.baseOf^[n] id) = set.baseOf^[n] id ∧
      ∀ m < n, set.baseOf (set.baseOf^[m] id) ≠ set.baseOf^[m] id) ∧
    ((set.attributeUses id).map set.useName).Nodup ∧
    (∀ name, name ∈ (set.attributeUses id).map set.useName ↔
      ∃ level, ∃ use ∈ set.ownUses (set.baseOf^[level] id), set.useName use = name) ∧
    ∃ places, places.Pairwise UsePlace.Before ∧
      List.Forall₂ (set.Survives id) places (set.attributeUses id) := by
  obtain ⟨n, hancestry, hend, hbefore⟩ := h.exists_ancestry_eq id
  refine ⟨⟨n, hancestry, hend, hbefore⟩, set.nodup_attributeUses id, fun name => ?_, ?_⟩
  · unfold attributeUses
    rw [mem_useNames_foldl_addUse, hancestry]
    simp only [List.map_nil, List.not_mem_nil, false_or, List.mem_map, List.mem_flatMap,
      List.mem_reverse, List.mem_range]
    constructor
    · rintro ⟨use, ⟨_, ⟨level, -, rfl⟩, huse⟩, rfl⟩
      exact ⟨level, use, huse, rfl⟩
    · -- A level beyond the end is the type at the end again.
      rintro ⟨level, use, huse, rfl⟩
      refine ⟨use, ⟨_, ⟨min level n, Nat.lt_succ_of_le (Nat.min_le_right _ _), rfl⟩, ?_⟩, rfl⟩
      rwa [iterate_baseOf_min hend]
  · -- The fold starts from no uses, so what it leaves is a filter, and the places can be kept.
    have huses : set.attributeUses id = ((set.placedUses id n).pwFilter fun p q =>
        set.useName p.2 ≠ set.useName q.2).map Prod.snd := by
      unfold attributeUses
      rw [hancestry, ← map_snd_placedUses, foldl_addUse_eq_pwFilter, List.pwFilter_map]
      rfl
    have horder := set.pairwise_placedUses id n
    refine ⟨((set.placedUses id n).pwFilter fun p q => set.useName p.2 ≠ set.useName q.2).map
      Prod.fst, List.pairwise_map.mpr (horder.sublist (List.pwFilter_sublist _)), ?_⟩
    rw [huses, List.forall₂_map_left_iff, List.forall₂_map_right_iff, List.forall₂_same]
    rintro ⟨place, use⟩ hkept
    obtain ⟨hlevel, huse⟩ := mem_placedUses.mp (List.pwFilter_subset _ hkept)
    refine ⟨huse, fun place' use' huse' hname hbefore => ?_⟩
    -- A later use is no farther away, so it is among those that are read.
    have hlevel' : place'.level ≤ n := by
      rcases hbefore with hlt | ⟨heq, -⟩
      · exact (Nat.le_of_lt hlt).trans hlevel
      · exact heq ▸ hlevel
    exact not_before_of_mem_pwFilter horder hkept (mem_placedUses.mpr ⟨hlevel', huse'⟩) hname
      hbefore

section Redeclaring

set_option maxRecDepth 100000

/-- An extension that has an attribute of its base again, and that twice. -/
def redeclaringText : String :=
  "<schema xmlns=\"http://www.w3.org/2001/XMLSchema\" xmlns:t=\"t\" targetNamespace=\"t\">" ++
  "<complexType name=\"B\"><attribute name=\"a\" type=\"string\"/>" ++
  "<attribute name=\"b\" type=\"string\"/></complexType>" ++
  "<complexType name=\"D\"><complexContent><extension base=\"t:B\">" ++
  "<attribute name=\"a\" type=\"int\"/><attribute name=\"c\" type=\"int\"/>" ++
  "<attribute name=\"a\" type=\"date\"/></extension></complexContent></complexType></schema>"

/-- The attribute that is there again stands where it comes last. -/
theorem merged_attributeUses_redeclared : ∃ places,
    List.Forall₂ ((ofText redeclaringText).Survives ⟨47⟩) places
      ((ofText redeclaringText).attributeUses ⟨47⟩) ∧
    (ofText redeclaringText).attributeUses ⟨47⟩ = [⟨⟨1⟩, false⟩, ⟨⟨3⟩, false⟩, ⟨⟨4⟩, false⟩] := by
  obtain ⟨hread, huses⟩ : (readText redeclaringText).isOk = true ∧
      (ofText redeclaringText).attributeUses ⟨47⟩ =
        [⟨⟨1⟩, false⟩, ⟨⟨3⟩, false⟩, ⟨⟨4⟩, false⟩] := by
    decide +kernel
  obtain ⟨-, -, -, places, -, hplaces⟩ := merged_attributeUses (accepted_ofText hread) ⟨47⟩
  exact ⟨places, hplaces, huses⟩

end Redeclaring

end SchemaSet

end SchemaBinding.Xsd
