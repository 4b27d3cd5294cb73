import Mathlib.Data.List.DropRight
import Mathlib.Data.List.TakeDrop
import SchemaBinding.Json.Printer
import SchemaBinding.Json.Reader
import SchemaBinding.Proofs.Text.Unsigned

/-!
# Reading what has been written

Whatever is written of a value, the value is read back from it, also when something follows that
does not go on a number. Numbers are written back as they are only if they are natural, and strings
only if they are texts.

## Main definitions

* `Value.Plain`: values of texts and natural numbers
* `EndsNumber`: what may follow a number
* `Value.ReadsBack`: a value is read from what is written of it

## Main results

* `number_digits`: natural numbers
* `string_escape`: texts
* `Value.Plain.readsBack`: values
* `Value.Plain.parse?_pretty`: texts of values
-/

namespace SchemaBinding.Json

/-- A value of texts and natural numbers. -/
inductive Value.Plain : Value → Prop
  | null : Plain .null
  | bool (b : Bool) : Plain (.bool b)
  | natural (n : Nat) : Plain (.natural n)
  | text (s : String) : Plain (.text s)
  | array {items : List Value} : (∀ v ∈ items, Plain v) → Plain (.array items)
  | record {members : List (String × Value)} :
      (∀ m ∈ members, Plain m.2) → Plain (.record members)

/-! ## Blanks -/

theorem skipBlanks_cons {c : Char} (h : isBlank c = false) (cs : List Char) :
    skipBlanks (c :: cs) = c :: cs := by
  simp [skipBlanks, h]

@[simp] theorem skipBlanks_newLine (level : Nat) (cs : List Char) :
    skipBlanks (newLine level ++ cs) = skipBlanks cs := by
  have hspaces : ∀ n, (List.replicate n ' ' ++ cs).dropWhile isBlank = cs.dropWhile isBlank := by
    intro n
    induction n with
    | zero => rfl
    | succ n ih => exact ih
  exact hspaces (2 * level)

/-- A value is looked for after blanks. -/
theorem value_skip {cs cs' : List Char} (h : skipBlanks cs = skipBlanks cs') (fuel : Nat) :
    value fuel cs = value fuel cs' := by
  cases fuel with
  | zero => rw [value, value]
  | succ fuel => rw [value, value, h]

/-! ## Numbers -/

/-- What may follow a number: nothing of which the number would be a part. -/
def EndsNumber (rest : List Char) : Prop :=
  ∀ c ∈ rest.head?, c.isDigit = false ∧ c ≠ '.' ∧ c ≠ 'e' ∧ c ≠ 'E'

theorem endsNumber_nil : EndsNumber [] := nofun

theorem endsNumber_comma (cs : List Char) : EndsNumber (',' :: cs) := by
  rintro c ⟨⟩
  decide

theorem endsNumber_newLine (level : Nat) (cs : List Char) : EndsNumber (newLine level ++ cs) := by
  rintro c ⟨⟩
  decide

theorem isDigit_of_mem_digits {n : Nat} {c : Char} (h : c ∈ digits n) : c.isDigit = true :=
  Nat.isDigit_of_mem_toDigits (by decide) (by decide) h

/-- A digit opens neither a string nor an array nor an object, and is no sign. -/
theorem ne_of_isDigit {c d : Char} (h : c.isDigit = true) (hd : d.isDigit = false) : c ≠ d := by
  rintro rfl
  rw [h] at hd
  cases hd

/-- The digits of a number, and what follows. -/
theorem exists_digits (n : Nat) : ∃ d ds, digits n = d :: ds ∧ d.isDigit = true := by
  cases h : digits n with
  | nil => exact absurd h Nat.toDigits_ne_nil
  | cons d ds => exact ⟨d, ds, rfl, isDigit_of_mem_digits (h ▸ List.mem_cons_self)⟩

/-- The first digit of a number is no zero, unless the number is. -/
theorem head?_digits {n : Nat} (h : n ≠ 0) : (digits n).head? ≠ some '0' := by
  induction n using Nat.strongRecOn with
  | ind n ih =>
    by_cases hn : n < 10
    · have hdigit : ∀ n < 10, n ≠ 0 → [Nat.digitChar n].head? ≠ some '0' := by decide
      rw [digits, Nat.toDigits_of_lt_base hn]
      exact hdigit n hn h
    · have hdiv : n / 10 ≠ 0 := by omega
      rw [digits, Nat.toDigits_of_base_le (by decide) (by omega),
        List.head?_append_of_ne_nil _ Nat.toDigits_ne_nil]
      exact ih (n / 10) (by omega) hdiv

theorem valueOf_digits (n : Nat) : valueOf (digits n) = n := by
  have hnumber : Text.number? 10 (digits n) = some n := by
    rw [Text.number?, Text.numberFrom_eq fun c hc => isDigit_of_mem_digits hc, digits,
      Nat.ofDigitChars_toDigits (by decide) (by decide)]
  obtain ⟨d, ds, hds, -⟩ := exists_digits n
  rw [hds] at hnumber ⊢
  simp [valueOf, Text.decimal?, hnumber]

theorem someDigits_digits (n : Nat) {rest : List Char} (h : EndsNumber rest) :
    someDigits (digits n ++ rest) = some (digits n, rest) := by
  have hspan : (digits n ++ rest).span Char.isDigit = (digits n, rest) := by
    rw [List.span_eq_takeWhile_dropWhile,
      List.takeWhile_append_of_pos fun c hc => isDigit_of_mem_digits hc,
      List.dropWhile_append_of_pos fun c hc => isDigit_of_mem_digits hc]
    cases rest with
    | nil => simp
    | cons c rest => simp [h c rfl]
  obtain ⟨d, ds, hds, -⟩ := exists_digits n
  rw [someDigits, hspan, hds]

/-- The digits of a number are read to their end, and no further. -/
theorem wholeDigits_digits (n : Nat) {rest : List Char} (h : EndsNumber rest) :
    wholeDigits (digits n ++ rest) = some (digits n, rest) := by
  by_cases hn : n = 0
  · subst hn
    show wholeDigits ('0' :: rest) = some (['0'], rest)
    rw [wholeDigits]
    cases rest with
    | nil => rfl
    | cons c rest => simp [h c rfl]
  · rw [← someDigits_digits n h]
    obtain ⟨d, ds, hds, -⟩ := exists_digits n
    have hd := head?_digits hn
    rw [hds] at hd ⊢
    rw [List.cons_append, wholeDigits]
    rintro rest' ⟨⟩
    exact hd rfl

/-- A natural number is read back from its digits. -/
theorem number_digits (n : Nat) {rest : List Char} (h : EndsNumber rest) :
    number (digits n ++ rest) = some (.natural n, rest) := by
  have hfraction : fraction rest = some ([], rest) := by
    cases rest with
    | nil => rfl
    | cons c rest =>
      rw [fraction]
      rintro rest' ⟨⟩
      exact (h '.' rfl).2.1 rfl
  have hexponent : exponent rest = some (none, rest) := by
    cases rest with
    | nil => rfl
    | cons c rest => simp [exponent, h c rfl]
  have hunsigned : unsignedNumber false (digits n ++ rest) = some (.natural n, rest) := by
    simp [unsignedNumber, wholeDigits_digits n h, hfraction, hexponent, valueOf_digits]
  obtain ⟨d, ds, hds, hd⟩ := exists_digits n
  rw [← hunsigned, hds, List.cons_append, number]
  rintro rest' ⟨⟩
  exact ne_of_isDigit hd (by decide) rfl

/-! ## Strings -/

/-- The piece that a character is read as. -/
def pieceOf (c : Char) : Piece :=
  if c.toNat < 32 ∧ c ∉ ['\x08', '\t', '\n', '\x0c', '\r'] then .unit c.toNat else .char c

/-- The four digits of a control character. -/
theorem unitOf?_hexDigit :
    ∀ n < 32, unitOf? '0' '0' (hexDigit (n / 16)) (hexDigit (n % 16)) = some n := by
  decide

/-- A character with a short escape is read as itself. -/
theorem stringBody_shortEscape {c e : Char} (he : shortEscape? e = some c) (hu : e ≠ 'u')
    (cs : List Char) : stringBody ('\\' :: e :: cs) =
      (stringBody cs).map fun (pieces, rest) => (.char c :: pieces, rest) := by
  rw [stringBody]
  · rw [he]
    cases stringBody cs <;> rfl
  · rintro a b c d rest rfl -
    exact hu rfl

/-- What is written of a character is read as its piece. -/
theorem stringBody_escape (c : Char) (cs : List Char) :
    stringBody (escape c ++ cs) =
      (stringBody cs).map fun (pieces, rest) => (pieceOf c :: pieces, rest) := by
  unfold escape
  split
  any_goals exact stringBody_shortEscape rfl (by decide) cs
  next hquote hslash hb ht hn hf hr =>
    split
    · next hcontrol =>
      have hlong : c ∉ ['\x08', '\t', '\n', '\x0c', '\r'] := by
        simpa using ⟨hb, ht, hn, hf, hr⟩
      have hpiece : pieceOf c = .unit c.toNat := if_pos ⟨hcontrol, hlong⟩
      show stringBody ('\\' :: 'u' :: '0' :: '0' :: _ :: _ :: cs) = _
      rw [stringBody, unitOf?_hexDigit c.toNat hcontrol, hpiece]
      cases stringBody cs <;> rfl
    · next hcontrol =>
      have hpiece : pieceOf c = .char c := if_neg fun h => hcontrol h.1
      rw [List.singleton_append, stringBody, if_neg hcontrol, hpiece]
      · cases stringBody cs <;> rfl
      · exact hquote
      · exact fun _ _ _ _ _ h _ => hslash h
      · exact fun _ _ h _ => hslash h

/-- The code unit of a control character is no part of a surrogate pair. -/
theorem charsOf?_unit {n : Nat} (h : n < 32) (pieces : List Piece) :
    charsOf? (.unit n :: pieces) = (charsOf? pieces).map (Char.ofNat n :: ·) := by
  have hhigh : isHighSurrogate n = false := by
    simp only [isHighSurrogate, Bool.and_eq_false_imp, decide_eq_true_eq, decide_eq_false_iff_not]
    omega
  have hlow : isLowSurrogate n = false := by
    simp only [isLowSurrogate, Bool.and_eq_false_imp, decide_eq_true_eq, decide_eq_false_iff_not]
    omega
  cases pieces with
  | nil => simp [charsOf?, hhigh, hlow]
  | cons p pieces => cases p <;> simp [charsOf?, hhigh, hlow]

/-- The pieces of characters make up these characters. -/
theorem charsOf?_pieces (cs : List Char) : charsOf? (cs.map pieceOf) = some cs := by
  induction cs with
  | nil => rfl
  | cons c cs ih =>
    rw [List.map_cons, pieceOf]
    split
    · next h => rw [charsOf?_unit h.1, ih, Option.map_some, Char.ofNat_toNat]
    · rw [charsOf?, ih, Option.map_some]

/-- A text is read back from what is written of it. -/
theorem string_escape (s : String) (rest : List Char) :
    string (s.toList.flatMap escape ++ '"' :: rest) = some (some s, rest) := by
  have hbody : ∀ cs : List Char,
      stringBody (cs.flatMap escape ++ '"' :: rest) = some (cs.map pieceOf, rest) := by
    intro cs
    induction cs with
    | nil => rfl
    | cons c cs ih => rw [List.flatMap_cons, List.append_assoc, stringBody_escape, ih]; rfl
  have htext : textOf (s.toList.map pieceOf) = some s := by
    simp [textOf, charsOf?_pieces]
  rw [string, hbody, ← htext]
  rfl

/-! ## Arrays and objects -/

section Steps

variable {fuel : Nat} {cs cs' cs'' rest : List Char} {name : Option String} {v : Value}
  {vs : List Value} {ms : List (Option String × Value)}

/-- An item with a comma behind it is followed by other items. -/
theorem items_more (hv : value fuel cs = some (v, ',' :: cs'))
    (hvs : items fuel cs' = some (vs, rest)) : items (fuel + 1) cs = some (v :: vs, rest) := by
  have hskip : skipBlanks (',' :: cs') = ',' :: cs' := skipBlanks_cons (by decide) cs'
  simp [items, hv, hskip, hvs]

/-- The last item is the one behind which the array is closed. -/
theorem items_last (hv : value fuel cs = some (v, cs')) (hend : skipBlanks cs' = ']' :: rest) :
    items (fuel + 1) cs = some ([v], rest) := by
  simp [items, hv, hend]

theorem items_skip (h : skipBlanks cs = skipBlanks cs') (fuel : Nat) :
    items fuel cs = items fuel cs' := by
  cases fuel with
  | zero => rw [items, items]
  | succ fuel => rw [items, items, value_skip h]

/-- A member with a comma behind it is followed by other members. -/
theorem members_more (hname : skipBlanks cs = '"' :: cs')
    (hs : string cs' = some (name, ':' :: cs'')) {after : List Char}
    (hv : value fuel cs'' = some (v, ',' :: after))
    (hvs : members fuel after = some (ms, rest)) :
    members (fuel + 1) cs = some ((name, v) :: ms, rest) := by
  have hcolon : skipBlanks (':' :: cs'') = ':' :: cs'' := skipBlanks_cons (by decide) cs''
  have hcomma : skipBlanks (',' :: after) = ',' :: after := skipBlanks_cons (by decide) after
  simp [members, hname, hs, hcolon, hv, hcomma, hvs]

/-- The last member is the one behind which the object is closed. -/
theorem members_last (hname : skipBlanks cs = '"' :: cs')
    (hs : string cs' = some (name, ':' :: cs'')) {after : List Char}
    (hv : value fuel cs'' = some (v, after)) (hend : skipBlanks after = '\x7d' :: rest) :
    members (fuel + 1) cs = some ([(name, v)], rest) := by
  have hcolon : skipBlanks (':' :: cs'') = ':' :: cs'' := skipBlanks_cons (by decide) cs''
  simp [members, hname, hs, hcolon, hv, hend]

theorem members_skip (h : skipBlanks cs = skipBlanks cs') (fuel : Nat) :
    members fuel cs = members fuel cs' := by
  cases fuel with
  | zero => rw [members, members]
  | succ fuel => rw [members, members, h]

end Steps

/-! ## Values -/

/-- A value is read from what is written of it, if the recursion may be as deep as the text is
long. -/
def Value.ReadsBack (v : Value) : Prop :=
  ∀ level fuel rest, (v.write level).length ≤ fuel → EndsNumber rest →
    value fuel (v.write level ++ rest) = some (v, rest)

/-- A value is read back behind the space that stands after the name of a member. -/
theorem Value.ReadsBack.afterSpace {v : Value} (h : v.ReadsBack) (level : Nat) {fuel : Nat}
    {rest : List Char} (hfuel : (v.write level).length ≤ fuel) (hrest : EndsNumber rest) :
    value fuel (' ' :: (v.write level ++ rest)) = some (v, rest) := by
  have hskip : skipBlanks (' ' :: (v.write level ++ rest)) = skipBlanks (v.write level ++ rest) :=
    rfl
  rw [value_skip hskip, h level fuel rest hfuel hrest]

/-- Items are read from what is written of them. -/
theorem items_writeItems {v : Value} {vs : List Value} (h : ∀ u ∈ v :: vs, u.ReadsBack)
    (level inner : Nat) {fuel : Nat} (rest : List Char)
    (hfuel : (v.write inner).length + (Value.writeItems inner vs).length < fuel) :
    items fuel (v.write inner ++ (Value.writeItems inner vs ++ (newLine level ++ ']' :: rest))) =
      some (v :: vs, rest) := by
  induction vs generalizing v fuel with
  | nil =>
    obtain ⟨fuel, rfl⟩ : ∃ n, fuel = n + 1 := ⟨fuel - 1, by omega⟩
    refine items_last (h v List.mem_cons_self inner fuel _ (by omega) (endsNumber_newLine _ _)) ?_
    rw [Value.writeItems, List.nil_append, skipBlanks_newLine]
    exact skipBlanks_cons (by decide) rest
  | cons u us ih =>
    obtain ⟨fuel, rfl⟩ : ∃ n, fuel = n + 1 := ⟨fuel - 1, by omega⟩
    simp only [Value.writeItems, List.length_cons, List.length_append] at hfuel
    have htail : Value.writeItems inner (u :: us) ++ (newLine level ++ ']' :: rest) =
        ',' :: (newLine inner ++ (u.write inner ++
          (Value.writeItems inner us ++ (newLine level ++ ']' :: rest)))) := by
      simp [Value.writeItems]
    rw [htail]
    refine items_more (h v List.mem_cons_self inner fuel _ (by omega) (endsNumber_comma _)) ?_
    rw [items_skip (skipBlanks_newLine inner _)]
    exact ih (fun w hw => h w (List.mem_cons_of_mem v hw)) (by omega)

/-- Members of an object, named by texts. -/
def named (ms : List (String × Value)) : List (Option String × Value) :=
  ms.map fun (name, v) => (some name, v)

theorem skipBlanks_quote (s : String) (cs : List Char) :
    skipBlanks (quote (some s) ++ cs) = '"' :: (s.toList.flatMap escape ++ '"' :: cs) := by
  rw [quote, List.cons_append, List.cons_append, skipBlanks_cons (by decide), List.append_assoc]
  rfl

/-- Members are read from what is written of them. -/
theorem members_writeMembers {m : String × Value} {ms : List (String × Value)}
    (h : ∀ u ∈ m :: ms, u.2.ReadsBack) (level inner : Nat) {fuel : Nat} (rest : List Char)
    (hfuel : (m.2.write inner).length + (Value.writeMembers inner (named ms)).length < fuel) :
    members fuel (quote (some m.1) ++ (':' :: ' ' :: (m.2.write inner ++
        (Value.writeMembers inner (named ms) ++ (newLine level ++ '\x7d' :: rest))))) =
      some (named (m :: ms), rest) := by
  induction ms generalizing m fuel with
  | nil =>
    obtain ⟨fuel, rfl⟩ : ∃ n, fuel = n + 1 := ⟨fuel - 1, by omega⟩
    refine members_last (skipBlanks_quote m.1 _) (string_escape m.1 _)
      ((h m List.mem_cons_self).afterSpace inner (by omega) (endsNumber_newLine _ _)) ?_
    show skipBlanks (newLine level ++ '\x7d' :: rest) = _
    rw [skipBlanks_newLine]
    exact skipBlanks_cons (by decide) rest
  | cons u us ih =>
    obtain ⟨fuel, rfl⟩ : ∃ n, fuel = n + 1 := ⟨fuel - 1, by omega⟩
    have htail : Value.writeMembers inner (named (u :: us)) ++ (newLine level ++ '\x7d' :: rest) =
        ',' :: (newLine inner ++ (quote (some u.1) ++ (':' :: ' ' :: (u.2.write inner ++
          (Value.writeMembers inner (named us) ++ (newLine level ++ '\x7d' :: rest)))))) := by
      simp [named, Value.writeMembers]
    have hlength : (Value.writeMembers inner (named (u :: us))).length >
        (u.2.write inner).length + (Value.writeMembers inner (named us)).length := by
      simp only [named, List.map_cons, Value.writeMembers, List.length_cons, List.length_append]
      omega
    rw [htail]
    refine members_more (skipBlanks_quote m.1 _) (string_escape m.1 _)
      ((h m List.mem_cons_self).afterSpace inner (by omega) (endsNumber_comma _)) ?_
    rw [members_skip (skipBlanks_newLine inner _)]
    exact ih (fun w hw => h w (List.mem_cons_of_mem m hw)) (by omega)

/-! ### Each kind of value -/

section Kinds

variable {fuel : Nat} {cs cs' rest : List Char}

/-- No other value begins with a digit. -/
theorem value_of_isDigit {c : Char} (h : c.isDigit = true) (fuel : Nat) (cs : List Char) :
    value (fuel + 1) (c :: cs) = number (c :: cs) := by
  have hblank : isBlank c = false := by
    simp [isBlank, ne_of_isDigit h]
  rw [value, skipBlanks_cons hblank]
  split
  case h_7 => rfl
  -- In the other cases the digit would be a letter, a quote or a bracket.
  all_goals
    rename_i heq
    cases heq
    cases h

theorem value_text (s : String) (fuel : Nat) (rest : List Char) :
    value (fuel + 1) (quote (some s) ++ rest) = some (.text s, rest) := by
  rw [value, skipBlanks_quote]
  simp [string_escape, Value.text]

theorem skipBlanks_skipBlanks (cs : List Char) : skipBlanks (skipBlanks cs) = skipBlanks cs :=
  List.dropWhile_idempotent isBlank cs

theorem value_array {vs : List Value} (hfirst : ∃ c ∈ (skipBlanks cs).head?, c ≠ ']')
    (hvs : items fuel cs = some (vs, rest)) :
    value (fuel + 1) ('[' :: cs) = some (.array vs, rest) := by
  obtain ⟨c, hhead, hc⟩ := hfirst
  obtain ⟨cs', hskip⟩ := List.head?_eq_some_iff.mp hhead
  have hopen : skipBlanks ('[' :: cs) = '[' :: cs := skipBlanks_cons (by decide) cs
  have hitems : items fuel (c :: cs') = some (vs, rest) := by
    rw [← hskip, items_skip (skipBlanks_skipBlanks cs), hvs]
  simp [value, hopen, hskip, hc, hitems]

theorem value_object {ms : List (Option String × Value)} (hskip : skipBlanks cs = '"' :: cs')
    (hms : members fuel cs = some (ms, rest)) :
    value (fuel + 1) ('\x7b' :: cs) = some (.object ms, rest) := by
  have hopen : skipBlanks ('\x7b' :: cs) = '\x7b' :: cs := skipBlanks_cons (by decide) cs
  have hmembers : members fuel ('"' :: cs') = some (ms, rest) := by
    rw [← hskip, members_skip (skipBlanks_skipBlanks cs), hms]
  simp [value, hopen, hskip, hmembers]

end Kinds

/-- What is written of a value begins with no blank, nor with the end of an array. -/
theorem Value.Plain.exists_write {v : Value} (h : v.Plain) (level : Nat) :
    ∃ c cs, v.write level = c :: cs ∧ isBlank c = false ∧ c ≠ ']' := by
  cases h with
  | null => exact ⟨'n', _, rfl, by decide, by decide⟩
  | bool b => cases b with
    | false => exact ⟨'f', _, rfl, by decide, by decide⟩
    | true => exact ⟨'t', _, rfl, by decide, by decide⟩
  | natural n =>
    obtain ⟨d, ds, hds, hd⟩ := exists_digits n
    exact ⟨d, ds, hds, by simp [isBlank, ne_of_isDigit hd], ne_of_isDigit hd (by decide)⟩
  | text s => exact ⟨'"', _, rfl, by decide, by decide⟩
  | @array vs _ => cases vs with
    | nil => exact ⟨'[', _, rfl, by decide, by decide⟩
    | cons v vs => exact ⟨'[', _, rfl, by decide, by decide⟩
  | @record ms _ => cases ms with
    | nil => exact ⟨'\x7b', _, rfl, by decide, by decide⟩
    | cons m ms => exact ⟨'\x7b', _, rfl, by decide, by decide⟩

/-- A value of texts and natural numbers is read back. By induction on the value; the fuel is
counted by the characters that are written. -/
theorem Value.Plain.readsBack {v : Value} (h : v.Plain) : v.ReadsBack := by
  induction h with
  | null =>
    rintro level (_ | fuel) rest hfuel -
    · cases hfuel
    · rfl
  | bool b =>
    rintro level (_ | fuel) rest hfuel -
    · cases b <;> cases hfuel
    · cases b <;> rfl
  | natural n =>
    rintro level (_ | fuel) rest hfuel hrest
    · exact absurd (Nat.le_zero.mp hfuel) (Nat.ne_of_gt Nat.length_toDigits_pos)
    · obtain ⟨d, ds, hds, hd⟩ := exists_digits n
      rw [write, ← number_digits n hrest, hds, List.cons_append, value_of_isDigit hd]
  | text s =>
    rintro level (_ | fuel) rest hfuel -
    · cases hfuel
    · exact value_text s fuel rest
  | @array vs hvs ih =>
    rintro level (_ | fuel) rest hfuel -
    · cases vs <;> cases hfuel
    · cases vs with
      | nil => rfl
      | cons v vs =>
        obtain ⟨c, cs, hv, hblank, hc⟩ := (hvs v List.mem_cons_self).exists_write (level + 1)
        have htext : write level (.array (v :: vs)) ++ rest =
            '[' :: (newLine (level + 1) ++ (v.write (level + 1) ++
              (writeItems (level + 1) vs ++ (newLine level ++ ']' :: rest)))) := by
          simp [write]
        rw [write] at hfuel
        simp only [List.length_cons, List.length_append] at hfuel
        rw [htext]
        refine value_array ⟨c, ?_, hc⟩ ?_
        · rw [skipBlanks_newLine, hv, List.cons_append, skipBlanks_cons hblank]
          rfl
        · rw [items_skip (skipBlanks_newLine _ _)]
          exact items_writeItems ih level (level + 1) rest (by omega)
  | @record ms _ ih =>
    rintro level (_ | fuel) rest hfuel -
    · cases ms <;> cases hfuel
    · cases ms with
      | nil => rfl
      | cons m ms =>
        have htext : write level (.record (m :: ms)) ++ rest =
            '\x7b' :: (newLine (level + 1) ++ (quote (some m.1) ++ (':' :: ' ' ::
              (m.2.write (level + 1) ++ (writeMembers (level + 1) (named ms) ++
                (newLine level ++ '\x7d' :: rest)))))) := by
          simp [Value.record, write, named]
        -- The fuel has to last for the value of the member and for the members after it.
        have hlength : (write level (.record (m :: ms))).length >
            (m.2.write (level + 1)).length + (writeMembers (level + 1) (named ms)).length + 1 := by
          simp only [Value.record, write, named, List.map_cons, List.length_cons,
            List.length_append]
          omega
        rw [htext]
        refine value_object ((skipBlanks_newLine _ _).trans (skipBlanks_quote m.1 _)) ?_
        rw [members_skip (skipBlanks_newLine _ _)]
        exact members_writeMembers ih level (level + 1) rest (by omega)

/-- A value of texts and natural numbers is read back from its text. -/
theorem Value.Plain.parse?_pretty {v : Value} (h : v.Plain) : Value.parse? v.pretty = some v := by
  have hvalue := h.readsBack 0 (2 * (v.write 0).length + 2) [] (by omega) endsNumber_nil
  rw [List.append_nil] at hvalue
  simp [Value.parse?, Value.pretty, Value.ofChars?, hvalue, skipBlanks]

end SchemaBinding.Json
