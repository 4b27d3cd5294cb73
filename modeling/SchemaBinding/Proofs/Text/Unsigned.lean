import Mathlib.Data.List.TakeWhile
import SchemaBinding.Text.Blank
import SchemaBinding.Text.Unsigned

/-!
# Numbers written in decimal

A text is read as a number of 32 bits just if it spells one: an optional `+`, then digits, leading
zeros included, whose value is small enough. Blanks at the ends of a text are no part of what it
holds. The shortest text of a number spells it.

## Main definitions

* `Spells`: a text that is a number in decimal
* `Encloses`: a text with another one between blanks

## Main results

* `decimal?_eq_some_iff`, `unsigned?_eq_some_iff`: what is read as a number
* `trim_eq_iff`: what is left without the blanks
* `spells_ofUnsigned`: the text of a number
-/

namespace SchemaBinding.Text

/-- A text is a number of 32 bits in decimal: an optional `+`, then one or more digits with the
value of the number. -/
def Spells (s : String) (n : UInt32) : Prop :=
  ∃ ds : List Char, (s.toList = ds ∨ s.toList = '+' :: ds) ∧ ds ≠ [] ∧
    (∀ c ∈ ds, c.isDigit = true) ∧ Nat.ofDigitChars 10 ds 0 = n.toNat

/-- A text is another one between blanks, of which there may be none on either side. -/
def Encloses (s t : String) : Prop :=
  ∃ before after : List Char, s.toList = before ++ t.toList ++ after ∧
    ∀ c ∈ before ++ after, isBlank c = true

/-! ## Digits -/

theorem digit?_of_isDigit {c : Char} (h : c.isDigit = true) :
    digit? 10 c = some (c.toNat - '0'.toNat) := by
  have hbounds : '0' ≤ c ∧ c ≤ '9' := by
    simpa [Char.isDigit, Char.le_def] using h
  have hlt : c.toNat - 48 < 10 := by
    have hle : c.toNat ≤ 57 := hbounds.2
    omega
  simp [digit?, hexDigit?, hbounds, hlt]

/-- Letters are no decimal digits. -/
theorem isDigit_of_digit? {c : Char} {d : Nat} (h : digit? 10 c = some d) : c.isDigit = true := by
  obtain ⟨hhex, hlt⟩ := Option.filter_eq_some_iff.mp h
  have hlt : d < 10 := of_decide_eq_true hlt
  unfold hexDigit? at hhex
  split at hhex
  · next hbounds => simpa [Char.isDigit, Char.le_def] using hbounds
  · split at hhex
    · cases hhex
      omega
    · split at hhex
      · cases hhex
        omega
      · cases hhex

theorem numberFrom_eq {cs : List Char} (h : ∀ c ∈ cs, c.isDigit = true) (value : Nat) :
    numberFrom 10 value cs = some (Nat.ofDigitChars 10 cs value) := by
  induction cs generalizing value with
  | nil => rfl
  | cons c cs ih =>
    rw [numberFrom, digit?_of_isDigit (h c List.mem_cons_self)]
    exact ih (fun c' hc' => h c' (List.mem_cons_of_mem c hc')) _

theorem isDigit_of_numberFrom {cs : List Char} {value n : Nat}
    (h : numberFrom 10 value cs = some n) : ∀ c ∈ cs, c.isDigit = true := by
  induction cs generalizing value with
  | nil => exact nofun
  | cons c cs ih =>
    rw [numberFrom] at h
    split at h
    · next hd => exact List.forall_mem_cons.mpr ⟨isDigit_of_digit? hd, ih h⟩
    · cases h

/-- Characters are a decimal number just if they are digits, at least one. -/
theorem decimal?_eq_some_iff {cs : List Char} {n : Nat} : decimal? cs = some n ↔
    cs ≠ [] ∧ (∀ c ∈ cs, c.isDigit = true) ∧ Nat.ofDigitChars 10 cs 0 = n := by
  cases cs with
  | nil => exact ⟨nofun, fun h => absurd rfl h.1⟩
  | cons c cs =>
    show numberFrom 10 0 (c :: cs) = some n ↔ _
    constructor
    · intro h
      have hdigits := isDigit_of_numberFrom h
      rw [numberFrom_eq hdigits] at h
      exact ⟨List.cons_ne_nil c cs, hdigits, Option.some.inj h⟩
    · rintro ⟨-, hdigits, rfl⟩
      exact numberFrom_eq hdigits 0

/-! ## Numbers of 32 bits -/

theorem ofNat32?_eq_some_iff {k : Nat} {n : UInt32} : ofNat32? k = some n ↔ k = n.toNat := by
  unfold ofNat32? maxUnsigned
  constructor
  · intro h
    split at h
    · next hle =>
      cases h
      exact (UInt32.toNat_ofNat_of_lt' (Nat.lt_succ_of_le hle)).symm
    · cases h
  · rintro rfl
    rw [if_pos (Nat.le_of_lt_succ n.toNat_lt), UInt32.ofNat_toNat]

/-- A text is read as a number just if it spells it. -/
theorem unsigned?_eq_some_iff {s : String} {n : UInt32} : unsigned? s = some n ↔ Spells s n := by
  have hread (ds : List Char) : (decimal? ds).bind ofNat32? = some n ↔
      ds ≠ [] ∧ (∀ c ∈ ds, c.isDigit = true) ∧ Nat.ofDigitChars 10 ds 0 = n.toNat := by
    simp only [Option.bind_eq_some_iff, decimal?_eq_some_iff, ofNat32?_eq_some_iff]
    constructor
    · rintro ⟨_, ⟨hne, hdigits, rfl⟩, hvalue⟩
      exact ⟨hne, hdigits, hvalue⟩
    · rintro ⟨hne, hdigits, hvalue⟩
      exact ⟨_, ⟨hne, hdigits, rfl⟩, hvalue⟩
  unfold unsigned? Spells
  generalize s.toList = cs
  split
  · next ds =>
    rw [hread]
    constructor
    · exact fun h => ⟨ds, .inr rfl, h⟩
    · rintro ⟨ds', rfl | hds, hne, hdigits, hvalue⟩
      · exact absurd (hdigits '+' List.mem_cons_self) (by decide)
      · obtain rfl := (List.cons.inj hds).2
        exact ⟨hne, hdigits, hvalue⟩
  · next hsign =>
    rw [hread]
    constructor
    · exact fun h => ⟨cs, .inl rfl, h⟩
    · rintro ⟨ds, rfl | hds, h⟩
      · exact h
      · exact absurd hds (hsign ds)

/-! ## Blanks -/

/-- Blanks are dropped up to a character that is none. -/
theorem dropWhile_isBlank {before cs : List Char} (hbefore : ∀ c ∈ before, isBlank c = true)
    (hcs : ∀ c ∈ cs.head?, isBlank c = false) : (before ++ cs).dropWhile isBlank = cs := by
  rw [List.dropWhile_append_of_pos hbefore]
  cases cs with
  | nil => rfl
  | cons c cs => rw [List.dropWhile_cons_of_neg (by simp [hcs c rfl])]

theorem trimBlanks_append {before cs after : List Char} (hbefore : ∀ c ∈ before, isBlank c = true)
    (hcs : ∀ c ∈ cs, isBlank c = false) (hafter : ∀ c ∈ after, isBlank c = true) :
    trimBlanks (before ++ cs ++ after) = cs := by
  unfold trimBlanks
  cases cs with
  | nil =>
    have hall : (before ++ [] ++ after).dropWhile isBlank = [] := by
      rw [List.dropWhile_eq_nil_iff, List.append_nil]
      exact fun c hc => (List.mem_append.mp hc).elim (hbefore c) (hafter c)
    rw [hall]
    rfl
  | cons c cs =>
    have hstart : (before ++ (c :: cs) ++ after).dropWhile isBlank = c :: cs ++ after := by
      rw [List.append_assoc]
      refine dropWhile_isBlank hbefore fun d hd => ?_
      cases hd
      exact hcs c List.mem_cons_self
    have hend : (c :: cs ++ after).reverse.dropWhile isBlank = (c :: cs).reverse := by
      rw [List.reverse_append]
      refine dropWhile_isBlank (fun d hd => hafter d (List.mem_reverse.mp hd)) fun d hd => ?_
      exact hcs d (List.mem_reverse.mp (List.mem_of_mem_head? hd))
    rw [hstart, hend, List.reverse_reverse]

/-- A text is what is left of it without the blanks at its ends, between these. -/
theorem encloses_trim (s : String) : Encloses s (trim s) := by
  unfold Encloses trim trimBlanks
  rw [String.toList_ofList]
  generalize s.toList = cs
  have hblank {cs : List Char} : ∀ c ∈ cs.takeWhile isBlank, isBlank c = true :=
    List.all_eq_true.mp List.all_takeWhile
  refine ⟨cs.takeWhile isBlank, ((cs.dropWhile isBlank).reverse.takeWhile isBlank).reverse, ?_,
    fun c hc => ?_⟩
  · rw [List.append_assoc, ← List.reverse_append, List.takeWhile_append_dropWhile,
      List.reverse_reverse, List.takeWhile_append_dropWhile]
  · rcases List.mem_append.mp hc with hc | hc
    · exact hblank c hc
    · exact hblank c (List.mem_reverse.mp hc)

/-- A text without blanks is left of the texts that have it between blanks, and of no others. -/
theorem trim_eq_iff {s t : String} (ht : ∀ c ∈ t.toList, isBlank c = false) :
    trim s = t ↔ Encloses s t := by
  constructor
  · rintro rfl
    exact encloses_trim s
  · rintro ⟨before, after, hs, hblank⟩
    rw [List.forall_mem_append] at hblank
    unfold trim
    rw [hs, trimBlanks_append hblank.1 ht hblank.2, String.ofList_toList]

/-! ## Texts of numbers -/

theorem isBlank_of_isDigit {c : Char} (h : c.isDigit = true) : isBlank c = false := by
  have hbounds : 48 ≤ c.toNat ∧ c.toNat ≤ 57 := by
    simpa [Char.isDigit, UInt32.le_iff_toNat_le] using h
  simp only [isBlank, Bool.or_eq_false_iff, Bool.and_eq_false_iff, decide_eq_false_iff_not,
    beq_eq_false_iff_ne]
  omega

/-- There are no blanks in a number. -/
theorem Spells.isBlank_eq {s : String} {n : UInt32} (h : Spells s n) :
    ∀ c ∈ s.toList, isBlank c = false := by
  obtain ⟨ds, rfl | hs, -, hdigits, -⟩ := h
  · exact fun c hc => isBlank_of_isDigit (hdigits c hc)
  · rw [hs]
    refine List.forall_mem_cons.mpr ⟨by decide, fun c hc => isBlank_of_isDigit (hdigits c hc)⟩

/-- A number between blanks is read just if what is left without them spells it. -/
theorem unsigned?_trim_eq_some_iff {s : String} {n : UInt32} :
    unsigned? (trim s) = some n ↔ ∃ t, Encloses s t ∧ Spells t n := by
  rw [unsigned?_eq_some_iff]
  constructor
  · exact fun h => ⟨trim s, encloses_trim s, h⟩
  · rintro ⟨t, hs, ht⟩
    rwa [(trim_eq_iff ht.isBlank_eq).mpr hs]

/-- The text of a number spells it. -/
theorem spells_ofUnsigned (n : UInt32) : Spells (ofUnsigned n) n :=
  ⟨Nat.toDigits 10 n.toNat, .inl Nat.toList_repr, Nat.toDigits_ne_nil,
    fun _ hc => Nat.isDigit_of_mem_toDigits (by decide) (by decide) hc,
    Nat.ofDigitChars_toDigits (by decide) (by decide)⟩

/-- A text encloses itself. -/
theorem Encloses.refl (s : String) : Encloses s s := ⟨[], [], by simp, nofun⟩

end SchemaBinding.Text
