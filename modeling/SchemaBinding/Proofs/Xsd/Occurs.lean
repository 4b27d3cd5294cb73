import SchemaBinding.Proofs.Outcome
import SchemaBinding.Proofs.Text.Unsigned
import SchemaBinding.Xsd.Occurs

/-!
# Which bounds are accepted

What a pair of written values has to look like to be accepted as bounds, and the bounds that it then
stands for. Each value is judged by itself, then the two are compared. So bounds are in order
wherever they come from a document, and the written form of bounds in order is read as these.

## Main definitions

* `Occurs.Ordered`: bounds of which the greatest is not below the least
* `Occurs.WritesMin`, `Occurs.WritesMax`: the written forms of each bound

## Main results

* `Occurs.parseMin_eq_ok_iff`, `Occurs.parseMax_eq_ok_iff`: how each value is read
* `Occurs.parse_eq_ok_iff_and_of_text`: the accepted values, and the bounds they stand for
-/

namespace SchemaBinding.Xsd.Occurs

open SchemaBinding.Text (Encloses Spells)

variable {s : String} {min max : Option String} {n : UInt32} {bound : Option UInt32} {o : Occurs}

/-- The greatest number of occurrences, if there is one, is not below the least. -/
def Ordered (o : Occurs) : Prop :=
  ∀ max, o.max = some max → o.min ≤ max

/-- How the least number of occurrences is written: not at all for 1, or as a number between
blanks. -/
inductive WritesMin : Option String → UInt32 → Prop
  | absent : WritesMin none 1
  | number {s t : String} {n : UInt32} (hs : Encloses s t) (ht : Spells t n) : WritesMin (some s) n

/-- How the greatest number of occurrences is written: not at all for 1, or between blanks, as the
word for no bound or as a number. -/
inductive WritesMax : Option String → Option UInt32 → Prop
  | absent : WritesMax none (some 1)
  | unbounded {s : String} (hs : Encloses s "unbounded") : WritesMax (some s) none
  | number {s t : String} {n : UInt32} (hs : Encloses s t) (ht : Spells t n) :
    WritesMax (some s) (some n)

theorem parseMin_eq_ok_iff : parseMin min = .ok n ↔ WritesMin min n := by
  constructor
  · intro h
    cases min with
    | none =>
      cases h
      exact .absent
    | some s =>
      rw [parseMin] at h
      split at h
      · next n' hread =>
        cases h
        obtain ⟨t, hs, ht⟩ := Text.unsigned?_trim_eq_some_iff.mp hread
        exact .number hs ht
      · cases h
  · rintro (_ | ⟨hs, ht⟩)
    · rfl
    · rw [parseMin, Text.unsigned?_trim_eq_some_iff.mpr ⟨_, hs, ht⟩]

/-- The word for no bound is what is left between blanks, or a number is, but never both. -/
theorem trim_eq_unbounded_iff : Text.trim s = "unbounded" ↔ Encloses s "unbounded" :=
  Text.trim_eq_iff fun c hc => Bool.eq_false_iff.mpr (List.any_eq_false.mp (by decide) c hc)

theorem not_spells_unbounded : ¬ Spells "unbounded" n := by
  rw [← Text.unsigned?_eq_some_iff]
  exact nofun

theorem parseMax_eq_ok_iff : parseMax max = .ok bound ↔ WritesMax max bound := by
  constructor
  · intro h
    cases max with
    | none =>
      cases h
      exact .absent
    | some s =>
      rw [parseMax] at h
      split at h
      · next hword =>
        cases h
        exact .unbounded (trim_eq_unbounded_iff.mp hword)
      · split at h
        · next n hread =>
          cases h
          obtain ⟨t, hs, ht⟩ := Text.unsigned?_trim_eq_some_iff.mp hread
          exact .number hs ht
        · cases h
  · rintro (_ | hs | ⟨hs, ht⟩)
    · rfl
    · rw [parseMax, if_pos (trim_eq_unbounded_iff.mpr hs)]
    · have htrim := (Text.trim_eq_iff ht.isBlank_eq).mpr hs
      have hword : Text.trim _ ≠ "unbounded" := fun hword =>
        not_spells_unbounded ((htrim.symm.trans hword) ▸ ht)
      rw [parseMax, if_neg hword, Text.unsigned?_trim_eq_some_iff.mpr ⟨_, hs, ht⟩]

/-- Once both values are read, the comparison is all that is left. -/
theorem parse_eq_ok_iff :
    parse min max = .ok o ↔ WritesMin min o.min ∧ WritesMax max o.max ∧ o.Ordered := by
  simp only [parse, bind_eq_ok_iff, ← parseMin_eq_ok_iff, ← parseMax_eq_ok_iff]
  constructor
  · rintro ⟨least, hmin, greatest, hmax, h⟩
    cases greatest with
    | none =>
      cases h
      exact ⟨hmin, hmax, nofun⟩
    | some greatest =>
      dsimp only at h
      split at h
      · cases h
      · next hle =>
        cases h
        refine ⟨hmin, hmax, fun _ hg => ?_⟩
        cases hg
        exact UInt32.not_lt.mp hle
  · rintro ⟨hmin, hmax, hordered⟩
    obtain ⟨least, greatest⟩ := o
    refine ⟨least, hmin, greatest, hmax, ?_⟩
    cases greatest with
    | none => rfl
    | some greatest => exact if_neg (UInt32.not_lt.mpr (hordered greatest rfl))

/-- The written form of a bound is one. -/
theorem writesMax_maxText (bound : Option UInt32) : WritesMax (some (maxText bound)) bound := by
  cases bound with
  | none => exact .unbounded (.refl _)
  | some n => exact .number (.refl _) (Text.spells_ofUnsigned n)

/-- Two values are accepted just if each is absent or, between blanks, a number of 32 bits in
decimal, the second one also the word for no bound, and the numbers are in order. The bounds are the
ones that are written, 1 for an absent one, and are in order; and any bounds in order are what their
written form stands for. -/
theorem parse_eq_ok_iff_and_of_text :
    (∀ min max o, parse min max = .ok o ↔ WritesMin min o.min ∧ WritesMax max o.max ∧ o.Ordered) ∧
    ∀ o : Occurs, o.Ordered →
      parse (some (Text.ofUnsigned o.min)) (some (maxText o.max)) = .ok o := by
  refine ⟨fun min max o => parse_eq_ok_iff, fun o hordered => ?_⟩
  have hmin : WritesMin (some (Text.ofUnsigned o.min)) o.min :=
    .number (.refl _) (Text.spells_ofUnsigned o.min)
  exact parse_eq_ok_iff.mpr ⟨hmin, writesMax_maxText o.max, hordered⟩

/-- A sign and blanks do not count, and 4294967295 is not too much. -/
theorem parse_of_greatest_padded :
    parse none (some "\t+4294967295 ") = .ok ⟨1, some 4294967295⟩ ∧
    parse (some (Text.ofUnsigned 4)) (some (maxText none)) = .ok ⟨4, none⟩ := by
  refine ⟨?_, parse_eq_ok_iff_and_of_text.2 ⟨4, none⟩ nofun⟩
  have hblanks : Encloses "\t+4294967295 " "+4294967295" :=
    ⟨['\t'], [' '], by decide, List.all_eq_true.mp (by decide)⟩
  have hspells : Spells "+4294967295" 4294967295 :=
    ⟨"4294967295".toList, .inr (by decide), by decide, List.all_eq_true.mp (by decide), by decide⟩
  have hordered : (⟨1, some 4294967295⟩ : Occurs).Ordered := fun _ h => by
    cases h
    decide
  exact (parse_eq_ok_iff_and_of_text.1 _ _ _).mpr ⟨.absent, .number hblanks hspells, hordered⟩

end SchemaBinding.Xsd.Occurs
