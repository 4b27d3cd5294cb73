import Mathlib.Data.List.Basic
import SchemaBinding.Text.Utf8

/-!
# Octets of texts

The encoding of a text goes character by character. An octet below 128 is the one octet of an ASCII
character, and no octet of any other character is below 128. So whether such an octet occurs, and
whether it comes first or last, can be told from the characters.

## Main results

* `encode_eq`, `encode_append`: character by character
* `eq_of_mem_utf8EncodeChar`: an octet below 128 is a character
* `mem_toList_of_mem_encode`, `head?_toList_of_encode`, `getLast?_toList_of_encode`: where it stands
-/

namespace SchemaBinding.Text

theorem encode_eq (s : String) : encode s = s.toList.flatMap String.utf8EncodeChar := by
  unfold encode
  rw [← String.utf8Encode_toList]
  simp [List.utf8Encode]

@[simp] theorem encode_append (s t : String) : encode (s ++ t) = encode s ++ encode t := by
  simp [encode_eq]

theorem encode_inj {s t : String} : encode s = encode t ↔ s = t := by
  refine ⟨fun h => ?_, congrArg encode⟩
  have hdecode := congrArg decode? h
  rw [decode?_encode, decode?_encode] at hdecode
  exact Option.some.inj hdecode

/-- An octet below 128 is a character, and all of its encoding. -/
theorem eq_of_mem_utf8EncodeChar {c : Char} {b : UInt8} (hb : b.toNat < 0x80)
    (h : b ∈ String.utf8EncodeChar c) :
    c = Char.ofNat b.toNat ∧ String.utf8EncodeChar c = [b] := by
  unfold String.utf8EncodeChar at h ⊢
  dsimp only at h ⊢
  split at h
  · next hc =>
    rw [if_pos hc]
    obtain rfl := List.mem_singleton.mp h
    have hval : (UInt8.ofNat c.val.toNat).toNat = c.toNat := by
      rw [UInt8.toNat_ofNat']
      exact Nat.mod_eq_of_lt (by omega)
    rw [hval, Char.ofNat_toNat]
    exact ⟨rfl, rfl⟩
  · -- The octets of other characters have their highest bit set.
    exfalso
    split at h
    · simp only [List.mem_cons, List.not_mem_nil, or_false] at h
      rcases h with rfl | rfl
      all_goals
        rw [UInt8.toNat_ofNat'] at hb
        omega
    · split at h
      · simp only [List.mem_cons, List.not_mem_nil, or_false] at h
        rcases h with rfl | rfl | rfl
        all_goals
          rw [UInt8.toNat_ofNat'] at hb
          omega
      · simp only [List.mem_cons, List.not_mem_nil, or_false] at h
        rcases h with rfl | rfl | rfl | rfl
        all_goals
          rw [UInt8.toNat_ofNat'] at hb
          omega

theorem mem_toList_of_mem_encode {s : String} {b : UInt8} (hb : b.toNat < 0x80)
    (h : b ∈ encode s) : Char.ofNat b.toNat ∈ s.toList := by
  rw [encode_eq] at h
  obtain ⟨c, hc, hbc⟩ := List.mem_flatMap.mp h
  exact (eq_of_mem_utf8EncodeChar hb hbc).1 ▸ hc

theorem encode_ne_nil {s : String} (h : s ≠ "") : encode s ≠ [] := fun hs =>
  h (encode_inj.mp (hs.trans (by decide)))

/-- A text that begins with an octet below 128 begins with that character. -/
theorem head?_toList_of_encode {s : String} {b : UInt8} (hb : b.toNat < 0x80)
    (h : (encode s).head? = some b) : s.toList.head? = some (Char.ofNat b.toNat) := by
  rw [encode_eq] at h
  cases hs : s.toList with
  | nil =>
    rw [hs] at h
    cases h
  | cons c cs =>
    rw [hs, List.flatMap_cons] at h
    cases hc : String.utf8EncodeChar c with
    | nil => exact absurd hc String.utf8EncodeChar_ne_nil
    | cons b' bs =>
      rw [hc] at h
      obtain rfl : b' = b := Option.some.inj h
      have hmem : b' ∈ String.utf8EncodeChar c := hc ▸ List.mem_cons_self
      rw [(eq_of_mem_utf8EncodeChar hb hmem).1, List.head?_cons]

/-- A text that ends in an octet below 128 ends in that character. -/
theorem getLast?_toList_of_encode {s : String} {b : UInt8} (hb : b.toNat < 0x80)
    (h : (encode s).getLast? = some b) : s.toList.getLast? = some (Char.ofNat b.toNat) := by
  rw [encode_eq] at h
  rcases List.eq_nil_or_concat s.toList with hs | ⟨cs, c, hs⟩
  · rw [hs] at h
    cases h
  · rw [hs, List.concat_eq_append, List.flatMap_append, List.flatMap_singleton,
      List.getLast?_append_of_ne_nil _ String.utf8EncodeChar_ne_nil] at h
    rw [hs, List.concat_eq_append, List.getLast?_concat,
      (eq_of_mem_utf8EncodeChar hb (List.mem_of_mem_getLast? h)).1]

end SchemaBinding.Text
