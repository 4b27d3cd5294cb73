/-!
# Splitting at the last occurrence of a character

## Main definitions

* `Text.splitLast?`: what stands before and after it

## Main results

* `splitLast?_eq_none_iff`: a split fails just if the character is missing
* `splitLast?_eq_some_iff`: what a split gives
-/

namespace SchemaBinding.Text

/-- What stands before and after the last occurrence of a character. -/
def splitLast? (separator : Char) : List Char → Option (List Char × List Char)
  | [] => none
  | c :: cs =>
    match splitLast? separator cs with
    | some (before, after) => some (c :: before, after)
    | none => if c = separator then some ([], cs) else none

/-- A split fails just if the character is missing. -/
theorem splitLast?_eq_none_iff {separator : Char} {cs : List Char} :
    splitLast? separator cs = none ↔ separator ∉ cs := by
  induction cs with
  | nil => simp [splitLast?]
  | cons c cs ih =>
    rw [splitLast?]
    split
    · next before after h => simp_all
    · next h =>
      split
      · next hc => simp [hc]
      · next hc => simp_all [eq_comm]

theorem splitLast?_append {separator : Char} {after : List Char} (h : separator ∉ after)
    (before : List Char) :
    splitLast? separator (before ++ separator :: after) = some (before, after) := by
  induction before with
  | nil => simp [splitLast?, splitLast?_eq_none_iff.2 h]
  | cons c before ih => simp [splitLast?, ih]

theorem eq_append_of_splitLast? {separator : Char} {cs before after : List Char}
    (h : splitLast? separator cs = some (before, after)) :
    cs = before ++ separator :: after ∧ separator ∉ after := by
  induction cs generalizing before with
  | nil => simp [splitLast?] at h
  | cons c cs ih =>
    rw [splitLast?] at h
    split at h
    · next b a hb =>
      cases h
      obtain ⟨hcs, hn⟩ := ih hb
      exact ⟨by rw [hcs, List.cons_append], hn⟩
    · next hb =>
      split at h
      · next hc =>
        cases h
        exact ⟨by rw [hc, List.nil_append], splitLast?_eq_none_iff.1 hb⟩
      · cases h

/-- A split is at an occurrence of the character after which there is none. -/
theorem splitLast?_eq_some_iff {separator : Char} {cs before after : List Char} :
    splitLast? separator cs = some (before, after) ↔
      cs = before ++ separator :: after ∧ separator ∉ after :=
  ⟨eq_append_of_splitLast?, fun ⟨hcs, hn⟩ => hcs ▸ splitLast?_append hn before⟩

end SchemaBinding.Text
