import SchemaBinding.Proofs.Text.Utf8
import SchemaBinding.Xml.Reference

/-!
# Escaped text

A text in which the five characters that markup uses are written as references. It has none of `<`,
`>` and quotes, and what it stands for is the text itself.

## Main definitions

* `escape`: a text with references for the characters of markup

## Main results

* `readText?_escape`: an escaped text stands for the text
* `not_mem_escape`: characters that are not in it
* `head?_toList_escape`, `getLast?_toList_escape`: the characters at its ends
-/

namespace SchemaBinding.Xml

/-- A character as it is written in text: as a reference, if markup uses it. -/
def escapeChar (c : Char) : List Char :=
  if c = '&' then ['&', 'a', 'm', 'p', ';']
  else if c = '<' then ['&', 'l', 't', ';']
  else if c = '>' then ['&', 'g', 't', ';']
  else if c = '"' then ['&', 'q', 'u', 'o', 't', ';']
  else if c = '\'' then ['&', 'a', 'p', 'o', 's', ';']
  else [c]

/-- A text as it is written, with references for the characters that markup uses. -/
def escape (s : String) : String := String.ofList (s.toList.flatMap escapeChar)

/-- A character is written as itself, or as a reference. -/
theorem escapeChar_cases (c : Char) :
    (escapeChar c = [c] ∧ c ∉ ['&', '<', '>', '"', '\'']) ∨
      ∃ name, escapeChar c = '&' :: (name ++ [';']) ∧ reference? name = some c ∧
        ∀ d ∈ name, d ∈ ['a', 'g', 'l', 'm', 'o', 'p', 'q', 's', 't', 'u'] := by
  unfold escapeChar
  split_ifs with hamp hlt hgt hquote hapostrophe
  · exact .inr ⟨['a', 'm', 'p'], rfl, hamp ▸ rfl, by simp⟩
  · exact .inr ⟨['l', 't'], rfl, hlt ▸ rfl, by simp⟩
  · exact .inr ⟨['g', 't'], rfl, hgt ▸ rfl, by simp⟩
  · exact .inr ⟨['q', 'u', 'o', 't'], rfl, hquote ▸ rfl, by simp⟩
  · exact .inr ⟨['a', 'p', 'o', 's'], rfl, hapostrophe ▸ rfl, by simp⟩
  · exact .inl ⟨rfl, by simp [*]⟩

/-- The characters of a reference are collected up to its end. -/
theorem unescapeFrom_name (before name rest : List Char) (h : ∀ d ∈ name, d ≠ ';' ∧ d ≠ '&') :
    unescapeFrom (some before) (name ++ rest) =
      unescapeFrom (some (name.reverse ++ before)) rest := by
  induction name generalizing before with
  | nil => rfl
  | cons d name ih =>
    obtain ⟨hsemicolon, hamp⟩ := h d List.mem_cons_self
    rw [List.cons_append, unescapeFrom, if_neg hsemicolon, if_neg hamp,
      ih _ fun d hd => h d (List.mem_cons_of_mem _ hd), List.reverse_cons, List.append_assoc]
    rfl

theorem unescapeFrom_escapeChar (c : Char) (rest : List Char) :
    unescapeFrom none (escapeChar c ++ rest) = (unescapeFrom none rest).map (c :: ·) := by
  rcases escapeChar_cases c with ⟨heq, hc⟩ | ⟨name, heq, hname, hchars⟩
  · have hamp : c ≠ '&' := fun h => hc (h ▸ List.mem_cons_self)
    rw [heq, List.singleton_append, unescapeFrom, if_neg hamp]
  · have hplain : ∀ d ∈ name, d ≠ ';' ∧ d ≠ '&' := fun d hd => by
      constructor
      all_goals
        rintro rfl
        exact absurd (hchars _ hd) (by decide)
    rw [heq, List.cons_append, unescapeFrom, if_pos rfl, List.append_assoc,
      unescapeFrom_name [] name _ hplain, List.append_nil, List.singleton_append, unescapeFrom,
      if_pos rfl, List.reverse_reverse, hname]

theorem unescapeFrom_escape (cs : List Char) :
    unescapeFrom none (cs.flatMap escapeChar) = some cs := by
  induction cs with
  | nil => rfl
  | cons c cs ih => rw [List.flatMap_cons, unescapeFrom_escapeChar, ih, Option.map_some]

/-- An escaped text stands for the text. -/
theorem readText?_escape (s : String) : readText? (Text.encode (escape s)) = some s := by
  unfold readText? unescape? escape
  rw [Text.decode?_encode, Option.bind_some, String.toList_ofList, unescapeFrom_escape,
    Option.map_some, String.ofList_toList]

theorem not_mem_escape {c : Char} (hc : c ∈ ['<', '>', '"', '\'']) (s : String) :
    c ∉ (escape s).toList := by
  unfold escape
  rw [String.toList_ofList]
  intro hmem
  obtain ⟨d, -, hd⟩ := List.mem_flatMap.mp hmem
  rcases escapeChar_cases d with ⟨heq, hplain⟩ | ⟨name, heq, -, hchars⟩
  · rw [heq] at hd
    obtain rfl := List.mem_singleton.mp hd
    exact hplain (List.mem_cons_of_mem _ hc)
  · -- A reference has none of these characters.
    have hall : ∀ c ∈ ['<', '>', '"', '\''],
        c ∉ '&' :: ';' :: ['a', 'g', 'l', 'm', 'o', 'p', 'q', 's', 't', 'u'] := by simp
    have hother := hall c hc
    rw [heq] at hd
    simp only [List.mem_cons, List.mem_append, List.not_mem_nil, or_false] at hd
    rcases hd with rfl | hd | rfl
    · exact hother List.mem_cons_self
    · exact hother (List.mem_cons_of_mem _ (List.mem_cons_of_mem _ (hchars c hd)))
    · exact hother (List.mem_cons_of_mem _ List.mem_cons_self)

/-- Unless it begins with a reference, an escaped text begins with the character of the text. -/
theorem head?_toList_escape {s : String} {c : Char} (hc : c ≠ '&')
    (h : (escape s).toList.head? = some c) : s.toList.head? = some c := by
  unfold escape at h
  rw [String.toList_ofList] at h
  cases hs : s.toList with
  | nil =>
    rw [hs] at h
    cases h
  | cons d ds =>
    rw [hs, List.flatMap_cons] at h
    rcases escapeChar_cases d with ⟨heq, -⟩ | ⟨name, heq, -⟩
    · rw [heq] at h
      exact h
    · rw [heq] at h
      exact absurd (Option.some.inj h).symm hc

/-- Unless it ends in a reference, an escaped text ends in the character of the text. -/
theorem getLast?_toList_escape {s : String} {c : Char} (hc : c ≠ ';')
    (h : (escape s).toList.getLast? = some c) : s.toList.getLast? = some c := by
  unfold escape at h
  rw [String.toList_ofList] at h
  rcases List.eq_nil_or_concat s.toList with hs | ⟨ds, d, hs⟩
  · rw [hs] at h
    cases h
  · rw [List.concat_eq_append] at hs
    rw [hs, List.flatMap_append, List.flatMap_singleton] at h
    rw [hs, List.getLast?_concat]
    rcases escapeChar_cases d with ⟨heq, -⟩ | ⟨name, heq, -⟩
    · rw [heq, List.getLast?_concat] at h
      exact h
    · rw [heq, ← List.cons_append, ← List.append_assoc, List.getLast?_concat] at h
      exact absurd (Option.some.inj h).symm hc

end SchemaBinding.Xml
