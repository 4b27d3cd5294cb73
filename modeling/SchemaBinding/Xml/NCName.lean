/-!
# Names without colons

The names that schema components may have. Letters are those of Latin-1 and the extended Latin
and phonetic blocks after it.

## Main definitions

* `Xml.isNameStart`, `Xml.isNameChar`: the characters of a name
* `Xml.isNCName`: a nonempty name of such characters
-/

namespace SchemaBinding.Xml

/-- The characters a name may start with. -/
def isNameStart (c : Char) : Bool :=
  let n := c.toNat
  ('A' ≤ c && c ≤ 'Z') || c == '_' || ('a' ≤ c && c ≤ 'z') || (0xC0 ≤ n && n ≤ 0xD6) ||
    (0xD8 ≤ n && n ≤ 0xF6) || (0xF8 ≤ n && n ≤ 0x2FF)

/-- The characters a name may go on with. -/
def isNameChar (c : Char) : Bool :=
  isNameStart c || c == '-' || c == '.' || ('0' ≤ c && c ≤ '9') || c.toNat == 0xB7

/-- Whether characters form a name without a colon. -/
def isNCNameChars : List Char → Bool
  | [] => false
  | c :: cs => isNameStart c && cs.all isNameChar

/-- Whether a text is a name without a colon. -/
def isNCName (name : String) : Bool :=
  isNCNameChars name.toList

/-- No character of a name is one that names cannot have. -/
theorem not_mem_of_isNCName {name : String} {c : Char} (h : isNCName name = true)
    (hc : isNameChar c = false) : c ∉ name.toList := by
  unfold isNCName at h
  cases hcs : name.toList with
  | nil => exact List.not_mem_nil
  | cons d ds =>
    rw [hcs, isNCNameChars, Bool.and_eq_true, List.all_eq_true] at h
    intro hm
    rcases List.mem_cons.mp hm with rfl | hm
    · have : isNameChar c = true := by simp [isNameChar, h.1]
      exact Bool.noConfusion (this.symm.trans hc)
    · exact Bool.noConfusion ((h.2 c hm).symm.trans hc)

end SchemaBinding.Xml
