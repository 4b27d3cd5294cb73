import SchemaBinding.Text.Utf8

/-!
# The octets of markup

Names for the octets that delimit markup, and searches in sequences of octets.

## Main definitions

* `Xml.Octet.isSpace`: the white space of XML
* `Xml.trimEnd`: octets without white space at the end
* `Xml.afterPrefix?`, `Xml.splitAt?`: search for a given sequence
-/

namespace SchemaBinding.Xml

open SchemaBinding.Text (Octets)

namespace Octet

/-- The octet `<`. -/
@[match_pattern] def lt : UInt8 := 0x3C

/-- The octet `>`. -/
@[match_pattern] def gt : UInt8 := 0x3E

/-- The octet `/`. -/
@[match_pattern] def slash : UInt8 := 0x2F

/-- The octet `!`. -/
@[match_pattern] def bang : UInt8 := 0x21

/-- The octet `?`. -/
@[match_pattern] def question : UInt8 := 0x3F

/-- The octet `=`. -/
@[match_pattern] def equals : UInt8 := 0x3D

/-- The octet `"`. -/
@[match_pattern] def quote : UInt8 := 0x22

/-- The octet `'`. -/
@[match_pattern] def apostrophe : UInt8 := 0x27

/-- Space, tab, carriage return and line feed. -/
def isSpace (b : UInt8) : Bool := b == 0x20 || b == 0x09 || b == 0x0D || b == 0x0A

/-- Whether an octet opens a quoted value. -/
def isQuote (b : UInt8) : Bool := b == quote || b == apostrophe

/-- A capital ASCII letter for a small one, and every other octet as it is. -/
def toUpper (b : UInt8) : UInt8 := if 0x61 ≤ b ∧ b ≤ 0x7A then b - 0x20 else b

end Octet

/-- Octets without the white space at their end. -/
def trimEnd (bs : Octets) : Octets := (bs.reverse.dropWhile Octet.isSpace).reverse

/-- What follows a pattern at the start of some octets, if they are read as the pattern there. -/
def afterPrefixBy? (read : UInt8 → UInt8) : Octets → Octets → Option Octets
  | [], bs => some bs
  | _ :: _, [] => none
  | p :: ps, b :: bs => if p = read b then afterPrefixBy? read ps bs else none

/-- What follows the given octets at the start, if they stand there. -/
def afterPrefix? (pattern bs : Octets) : Option Octets := afterPrefixBy? id pattern bs

/-- What follows the given octets at the start, if they stand there in capital or small letters;
the given letters are capital. -/
def afterPrefixUncased? (pattern bs : Octets) : Option Octets :=
  afterPrefixBy? Octet.toUpper pattern bs

/-- What stands before and after the first occurrence of the given octets. -/
def splitAt? (pattern : Octets) : Octets → Option (Octets × Octets)
  | [] => (afterPrefix? pattern []).map ([], ·)
  | b :: bs =>
    match afterPrefix? pattern (b :: bs) with
    | some after => some ([], after)
    | none => (splitAt? pattern bs).map fun (before, after) => (b :: before, after)

theorem length_afterPrefixBy? {read : UInt8 → UInt8} {pattern bs rest : Octets}
    (h : afterPrefixBy? read pattern bs = some rest) :
    pattern.length + rest.length = bs.length := by
  induction pattern generalizing bs with
  | nil => simp_all [afterPrefixBy?]
  | cons p ps ih =>
    cases bs with
    | nil => simp [afterPrefixBy?] at h
    | cons b bs =>
      rw [afterPrefixBy?] at h
      split at h
      · have := ih h
        simp only [List.length_cons]
        omega
      · cases h

theorem length_afterPrefix? {pattern bs rest : Octets} (h : afterPrefix? pattern bs = some rest) :
    pattern.length + rest.length = bs.length :=
  length_afterPrefixBy? h

theorem length_afterPrefixUncased? {pattern bs rest : Octets}
    (h : afterPrefixUncased? pattern bs = some rest) :
    pattern.length + rest.length = bs.length :=
  length_afterPrefixBy? h

theorem length_splitAt? {pattern bs before after : Octets}
    (h : splitAt? pattern bs = some (before, after)) : after.length ≤ bs.length := by
  induction bs generalizing before with
  | nil =>
    rw [splitAt?] at h
    obtain ⟨r, hr, hp⟩ := Option.map_eq_some_iff.mp h
    have := length_afterPrefix? hr
    cases hp
    simp_all
  | cons b bs ih =>
    rw [splitAt?] at h
    split at h
    · next r hr =>
      have := length_afterPrefix? hr
      cases h
      omega
    · obtain ⟨⟨x, y⟩, hr, hp⟩ := Option.map_eq_some_iff.mp h
      cases hp
      have := ih hr
      simp only [List.length_cons]
      omega

end SchemaBinding.Xml
