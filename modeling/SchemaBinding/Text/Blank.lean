/-!
# Blank characters

The characters with the Unicode property White_Space, and the two operations on text that are
defined by them: cutting blanks off both ends, and splitting into words.

## Main definitions

* `Text.isBlank`: the property
* `Text.trim`: a text without the blanks at its ends
* `Text.words`: the runs of other characters
-/

namespace SchemaBinding.Text

/-- The characters with the property White_Space. -/
def isBlank (c : Char) : Bool :=
  let n := c.toNat
  (0x9 ≤ n && n ≤ 0xD) || n == 0x20 || n == 0x85 || n == 0xA0 || n == 0x1680 ||
    (0x2000 ≤ n && n ≤ 0x200A) || n == 0x2028 || n == 0x2029 || n == 0x202F || n == 0x205F ||
    n == 0x3000

example : ([' ', '\t', '\r', '\n', '\u00a0', '\u3000', 'a', '\u200b'].map isBlank) =
    [true, true, true, true, true, true, false, false] := by decide

/-- Characters without the blanks at both ends. -/
def trimBlanks (cs : List Char) : List Char :=
  ((cs.dropWhile isBlank).reverse.dropWhile isBlank).reverse

/-- A text without the blanks at both ends. -/
def trim (s : String) : String :=
  String.ofList (trimBlanks s.toList)

/-- A text of blanks only, the empty text included. -/
def isAllBlank (s : String) : Bool :=
  s.toList.all isBlank

/-- The longest runs of characters that are not blank, in order. -/
def words (s : String) : List String :=
  ((s.toList.splitOnP isBlank).filter fun word => !word.isEmpty).map String.ofList

end SchemaBinding.Text
