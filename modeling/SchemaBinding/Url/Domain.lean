import SchemaBinding.Unicode.Composition
import SchemaBinding.Unicode.Direction
import SchemaBinding.Unicode.Joining
import SchemaBinding.Unicode.Mark
import SchemaBinding.Url.DomainMapping
import SchemaBinding.Url.Punycode

/-!
# Domain names

A domain name in any characters, reduced to ASCII: its characters are mapped and composed, and each
label that is not ASCII is encoded after the mark `xn--`. A label that has the mark must encode a
label that the mapping leaves as it is. Labels must not begin with a mark, must have joiners only
where they make a difference, and must not mix directions of writing. Only labels that are encoded
have a limit on their length.

## Main definitions

* `Url.Domain.reduce?`: mapped and composed characters
* `Url.Domain.Label`: a label with what it is written as
* `Url.Domain.joinersFit`, `Url.Domain.isDirected`: the rules of labels
* `Url.Domain.toAscii?`: a domain name in ASCII
-/

namespace SchemaBinding.Url.Domain

/-! ## Characters -/

/-- ASCII characters that no domain name may hold. -/
def isForbidden (c : Char) : Bool :=
  c.toNat ≤ 0x20 || c.toNat == 0x7F ||
    ['#', '%', '/', ':', '<', '>', '?', '@', '[', '\\', ']', '^', '|'].contains c

/-- The mapped and composed characters, if all are allowed. -/
def reduce? (cs : List Char) : Option (List Char) := do
  let images ← cs.mapM image?
  let reduced := Unicode.normalize images.flatten
  if reduced.any isForbidden then none else some reduced

/-! ## Labels -/

/-- Whether a character is ASCII. -/
def isAscii (c : Char) : Bool := c.toNat < 0x80

/-- A label: its characters, and what is written for it in ASCII. -/
structure Label where
  chars : List Char
  written : List Char
  deriving DecidableEq, Repr

/-- The most characters that are encoded. -/
def maxLength : Nat := 1000

/-- The most characters that an encoding is read from. -/
def maxCodeLength : Nat := 2000

/-- Whether characters are those of a label that is encoded. -/
def isEncoded (cs : List Char) : Bool := !cs.all isAscii && cs.length ≤ maxLength

/-- A label with its encoding. -/
def Label.encoded (cs code : List Char) : Label := ⟨cs, ['x', 'n', '-', '-'] ++ code⟩

/-- The label whose encoding is given. It is reduced. -/
def Label.ofEncoding? (code : List Char) : Option Label := do
  if maxCodeLength < code.length then none
  let chars ← Punycode.decode? code
  if isEncoded chars && reduce? chars == some chars && Punycode.encode chars == code then
    some (.encoded chars code)
  else none

/-- The label with the given reduced characters. -/
def Label.ofChars? : List Char → Option Label
  | 'x' :: 'n' :: '-' :: '-' :: code => Label.ofEncoding? code
  | cs =>
    if cs.all isAscii then some ⟨cs, cs⟩
    else if isEncoded cs then some (.encoded cs (Punycode.encode cs))
    else none

/-! ## Joiners -/

/-- The character that keeps letters from being joined. -/
def nonJoiner : Char := '\u200c'

/-- The character that joins letters. -/
def joiner : Char := '\u200d'

/-- Whether joiners stand only where they make a difference: after a sign that joins consonants,
or, to keep letters from being joined, between letters that would be. The characters in `before`
are those in front, the nearest one first. -/
def joinersFit (before : List Char) : List Char → Bool
  | [] => true
  | c :: cs =>
    let afterVirama := (before.head?.map Unicode.isVirama).getD false
    let joined :=
      (((before.dropWhile Unicode.isPassedOver).head?.map Unicode.joinsNext).getD false) &&
        (((cs.dropWhile Unicode.isPassedOver).head?.map Unicode.joinsPrevious).getD false)
    let fits := (c != joiner && c != nonJoiner) || afterVirama || (c == nonJoiner && joined)
    fits && joinersFit (c :: before) cs

/-! ## Directions -/

open Unicode (Direction direction)

/-- Whether a character makes the direction of a domain name matter. -/
def isRightToLeft (c : Char) : Bool :=
  0x590 ≤ c.toNat && [.rightToLeft, .arabicLetter, .arabicNumber].contains (direction c)

/-- The directions that characters of labels from left to right have. -/
def leftToRightDirections : List Direction :=
  [.leftToRight, .europeanNumber, .separator, .commonSeparator, .terminator, .neutral, .boundary,
    .nonspacingMark]

/-- The directions that characters of labels from right to left have. -/
def rightToLeftDirections : List Direction :=
  [.rightToLeft, .arabicLetter, .arabicNumber, .europeanNumber, .separator, .commonSeparator,
    .terminator, .neutral, .boundary, .nonspacingMark]

/-- The directions that the last character of a label has, marks apart. -/
def lastDirections (toRight : Bool) : List Direction :=
  if toRight then [.leftToRight, .europeanNumber]
  else [.rightToLeft, .arabicLetter, .europeanNumber, .arabicNumber]

/-- Whether a label keeps to one direction. It begins with a letter and ends in a letter or a
number, and from right to left it has numbers of one kind only. -/
def isDirected (chars : List Char) : Bool :=
  let all := chars.map direction
  match all with
  | [] => true
  | first :: _ =>
    let toRight := first == .leftToRight
    let allowed := if toRight then leftToRightDirections else rightToLeftDirections
    let last := ((all.reverse.dropWhile (· == .nonspacingMark)).head?).getD first
    [.leftToRight, .rightToLeft, .arabicLetter].contains first && all.all allowed.contains &&
      (lastDirections toRight).contains last &&
      !(!toRight && all.contains .europeanNumber && all.contains .arabicNumber)

/-! ## Names -/

/-- Whether a label keeps to the rules, those on directions apart. -/
def Label.isSound (l : Label) : Bool :=
  !(l.chars.head?.map Unicode.isMark).getD false && joinersFit [] l.chars

/-- Whether the labels of a domain name keep to the rules on directions. -/
def areDirected (labels : List Label) : Bool :=
  !labels.any (·.chars.any isRightToLeft) || labels.all fun l => isDirected l.chars

/-- A domain name in ASCII, if it is one. -/
def toAscii? (cs : List Char) : Option (List Char) := do
  let labels ← ((← reduce? cs).splitOn '.').mapM Label.ofChars?
  if labels.all Label.isSound && areDirected labels then
    some (['.'].intercalate (labels.map Label.written))
  else none

end SchemaBinding.Url.Domain
