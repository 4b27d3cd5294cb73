import SchemaBinding.Json.Value
import SchemaBinding.Text.Digit

/-!
# Reading JSON

A reader takes a value from the beginning of some characters, and gives it together with what is
left of them. A string may have any UTF-16 code units as escapes; those that make up surrogate
pairs become characters.

## Main definitions

* `Json.stringBody`, `Json.textOf`: strings
* `Json.number`: numbers
* `Json.value`, `Json.items`, `Json.members`: values
* `Json.Value.parse?`: the value of a text
-/

namespace SchemaBinding.Json

/-- Whether a character may stand between the parts of a value. -/
def isBlank (c : Char) : Bool := c == ' ' || c == '\n' || c == '\t' || c == '\r'

/-- What is left after blanks. -/
def skipBlanks (cs : List Char) : List Char := cs.dropWhile isBlank

/-! ## Strings -/

/-- A part of a string: a character, or a code unit that is written as an escape. -/
inductive Piece where
  | char (c : Char)
  | unit (n : Nat)
  deriving DecidableEq, Repr

/-- The code unit of four hexadecimal digits. -/
def unitOf? (a b c d : Char) : Option Nat := Text.number? 16 [a, b, c, d]

/-- The character of a short escape. -/
def shortEscape? : Char → Option Char
  | '"' => some '"'
  | '\\' => some '\\'
  | '/' => some '/'
  | 'b' => some '\x08'
  | 'f' => some '\x0c'
  | 'n' => some '\n'
  | 'r' => some '\r'
  | 't' => some '\t'
  | _ => none

/-- The pieces up to a quote, and what comes after it. -/
def stringBody : List Char → Option (List Piece × List Char)
  | [] => none
  | '"' :: rest => some ([], rest)
  | '\\' :: 'u' :: a :: b :: c :: d :: rest => do
    let n ← unitOf? a b c d
    let (pieces, rest) ← stringBody rest
    return (.unit n :: pieces, rest)
  | '\\' :: e :: rest => do
    let c ← shortEscape? e
    let (pieces, rest) ← stringBody rest
    return (.char c :: pieces, rest)
  | c :: rest =>
    if c.toNat < 32 then none
    else do
      let (pieces, rest) ← stringBody rest
      return (.char c :: pieces, rest)

/-- Whether a code unit is the first one of a surrogate pair. -/
def isHighSurrogate (n : Nat) : Bool := 0xD800 ≤ n && n < 0xDC00

/-- Whether a code unit is the second one of a surrogate pair. -/
def isLowSurrogate (n : Nat) : Bool := 0xDC00 ≤ n && n < 0xE000

/-- The characters of the pieces of a string, unless it has an unpaired surrogate. -/
def charsOf? : List Piece → Option (List Char)
  | [] => some []
  | .char c :: rest => (charsOf? rest).map (c :: ·)
  | .unit high :: .unit low :: rest =>
    if isHighSurrogate high then
      if isLowSurrogate low then
        (charsOf? rest).map (Char.ofNat (0x10000 + (high - 0xD800) * 0x400 + (low - 0xDC00)) :: ·)
      else none
    -- The first unit is no part of a pair, and the second one may begin a pair.
    else if isLowSurrogate high then none
    else (charsOf? (.unit low :: rest)).map (Char.ofNat high :: ·)
  | .unit n :: rest =>
    if isHighSurrogate n || isLowSurrogate n then none
    else (charsOf? rest).map (Char.ofNat n :: ·)

/-- The text of the pieces of a string, if it is one. -/
def textOf (pieces : List Piece) : Option String := (charsOf? pieces).map String.ofList

/-- The string after a quote. -/
def string (cs : List Char) : Option (Option String × List Char) :=
  (stringBody cs).map fun (pieces, rest) => (textOf pieces, rest)

/-! ## Numbers -/

/-- One or more digits. -/
def someDigits (cs : List Char) : Option (List Char × List Char) :=
  match cs.span Char.isDigit with
  | ([], _) => none
  | (ds, rest) => some (ds, rest)

/-- The digits of a whole number, which has no leading zeros. -/
def wholeDigits : List Char → Option (List Char × List Char)
  | '0' :: rest => if (rest.head?.map Char.isDigit).getD false then none else some (['0'], rest)
  | cs => someDigits cs

/-- The digits after a point, if there is one. -/
def fraction : List Char → Option (List Char × List Char)
  | '.' :: rest => someDigits rest
  | cs => some ([], cs)

/-- The values of decimal digits. -/
def valuesOf (ds : List Char) : List Nat := ds.map fun d => (Text.digit? 10 d).getD 0

/-- The value of a run of decimal digits. -/
def valueOf (ds : List Char) : Nat := (Text.decimal? ds).getD 0

/-- The exponent, if there is one. -/
def exponent : List Char → Option (Option Int × List Char)
  | [] => some (none, [])
  | e :: rest =>
    if e == 'e' || e == 'E' then
      let (sign, rest) : Int × List Char := match rest with
        | '-' :: rest => (-1, rest)
        | '+' :: rest => (1, rest)
        | rest => (1, rest)
      (someDigits rest).map fun (ds, rest) => (some (sign * valueOf ds), rest)
    else some (none, e :: rest)

/-- The number without sign at the beginning. -/
def unsignedNumber (negative : Bool) (cs : List Char) : Option (Value × List Char) := do
  let (whole, rest) ← wholeDigits cs
  let (part, rest) ← fraction rest
  let (power, rest) ← exponent rest
  -- A number with a sign, a fraction or an exponent is not a natural number, even if its value is.
  if !negative && part.isEmpty && power.isNone then
    return (.natural (valueOf whole), rest)
  else
    return (.decimal (.ofDigits negative (valuesOf whole) (valuesOf part) (power.getD 0)), rest)

/-- The number at the beginning. -/
def number : List Char → Option (Value × List Char)
  | '-' :: rest => unsignedNumber true rest
  | cs => unsignedNumber false cs

/-! ## Values -/

mutual

/-- The value at the beginning. The recursion is at most `fuel` deep. -/
def value : Nat → List Char → Option (Value × List Char)
  | 0, _ => none
  | fuel + 1, cs =>
    match skipBlanks cs with
    | 'n' :: 'u' :: 'l' :: 'l' :: rest => some (.null, rest)
    | 't' :: 'r' :: 'u' :: 'e' :: rest => some (.bool true, rest)
    | 'f' :: 'a' :: 'l' :: 's' :: 'e' :: rest => some (.bool false, rest)
    | '"' :: rest => (string rest).map fun (s, rest) => (.string s, rest)
    | '[' :: rest =>
      match skipBlanks rest with
      | ']' :: rest => some (.array [], rest)
      | rest => (items fuel rest).map fun (vs, rest) => (.array vs, rest)
    | '\x7b' :: rest =>
      match skipBlanks rest with
      | '\x7d' :: rest => some (.object [], rest)
      | rest => (members fuel rest).map fun (vs, rest) => (.object vs, rest)
    | rest => number rest

/-- One or more values up to the end of an array. -/
def items : Nat → List Char → Option (List Value × List Char)
  | 0, _ => none
  | fuel + 1, cs => do
    let (v, rest) ← value fuel cs
    match skipBlanks rest with
    | ',' :: rest =>
      let (vs, rest) ← items fuel rest
      return (v :: vs, rest)
    | ']' :: rest => return ([v], rest)
    | _ => none

/-- One or more members up to the end of an object. -/
def members : Nat → List Char → Option (List (Option String × Value) × List Char)
  | 0, _ => none
  | fuel + 1, cs => do
    let '"' :: rest := skipBlanks cs | none
    let (name, rest) ← string rest
    let ':' :: rest := skipBlanks rest | none
    let (v, rest) ← value fuel rest
    match skipBlanks rest with
    | ',' :: rest =>
      let (vs, rest) ← members fuel rest
      return ((name, v) :: vs, rest)
    | '\x7d' :: rest => return ([(name, v)], rest)
    | _ => none

end

/-- The value that some characters stand for. Of two steps into the recursion at least one takes a
character. -/
def Value.ofChars? (cs : List Char) : Option Value :=
  match value (2 * cs.length + 2) cs with
  | some (v, rest) => if (skipBlanks rest).isEmpty then some v else none
  | none => none

/-- The value that a text stands for. -/
def Value.parse? (s : String) : Option Value := Value.ofChars? s.toList

end SchemaBinding.Json
