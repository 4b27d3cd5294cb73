import SchemaBinding.Text.Digit
import SchemaBinding.Text.Utf8

/-!
# Percent encoding

The parts of a URL are ASCII: a character that a part may not hold is written as the octets of its
encoding, each as `%` and two hexadecimal digits.

## Main definitions

* `Url.Percent.encode`: characters with those of a set encoded
* `Url.Percent.decode`: octets with all `%` sequences decoded
* `Url.Percent.isControl`, `inFragment`, `inQuery`, `inSpecialQuery`, `inPath`, `inUserinfo`:
  the sets of the parts
-/

namespace SchemaBinding.Url.Percent

open SchemaBinding.Text (Octets)

/-- The capital hexadecimal digit of a number below 16. -/
def hexDigit (n : Nat) : Char :=
  if n < 10 then Char.ofNat ('0'.toNat + n) else Char.ofNat ('A'.toNat + (n - 10))

/-- An octet as `%` and two digits. -/
def encodeOctet (b : UInt8) : List Char :=
  ['%', hexDigit (b.toNat / 16), hexDigit (b.toNat % 16)]

/-- Characters, with those in the set `escaped` encoded. -/
def encode (escaped : Char → Bool) (cs : List Char) : List Char :=
  cs.flatMap fun c =>
    if escaped c then (Text.encode (String.singleton c)).flatMap encodeOctet else [c]

/-- Control characters and all that are not ASCII. -/
def isControl (c : Char) : Bool := c.toNat < 0x20 || 0x7F ≤ c.toNat

/-- What is encoded in a fragment. -/
def inFragment (c : Char) : Bool :=
  isControl c || c == ' ' || c == '"' || c == '<' || c == '>' || c == '\u0060'

/-- What is encoded in a query. -/
def inQuery (c : Char) : Bool :=
  isControl c || c == ' ' || c == '"' || c == '#' || c == '<' || c == '>'

/-- What is encoded in the query of a URL with a special scheme. -/
def inSpecialQuery (c : Char) : Bool := inQuery c || c == '\''

/-- What is encoded in a path. -/
def inPath (c : Char) : Bool :=
  inFragment c || c == '#' || c == '?' || c == '\x7b' || c == '\x7d'

/-- What is encoded in a user name or password. -/
def inUserinfo (c : Char) : Bool :=
  inPath c || c == '/' || c == ':' || c == ';' || c == '=' || c == '@' || c == '[' || c == '\\' ||
    c == ']' || c == '^' || c == '|'

/-- The value of an octet as a hexadecimal digit. -/
def digitOfOctet? (b : UInt8) : Option Nat := Text.hexDigit? (Char.ofNat b.toNat)

/-- Octets with `%` and two digits read as one octet. -/
def decode : Octets → Octets
  | 0x25 :: a :: b :: bs =>
    match digitOfOctet? a, digitOfOctet? b with
    | some x, some y => UInt8.ofNat (16 * x + y) :: decode bs
    | _, _ => 0x25 :: decode (a :: b :: bs)
  | b :: bs => b :: decode bs
  | [] => []

end SchemaBinding.Url.Percent
