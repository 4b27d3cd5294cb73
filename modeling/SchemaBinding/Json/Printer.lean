import SchemaBinding.Json.Value

/-!
# Writing JSON

Each item of an array and each member of an object stands on a line of its own, two spaces further
in than what it belongs to. Of the characters only those that must be escaped are.

## Main definitions

* `Json.escape`, `Json.quote`: strings
* `Value.write`: a value as characters
* `Value.pretty`: a value as text
-/

namespace SchemaBinding.Json

/-- The digit of a hexadecimal place. -/
def hexDigit (n : Nat) : Char := Nat.digitChar n

/-- A character in a string. Control characters without a short escape are written with four
hexadecimal digits. -/
def escape (c : Char) : List Char :=
  match c with
  | '"' => ['\\', '"']
  | '\\' => ['\\', '\\']
  | '\x08' => ['\\', 'b']
  | '\t' => ['\\', 't']
  | '\n' => ['\\', 'n']
  | '\x0c' => ['\\', 'f']
  | '\r' => ['\\', 'r']
  | c =>
    if c.toNat < 32 then ['\\', 'u', '0', '0', hexDigit (c.toNat / 16), hexDigit (c.toNat % 16)]
    else [c]

/-- A string with its quotes. For strings that are no texts one of them is written. -/
def quote : Option String → List Char
  | some s => '"' :: s.toList.flatMap escape ++ ['"']
  | none => ['"', '\\', 'u', 'd', '8', '0', '0', '"']

/-- A number in decimal digits. -/
def digits (n : Nat) : List Char := Nat.toDigits 10 n

/-- A decimal number, with its exponent. -/
def Decimal.write (d : Decimal) : List Char :=
  (if d.negative then ['-'] else []) ++ digits d.significand ++ ['e'] ++
    match d.exponent with
    | .ofNat n => digits n
    | .negSucc n => '-' :: digits (n + 1)

/-- A new line, indented by two spaces for each level. -/
def newLine (level : Nat) : List Char := '\n' :: List.replicate (2 * level) ' '

namespace Value

mutual

/-- A value whose lines after the first are indented by a number of levels. -/
def write (level : Nat) : Value → List Char
  | .null => ['n', 'u', 'l', 'l']
  | .bool true => ['t', 'r', 'u', 'e']
  | .bool false => ['f', 'a', 'l', 's', 'e']
  | .natural n => digits n
  | .decimal d => d.write
  | .string s => quote s
  | .array [] => ['[', ']']
  | .array (v :: vs) =>
    '[' :: newLine (level + 1) ++ write (level + 1) v ++ writeItems (level + 1) vs ++
      newLine level ++ [']']
  | .object [] => ['\x7b', '\x7d']
  | .object ((name, v) :: vs) =>
    '\x7b' :: newLine (level + 1) ++ quote name ++ [':', ' '] ++ write (level + 1) v ++
      writeMembers (level + 1) vs ++ newLine level ++ ['\x7d']

/-- The items of an array after the first one. -/
def writeItems (level : Nat) : List Value → List Char
  | [] => []
  | v :: vs => ',' :: newLine level ++ write level v ++ writeItems level vs

/-- The members of an object after the first one. -/
def writeMembers (level : Nat) : List (Option String × Value) → List Char
  | [] => []
  | (name, v) :: vs =>
    ',' :: newLine level ++ quote name ++ [':', ' '] ++ write level v ++ writeMembers level vs

end

/-- A value as text. -/
def pretty (v : Value) : String := String.ofList (v.write 0)

end Value

end SchemaBinding.Json
