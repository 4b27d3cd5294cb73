import SchemaBinding.Text.Digit
import SchemaBinding.Text.Utf8

/-!
# Character references

In text and attribute values `&name;` stands for a character: one of five that markup uses, or
the character with a given number. No other references are defined.

## Main definitions

* `Xml.reference?`: the character of a reference
* `Xml.unescape?`: a text with its references replaced
* `Xml.readText?`: the text that octets of a document stand for
-/

namespace SchemaBinding.Xml

open SchemaBinding.Text (Octets)

/-- The character with a number; there is none for 0. -/
def charOfNumber? (n : Nat) : Option Char :=
  if n ≠ 0 ∧ n.isValidChar then some (Char.ofNat n) else none

/-- The character that a reference stands for, given what stands between `&` and `;`. A number has
at most seven decimal or six hexadecimal digits. -/
def reference? : List Char → Option Char
  | ['l', 't'] => some '<'
  | ['g', 't'] => some '>'
  | ['a', 'm', 'p'] => some '&'
  | ['a', 'p', 'o', 's'] => some '\''
  | ['q', 'u', 'o', 't'] => some '"'
  | '#' :: 'x' :: digits =>
    if digits.length ≤ 6 then (Text.number? 16 digits).bind charOfNumber? else none
  | '#' :: digits =>
    if digits.length ≤ 7 then (Text.number? 10 digits).bind charOfNumber? else none
  | _ => none

/-- Replaces references. Inside a reference `name` holds the characters since `&` in reverse. A
reference runs to the next `;`, and no `&` may come before that. -/
def unescapeFrom : Option (List Char) → List Char → Option (List Char)
  | none, [] => some []
  | some _, [] => none
  | none, c :: cs =>
    if c = '&' then unescapeFrom (some []) cs else (unescapeFrom none cs).map (c :: ·)
  | some name, c :: cs =>
    if c = ';' then
      match reference? name.reverse with
      | some d => (unescapeFrom none cs).map (d :: ·)
      | none => none
    else if c = '&' then none
    else unescapeFrom (some (c :: name)) cs

/-- A text with its references replaced, unless one of them stands for nothing. -/
def unescape? (s : String) : Option String :=
  (unescapeFrom none s.toList).map String.ofList

/-- The text that octets of a document stand for, if they are UTF-8 and all references in it are
known. -/
def readText? (octets : Octets) : Option String :=
  (Text.decode? octets).bind unescape?

end SchemaBinding.Xml
