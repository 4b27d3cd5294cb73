/-!
# UTF-8

Text as octets. Octets that are not the encoding of a text can be refused, or each of their
maximal ill-formed parts can be read as the replacement character.

## Main definitions

* `Text.Octets`: sequences of octets
* `Text.encode`, `Text.decode?`: the encoding of a text, and the text with a given encoding
* `Text.characters`: the characters of any octets, with the places of ill-formed parts
* `Text.decodeReplacing`: a text for any octets

## Main results

* `decode?_encode`: decoding an encoding gives the text back
-/

namespace SchemaBinding.Text

/-- Sequences of octets. -/
abbrev Octets := List UInt8

/-- The encoding of a text. -/
def encode (s : String) : Octets := s.toByteArray.data.toList

/-- The text with the given encoding, if there is one. -/
def decode? (octets : Octets) : Option String := String.fromUTF8? ⟨octets.toArray⟩

@[simp] theorem decode?_encode (s : String) : decode? (encode s) = some s := by
  have h : (⟨(encode s).toArray⟩ : ByteArray) = s.toByteArray := by simp [encode]
  rw [decode?, h, String.fromUTF8?, dif_pos s.isValidUTF8]
  rfl

/-! ## Decoding with replacement -/

/-- The character that stands for an ill-formed part. -/
def replacement : Char := '\ufffd'

/-- A character of which some octets are read: how many are owed, the bounds of the next one, and
the value so far. -/
structure Partial where
  owed : Nat
  low : UInt8
  high : UInt8
  value : Nat

/-- Reads an octet between characters. -/
def firstOctet (b : UInt8) : List (Option Char) × Option Partial :=
  let n := b.toNat
  if n < 0x80 then ([some (Char.ofNat n)], none)
  else if 0xC2 ≤ n ∧ n ≤ 0xDF then ([], some ⟨1, 0x80, 0xBF, n - 0xC0⟩)
  else if n = 0xE0 then ([], some ⟨2, 0xA0, 0xBF, 0⟩)
  else if n = 0xED then ([], some ⟨2, 0x80, 0x9F, 0xD⟩)
  else if 0xE1 ≤ n ∧ n ≤ 0xEF then ([], some ⟨2, 0x80, 0xBF, n - 0xE0⟩)
  else if n = 0xF0 then ([], some ⟨3, 0x90, 0xBF, 0⟩)
  else if 0xF1 ≤ n ∧ n ≤ 0xF3 then ([], some ⟨3, 0x80, 0xBF, n - 0xF0⟩)
  else if n = 0xF4 then ([], some ⟨3, 0x80, 0x8F, 4⟩)
  else ([none], none)

/-- Reads an octet: the characters that end with it, and the character left unfinished. An octet
that cannot go on with an unfinished character ends it as ill-formed and starts anew. -/
def nextOctet : Option Partial → UInt8 → List (Option Char) × Option Partial
  | none, b => firstOctet b
  | some p, b =>
    if p.low ≤ b ∧ b ≤ p.high then
      let value := p.value * 64 + (b.toNat - 0x80)
      if p.owed ≤ 1 then ([some (Char.ofNat value)], none)
      else ([], some ⟨p.owed - 1, 0x80, 0xBF, value⟩)
    else
      let (cs, unfinished) := firstOctet b
      (none :: cs, unfinished)

/-- The characters of octets that follow an unfinished character. -/
def charactersFrom : Option Partial → Octets → List (Option Char)
  | none, [] => []
  | some _, [] => [none]
  | unfinished, b :: bs =>
    let (cs, unfinished') := nextOctet unfinished b
    cs ++ charactersFrom unfinished' bs

/-- The characters that octets encode, and `none` for each maximal ill-formed part. -/
def characters (octets : Octets) : List (Option Char) := charactersFrom none octets

/-- A text for characters, with the replacement character for ill-formed parts. -/
def replacing (cs : List (Option Char)) : String :=
  String.ofList (cs.map (·.getD replacement))

@[simp] theorem replacing_map_some (cs : List Char) :
    replacing (cs.map some) = String.ofList cs := by
  simp [replacing, Function.comp_def]

/-- A text for any octets: each maximal ill-formed part is read as the replacement character. -/
def decodeReplacing (octets : Octets) : String := replacing (characters octets)

end SchemaBinding.Text
