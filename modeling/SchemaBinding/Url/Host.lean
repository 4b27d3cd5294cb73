import SchemaBinding.Text.Digit
import SchemaBinding.Url.Domain
import SchemaBinding.Url.Fault
import SchemaBinding.Url.Percent

/-!
# Hosts

The host of a URL, read from its written form and given in its normal one. With a special scheme
it is a domain name, an IPv4 address or an IPv6 address in brackets; with another scheme any
characters that do not delimit.

## Main definitions

* `Url.Host.ipv4?`, `Url.Host.ipv6?`: addresses
* `Url.Host.ofSpecial`, `Url.Host.ofOther`: hosts by scheme
-/

namespace SchemaBinding.Url.Host

/-! ## IPv4 -/

/-- A part of an IPv4 address: hexadecimal after `0x`, octal after `0`, else decimal. -/
def ipv4Part? : List Char → Option Nat
  | [] => none
  | '0' :: 'x' :: cs => Text.number? 16 cs
  | '0' :: 'X' :: cs => Text.number? 16 cs
  | '0' :: c :: cs => Text.number? 8 (c :: cs)
  | cs => Text.number? 10 cs

/-- The parts of a dotted name; an empty last part does not count. -/
def dotParts (cs : List Char) : List (List Char) :=
  let parts := cs.splitOn '.'
  if 1 < parts.length ∧ parts.getLast? = some [] then parts.dropLast else parts

/-- Whether the last part of a dotted name is a number, so that the name is an address. -/
def endsInNumber (cs : List Char) : Bool :=
  match (dotParts cs).getLast? with
  | some part => (!part.isEmpty && part.all Char.isDigit) || (ipv4Part? part).isSome
  | none => false

/-- The value of the parts of an IPv4 address: each but the last is an octet, and the last one
fills the octets left. -/
def ipv4Value? (shift : Nat) : List Nat → Option Nat
  | [] => none
  | [n] => if n < 256 ^ (shift + 1) then some n else none
  | n :: ns =>
    match shift with
    | 0 => none
    | rest + 1 =>
      if n ≤ 255 then (ipv4Value? rest ns).map (n * 256 ^ shift + ·) else none

/-- The address that a dotted name stands for. -/
def ipv4? (cs : List Char) : Option Nat :=
  ((dotParts cs).mapM ipv4Part?).bind (ipv4Value? 3)

/-- An IPv4 address in four decimal octets. -/
def ipv4Text (address : Nat) : String :=
  ".".intercalate
    [toString (address >>> 24 % 256), toString (address >>> 16 % 256),
      toString (address >>> 8 % 256), toString (address % 256)]

/-! ## IPv6 -/

/-- An octet in decimal without leading zeros. -/
def strictOctet? (cs : List Char) : Option Nat :=
  if cs.isEmpty || !cs.all Char.isDigit || (1 < cs.length && cs.head? == some '0') then none
  else (Text.number? 10 cs).bind fun n => if n ≤ 255 then some n else none

/-- The two 16-bit groups of an IPv4 address at the end of an IPv6 address. -/
def embeddedIpv4? (cs : List Char) : Option (List Nat) :=
  match (cs.splitOn '.').mapM strictOctet? with
  | some [a, b, c, d] => some [256 * a + b, 256 * c + d]
  | _ => none

/-- A group of one to four hexadecimal digits. -/
def group? (cs : List Char) : Option Nat :=
  if 1 ≤ cs.length ∧ cs.length ≤ 4 then Text.number? 16 cs else none

/-- The groups between colons; the last one may be an IPv4 address if `last` says so. -/
def groups? (last : Bool) : List (List Char) → Option (List Nat)
  | [] => some []
  | [cs] =>
    if last && cs.contains '.' then embeddedIpv4? cs else (group? cs).map ([·])
  | cs :: more => do
    let g ← group? cs
    let gs ← groups? last more
    return g :: gs

/-- The groups of a part of an IPv6 address, which may be empty. -/
def partGroups? (last : Bool) (cs : List Char) : Option (List Nat) :=
  if cs.isEmpty then some [] else groups? last (cs.splitOn ':')

/-- What stands before and after the first `::`. -/
def splitDoubleColon : List Char → Option (List Char × List Char)
  | [] => none
  | ':' :: ':' :: cs => some ([], cs)
  | c :: cs => (splitDoubleColon cs).map fun (before, after) => (c :: before, after)

/-- The eight groups of an IPv6 address; `::` stands for one or more groups of zeros. -/
def ipv6? (cs : List Char) : Option (List Nat) :=
  match splitDoubleColon cs with
  | none => do
    let gs ← partGroups? true cs
    if gs.length = 8 then some gs else none
  | some (before, after) => do
    let left ← partGroups? false before
    let right ← partGroups? true after
    if left.length + right.length ≤ 7 then
      some (left ++ List.replicate (8 - left.length - right.length) 0 ++ right)
    else none

/-- The length of the run of zeros at the start. -/
def zeroRun (gs : List Nat) : Nat := (gs.takeWhile (· == 0)).length

/-- The place and length of the first longest run of zeros, `place` being that of the list. -/
def longestZeros (place : Nat) : List Nat → Nat × Nat
  | [] => (place, 0)
  | g :: gs =>
    let here := zeroRun (g :: gs)
    let later := longestZeros (place + 1) gs
    if later.2 ≤ here then (place, here) else later

/-- A group in hexadecimal digits. -/
def groupText (g : Nat) : String := String.ofList (Nat.toDigits 16 g)

/-- An IPv6 address in brackets, the first longest run of two or more zeros written `::`. -/
def ipv6Text (gs : List Nat) : String :=
  let join (xs : List Nat) : String := ":".intercalate (xs.map groupText)
  let (place, length) := longestZeros 0 gs
  if length < 2 then "[" ++ join gs ++ "]"
  else "[" ++ join (gs.take place) ++ "::" ++ join (gs.drop (place + length)) ++ "]"

/-- The host in brackets. -/
def ofBrackets (cs : List Char) : Except Fault String :=
  match cs.getLast? with
  | some ']' =>
    match ipv6? cs.dropLast with
    | some gs => .ok (ipv6Text gs)
    | none => .error .ipv6
  | _ => .error .ipv6

/-! ## Hosts -/

/-- The host of a URL with a special scheme. -/
def ofSpecial : List Char → Except Fault String
  | '[' :: cs => ofBrackets cs
  | cs =>
    match Text.decode? (Percent.decode (Text.encode (String.ofList cs))) with
    | none => .error .domain
    | some decoded =>
      match Domain.toAscii? decoded.toList with
      | none => .error .domain
      | some [] => .error .emptyHost
      | some name =>
        if endsInNumber name then
          match ipv4? name with
          | some address => .ok (ipv4Text address)
          | none => .error .ipv4
        else .ok (String.ofList name)

/-- Characters that no host of another scheme may hold. -/
def isDelimiter (c : Char) : Bool :=
  ['\x00', '\t', '\n', '\r', ' ', '#', '/', ':', '<', '>', '?', '@', '[', '\\', ']', '^',
    '|'].contains c

/-- The host of a URL with another scheme. -/
def ofOther : List Char → Except Fault String
  | '[' :: cs => ofBrackets cs
  | cs =>
    if cs.any isDelimiter then .error .hostCharacter
    else .ok (String.ofList (Percent.encode Percent.isControl cs))

end SchemaBinding.Url.Host
