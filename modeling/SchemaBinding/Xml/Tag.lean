import SchemaBinding.Xml.Octet

/-!
# Tags

The content of a start tag: a name up to the first white space, then attributes. An attribute is a
key, `=` and a quoted value, with white space allowed around `=`; no key occurs twice.

## Main definitions

* `Xml.RawAttribute`: an attribute as written
* `Xml.RawAttribute.scan`: the first attribute of some octets, and what follows
* `Xml.RawAttribute.all`: all attributes, and whether they reach the end of the octets
* `Xml.Tag.name`, `Xml.Tag.attributes`: the parts of a tag's content
-/

namespace SchemaBinding.Xml

open SchemaBinding.Text (Octets)
open Octet (equals isSpace isQuote)

/-- An attribute as written, without the quotes of its value. -/
structure RawAttribute where
  key : Octets
  value : Octets
  deriving DecidableEq, Repr

namespace RawAttribute

/-- What a scan for an attribute finds. -/
inductive Scan where
  /-- Nothing more. -/
  | done
  /-- Octets that are no attribute. -/
  | fault
  /-- An attribute, and what follows it. -/
  | found (attr : RawAttribute) (rest : Octets)

/-- Whether an octet belongs to a key after its first octet. -/
def isKey (b : UInt8) : Bool := b != equals && !isSpace b

/-- The value after `=` and what follows it, if there is a quoted value. -/
def scanValue (bs : Octets) : Option (Octets × Octets) :=
  match bs.dropWhile isSpace with
  | [] => none
  | q :: content =>
    if isQuote q then
      match content.dropWhile (· != q) with
      | [] => none
      | _ :: rest => some (content.takeWhile (· != q), rest)
    else none

/-- The first attribute and what follows it. A key has at least one octet, which may be any. -/
def scan (input : Octets) : Scan :=
  match input.dropWhile isSpace with
  | [] => .done
  | b :: bs =>
    match (bs.dropWhile isKey).dropWhile isSpace with
    | [] => .fault
    | e :: afterEquals =>
      if e = equals then
        match scanValue afterEquals with
        | some (value, rest) => .found ⟨b :: bs.takeWhile isKey, value⟩ rest
        | none => .fault
      else .fault

theorem length_of_scanValue {bs value rest : Octets} (h : scanValue bs = some (value, rest)) :
    rest.length ≤ bs.length := by
  have h₁ := (List.dropWhile_sublist isSpace (l := bs)).length_le
  rw [scanValue] at h
  split at h
  · cases h
  · next q content hq =>
    have h₂ := (List.dropWhile_sublist (· != q) (l := content)).length_le
    rw [hq] at h₁
    split at h
    · split at h
      · cases h
      · next c r hr =>
        rw [hr] at h₂
        cases h
        simp only [List.length_cons] at h₁ h₂
        omega
    · cases h

/-- What follows an attribute is shorter than the octets it was found in. -/
theorem length_of_scan {input : Octets} {a : RawAttribute} {rest : Octets}
    (h : scan input = .found a rest) : rest.length < input.length := by
  have h₁ := (List.dropWhile_sublist isSpace (l := input)).length_le
  rw [scan] at h
  split at h
  · cases h
  · next b bs hb =>
    have h₂ := (List.dropWhile_sublist isKey (l := bs)).length_le
    have h₃ := (List.dropWhile_sublist isSpace (l := bs.dropWhile isKey)).length_le
    rw [hb] at h₁
    split at h
    · cases h
    · next e after he =>
      rw [he] at h₃
      split at h
      · split at h
        · next value r hr =>
          have := length_of_scanValue hr
          cases h
          simp only [List.length_cons] at h₁ h₃
          omega
        · cases h
      · cases h

/-- The attributes in order, `seen` being the keys of earlier ones, and whether they reach the end
of the octets: otherwise something follows that is no attribute, or one with an earlier key. -/
def allAfter (seen : List Octets) (input : Octets) : List RawAttribute × Bool :=
  match _h : scan input with
  | .done => ([], true)
  | .fault => ([], false)
  | .found a rest =>
    if a.key ∈ seen then ([], false)
    else
      let (as, complete) := allAfter (a.key :: seen) rest
      (a :: as, complete)
termination_by input.length
decreasing_by exact length_of_scan _h

/-- The attributes in order, and whether they reach the end of the octets. -/
def all (input : Octets) : List RawAttribute × Bool := allAfter [] input

end RawAttribute

namespace Tag

/-- The name in the content of a tag. -/
def name (content : Octets) : Octets := content.takeWhile fun b => !isSpace b

/-- The attributes in the content of a tag, and whether they reach its end. -/
def attributes (content : Octets) : List RawAttribute × Bool :=
  RawAttribute.all (content.dropWhile fun b => !isSpace b)

end Tag

end SchemaBinding.Xml
