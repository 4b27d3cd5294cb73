import SchemaBinding.Text.Blank
import SchemaBinding.Text.Unsigned
import SchemaBinding.Xsd.Fault

/-!
# Occurrence bounds

How often a particle may occur: at least `min` times, and at most `max` times if there is a bound.

## Main definitions

* `Xsd.Occurs`: the bounds
* `Xsd.Occurs.parse`: the bounds that two written values stand for
* `Xsd.Occurs.text`: the form `min..max`
-/

namespace SchemaBinding.Xsd

/-- The bounds of a number of occurrences. -/
structure Occurs where
  min : UInt32
  max : Option UInt32
  deriving DecidableEq, Repr

namespace Occurs

/-- Exactly once. -/
def once : Occurs := ⟨1, some 1⟩

instance : Inhabited Occurs := ⟨once⟩

/-- Any number of times. -/
def any : Occurs := ⟨0, none⟩

/-- The least number that a written value stands for; 1 without a value. -/
def parseMin : Option String → Except Fault UInt32
  | none => .ok 1
  | some s =>
    match Text.unsigned? (Text.trim s) with
    | some n => .ok n
    | none => .error (.minOccurs s)

/-- The greatest number that a written value stands for; 1 without a value. -/
def parseMax : Option String → Except Fault (Option UInt32)
  | none => .ok (some 1)
  | some s =>
    if Text.trim s = "unbounded" then .ok none
    else
      match Text.unsigned? (Text.trim s) with
      | some n => .ok (some n)
      | none => .error (.maxOccurs (Text.trim s))

/-- The bounds that two written values stand for. Blanks around a value do not count. -/
def parse (min max : Option String) : Except Fault Occurs := do
  let min ← parseMin min
  let max ← parseMax max
  match max with
  | none => return ⟨min, none⟩
  | some max => if max < min then throw (.occursOrder max min) else return ⟨min, some max⟩

/-- Whether more than one occurrence is allowed. -/
def isMultiple (o : Occurs) : Bool :=
  match o.max with
  | none => true
  | some max => decide (1 < max)

/-- The written form of a bound. -/
def maxText : Option UInt32 → String
  | some max => Text.ofUnsigned max
  | none => "unbounded"

/-- The written form of both bounds. -/
def text (o : Occurs) : String := Text.ofUnsigned o.min ++ ".." ++ maxText o.max

end Occurs

end SchemaBinding.Xsd
