/-!
# Digits

The value of a run of digits to a base up to 16. Letters are digits from 10 on, in either case.

## Main definitions

* `Text.hexDigit?`, `Text.digit?`: the value of a digit
* `Text.number?`: the value of any number of digits
* `Text.decimal?`: the value of one or more decimal digits
-/

namespace SchemaBinding.Text

/-- The value of a hexadecimal digit. -/
def hexDigit? (c : Char) : Option Nat :=
  if '0' ≤ c ∧ c ≤ '9' then some (c.toNat - '0'.toNat)
  else if 'a' ≤ c ∧ c ≤ 'f' then some (c.toNat - 'a'.toNat + 10)
  else if 'A' ≤ c ∧ c ≤ 'F' then some (c.toNat - 'A'.toNat + 10)
  else none

/-- The value of a digit to a base. -/
def digit? (base : Nat) (c : Char) : Option Nat := (hexDigit? c).filter (· < base)

/-- The value of digits written after digits of value `value`. -/
def numberFrom (base value : Nat) : List Char → Option Nat
  | [] => some value
  | c :: cs =>
    match digit? base c with
    | some d => numberFrom base (base * value + d) cs
    | none => none

/-- The value of digits to a base; no digits have the value 0. -/
def number? (base : Nat) (cs : List Char) : Option Nat := numberFrom base 0 cs

/-- The value of one or more decimal digits. -/
def decimal? : List Char → Option Nat
  | [] => none
  | c :: cs => number? 10 (c :: cs)

example : number? 16 ['7', 'F'] = some 127 ∧ number? 8 ['9'] = none ∧ decimal? [] = none := by
  decide

end SchemaBinding.Text
