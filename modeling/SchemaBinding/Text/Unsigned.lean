import SchemaBinding.Text.Digit

/-!
# Unsigned 32-bit numbers in decimal

A number is written as an optional `+` followed by one or more ASCII digits. Leading zeros are
allowed; a value above `4294967295` is refused.

## Main definitions

* `Text.unsigned?`: the 32-bit number a text stands for
* `Text.ofUnsigned`: its shortest decimal text
-/

namespace SchemaBinding.Text

/-- The greatest number of 32 bits. -/
def maxUnsigned : Nat := 4294967295

/-- The 32-bit number whose value is `n`, if there is one. -/
def ofNat32? (n : Nat) : Option UInt32 :=
  if n ≤ maxUnsigned then some (UInt32.ofNat n) else none

/-- The 32-bit number that a text stands for: an optional `+`, then digits. -/
def unsigned? (s : String) : Option UInt32 :=
  let digits := match s.toList with
    | '+' :: cs => cs
    | cs => cs
  (decimal? digits).bind ofNat32?

/-- The shortest decimal text of a number. -/
def ofUnsigned (n : UInt32) : String :=
  toString n.toNat

end SchemaBinding.Text
