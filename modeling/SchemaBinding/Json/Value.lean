/-!
# JSON values

The values that a JSON text may stand for. Objects keep the order of their members, and may have
several of one name.

## Main definitions

* `Json.Decimal`, `Json.Value`: numbers and values
* `Value.depth`: how deep arrays and objects are nested
* `Value.isOrdinary`: whether all strings are texts and all numbers are in the range of doubles
-/

namespace SchemaBinding.Json

/-- A decimal number: a sign, a whole number below `2 ^ 64`, and the power of ten that it is
multiplied by. -/
structure Decimal where
  negative : Bool
  significand : Nat
  exponent : Int
  deriving DecidableEq, Repr

namespace Decimal

/-- The value of digits that are written after those of `n`, up to the first one that 64 bits have
no room for, and how many digits are left then. -/
def extend (n : Nat) : List Nat → Nat × Nat
  | [] => (n, 0)
  | d :: ds => if 10 * n + d < 2 ^ 64 then extend (10 * n + d) ds else (n, ds.length + 1)

/-- The number with the given digits before and after its point, times a power of ten. Digits that
there is no room for count as zeros. -/
def ofDigits (negative : Bool) (whole part : List Nat) (power : Int) : Decimal :=
  let (n, left) := extend 0 whole
  let (significand, unread) := extend n part
  ⟨negative, significand, power + left - (part.length - unread : Nat)⟩

/-- The least number that is rounded to infinity as a double. -/
def doubleBound : Nat := 1 <<< 1024 - 1 <<< 970

/-- The natural number with 53 binary digits that is nearest to another one; of two such numbers
the even one. -/
def roundDouble (n : Nat) : Nat :=
  let unit := 1 <<< (n.log2 - 52)
  let below := n / unit
  let rest := n % unit
  if 2 * rest < unit ∨ (2 * rest = unit ∧ below % 2 = 0) then below * unit else (below + 1) * unit

theorem roundDouble_of_log2_lt {n : Nat} (h : n.log2 < 53) : roundDouble n = n := by
  have hlog : n.log2 - 52 = 0 := by omega
  simp [roundDouble, hlog, Nat.mod_one]

/-- Whether a number is in the range of doubles. The double nearest to it is taken to be the
product of those nearest to the significand and to the power of ten, and the powers of ten end at
the 308th. -/
def fitsDouble (d : Decimal) : Bool :=
  if d.exponent ≤ 0 then true
  else if 308 < d.exponent then d.significand == 0
  else roundDouble d.significand * roundDouble (Nat.pow 10 d.exponent.toNat) < doubleBound

end Decimal

/-- A JSON value. -/
inductive Value where
  | null
  | bool (b : Bool)
  /-- A number that is written with digits alone. -/
  | natural (n : Nat)
  /-- Any other number. -/
  | decimal (d : Decimal)
  /-- A string; one with an unpaired surrogate is no text, and they are not told apart. -/
  | string (s : Option String)
  | array (items : List Value)
  /-- Members with their names, which are strings. -/
  | object (members : List (Option String × Value))
  deriving Repr, Inhabited

namespace Value

/-- The string of a text. -/
def text (s : String) : Value := .string (some s)

/-- The object whose members have the given names. -/
def record (members : List (String × Value)) : Value :=
  .object (members.map fun (name, v) => (some name, v))

mutual

/-- How many arrays and objects are nested in each other. -/
def depth : Value → Nat
  | .array items => depthOfItems items + 1
  | .object members => depthOfMembers members + 1
  | _ => 0

/-- The greatest depth of the items of an array. -/
def depthOfItems : List Value → Nat
  | [] => 0
  | v :: vs => max (depth v) (depthOfItems vs)

/-- The greatest depth of the members of an object. -/
def depthOfMembers : List (Option String × Value) → Nat
  | [] => 0
  | (_, v) :: vs => max (depth v) (depthOfMembers vs)

end

/-- The decimal digits of a natural number. -/
def digitsOf (n : Nat) : List Nat := (Nat.toDigits 10 n).map fun c => c.toNat - '0'.toNat

mutual

/-- Whether all strings are texts, and all numbers in the range of doubles. -/
def isOrdinary : Value → Bool
  | .null | .bool _ => true
  | .natural n => (Decimal.ofDigits false (digitsOf n) [] 0).fitsDouble
  | .decimal d => d.fitsDouble
  | .string s => s.isSome
  | .array items => areOrdinary items
  | .object members => membersAreOrdinary members

/-- Whether this is so for all items of an array. -/
def areOrdinary : List Value → Bool
  | [] => true
  | v :: vs => isOrdinary v && areOrdinary vs

/-- Whether this is so for all names and values of the members of an object. -/
def membersAreOrdinary : List (Option String × Value) → Bool
  | [] => true
  | (name, v) :: vs => name.isSome && isOrdinary v && membersAreOrdinary vs

end

end Value

end SchemaBinding.Json
