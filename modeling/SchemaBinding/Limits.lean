/-!
# Resource limits

Bounds on what reading a schema may consume. A value is within a limit when it is not greater
than the limit's maximum.

## Main definitions

* `Limit`: the four quantities that are bounded
* `Limits`: a maximum for each, with the presets `Limits.standard` and `Limits.strict`
* `Limits.check`: refuses a value above the maximum
-/

namespace SchemaBinding

/-- The quantities that are bounded. -/
inductive Limit where
  /-- The nesting depth of elements in a document. -/
  | xmlDepth
  /-- The size of a source in bytes. -/
  | xmlSize
  /-- The nesting of includes and imports. -/
  | schemaDepth
  /-- The number of types, elements and attributes of a schema set. -/
  | components
  deriving DecidableEq, Repr

/-- What a limit bounds, in words. -/
def Limit.description : Limit → String
  | .xmlDepth => "element nesting depth"
  | .xmlSize => "schema source size"
  | .schemaDepth => "include/import depth"
  | .components => "schema component count"

/-- A value above its limit. -/
structure LimitExceeded where
  limit : Limit
  value : Nat
  maximum : Nat
  deriving DecidableEq, Repr

/-- The text of an exceeded limit. -/
def LimitExceeded.message (e : LimitExceeded) : String :=
  s!"{e.limit.description} {e.value} exceeds maximum {e.maximum}"

/-- A maximum for each bounded quantity. -/
structure Limits where
  xmlDepth : Nat
  xmlSize : Nat
  schemaDepth : Nat
  components : Nat
  deriving DecidableEq, Repr

namespace Limits

/-- The limits that apply where none are given. -/
def standard : Limits where
  xmlDepth := 1000
  xmlSize := 64 * 1024 * 1024
  schemaDepth := 100
  components := 100000

/-- Tighter limits, for sources that are not trusted. -/
def strict : Limits where
  xmlDepth := 100
  xmlSize := 4 * 1024 * 1024
  schemaDepth := 20
  components := 10000

instance : Inhabited Limits := ⟨standard⟩

/-- The maximum of a bounded quantity. -/
def maximum (limits : Limits) : Limit → Nat
  | .xmlDepth => limits.xmlDepth
  | .xmlSize => limits.xmlSize
  | .schemaDepth => limits.schemaDepth
  | .components => limits.components

/-- Refuses a value above the maximum. -/
def check (limits : Limits) (limit : Limit) (value : Nat) : Except LimitExceeded Unit :=
  if limits.maximum limit < value then .error ⟨limit, value, limits.maximum limit⟩ else .ok ()

theorem check_eq_ok_iff {limits : Limits} {limit : Limit} {value : Nat} :
    limits.check limit value = .ok () ↔ value ≤ limits.maximum limit := by
  unfold check
  split <;> simp <;> omega

end Limits

end SchemaBinding
