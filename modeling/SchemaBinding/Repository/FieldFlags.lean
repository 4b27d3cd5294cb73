/-!
# Flags of fields

Whether a field is constant and whether it may be nil.

## Main definitions

* `Repository.FieldFlags`: a set of flags
* `union`, `contains`, `bits`, `text`: operations and views
-/

namespace SchemaBinding.Repository

/-- A set of flags. -/
structure FieldFlags where
  constant : Bool
  nillable : Bool
  deriving DecidableEq, Repr

namespace FieldFlags

/-- No flag. -/
def none : FieldFlags := ⟨false, false⟩

/-- The flag of fields whose value cannot be changed. -/
def constantFlag : FieldFlags := ⟨true, false⟩

/-- The flag of fields that may be nil. -/
def nillableFlag : FieldFlags := ⟨false, true⟩

instance : Inhabited FieldFlags := ⟨none⟩

/-- The flags of both sets. -/
def union (a b : FieldFlags) : FieldFlags := ⟨a.constant || b.constant, a.nillable || b.nillable⟩

/-- Whether all flags of `b` are in `a`. -/
def contains (a b : FieldFlags) : Bool := (a.constant || !b.constant) && (a.nillable || !b.nillable)

/-- Whether there is no flag. -/
def isEmpty (a : FieldFlags) : Bool := !a.constant && !a.nillable

/-- The flags as the bits of a number. -/
def bits (a : FieldFlags) : Nat := (if a.constant then 1 else 0) + (if a.nillable then 2 else 0)

/-- The names of the flags, joined by bars. -/
def text (a : FieldFlags) : String :=
  "|".intercalate
    ((if a.constant then ["constant"] else []) ++ (if a.nillable then ["nillable"] else []))

theorem contains_iff {a b : FieldFlags} : a.contains b = true ↔ a.union b = a := by
  cases a with
  | mk ac an => cases b with
    | mk bc bn => cases ac <;> cases an <;> cases bc <;> cases bn <;> decide

end FieldFlags

end SchemaBinding.Repository
