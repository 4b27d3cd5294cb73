import SchemaBinding.Binding.Failure
import SchemaBinding.Repository.Constraint
import SchemaBinding.Text.Blank
import SchemaBinding.Text.Unsigned
import SchemaBinding.Xsd.Facet

/-!
# Constraints of facets

The facets of a simple type that become constraints: the first `maxLength`, and all values of
`enumeration`.

## Main definitions

* `Binding.stringLength`, `Binding.enumeration`: the constraint of each kind, if there is one
* `Binding.constraints`: both
-/

namespace SchemaBinding.Binding

open Repository (Constraint Enumeration)
open Xsd (FacetSet)

/-- The bound of a length: from 0 to the value of the first `maxLength`. -/
def stringLength (facets : FacetSet) : Except Failure (Option Constraint) :=
  match facets.first? "maxLength" with
  | none => .ok none
  | some value =>
    match Text.unsigned? (Text.trim value) with
    | some max => .ok (some (.stringLength 0 max))
    | none => .error (.invalidFacet "maxLength" value)

/-- The enumeration of all values given, if there are any. -/
def enumeration (facets : FacetSet) : Option Constraint :=
  match facets.valuesOf "enumeration" with
  | [] => none
  | values => some (.enumeration (.ofList values))

/-- The constraints of a simple type with the given facets: a length first, then an
enumeration. -/
def constraints (facets : FacetSet) : Except Failure (List Constraint) := do
  let length ← stringLength facets
  return length.toList ++ (enumeration facets).toList

end SchemaBinding.Binding
