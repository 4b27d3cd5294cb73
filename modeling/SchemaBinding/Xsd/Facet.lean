/-!
# Facets

The constraining facets of a simple type, in the order of their declaration. A facet may occur
several times.

## Main definitions

* `Xsd.Facet`: a name and a value, both as written
* `Xsd.FacetSet`: facets in order
* `Xsd.FacetSet.first?`, `Xsd.FacetSet.valuesOf`: the facets of a name
* `Xsd.facetNames`: the facets that exist
-/

namespace SchemaBinding.Xsd

/-- A facet with its value as written. -/
structure Facet where
  name : String
  value : String
  deriving DecidableEq, Repr

/-- The facets that exist. -/
def facetNames : List String :=
  ["length", "minLength", "maxLength", "pattern", "enumeration", "whiteSpace", "maxInclusive",
    "maxExclusive", "minInclusive", "minExclusive", "totalDigits", "fractionDigits"]

/-- Facets in the order of their declaration. -/
structure FacetSet where
  facets : List Facet
  deriving DecidableEq, Repr

namespace FacetSet

/-- No facets. -/
def empty : FacetSet := ⟨[]⟩

instance : Inhabited FacetSet := ⟨empty⟩

/-- Adds a facet at the end. -/
def push (fs : FacetSet) (name value : String) : FacetSet := ⟨fs.facets ++ [⟨name, value⟩]⟩

/-- The value of the first facet of a name. -/
def first? (fs : FacetSet) (name : String) : Option String :=
  (fs.facets.find? (·.name == name)).map (·.value)

/-- The values of all facets of a name, in order. -/
def valuesOf (fs : FacetSet) (name : String) : List String :=
  (fs.facets.filter (·.name == name)).map (·.value)

/-- The number of facets. -/
def size (fs : FacetSet) : Nat := fs.facets.length

/-- Whether there is no facet. -/
def isEmpty (fs : FacetSet) : Bool := fs.facets.isEmpty

end FacetSet

end SchemaBinding.Xsd
