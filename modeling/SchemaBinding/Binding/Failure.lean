/-!
# Binding failures

Why a component of a schema cannot be bound to a repository type.

## Main definitions

* `Binding.Failure`: the causes
* `Binding.Failure.message`: their texts
* `Binding.Failure.isRecoverable`: whether a complex type outlives the failure of a part of it
-/

namespace SchemaBinding.Binding

/-- Why a component cannot be bound. -/
inductive Failure where
  /-- An anonymous type that nothing gives a name. -/
  | unnamedType
  /-- A built-in type that no primitive stands for. -/
  | unknownPrimitive (name : String)
  /-- A list whose item type has not been bound before. -/
  | missingItemType (list item : String)
  /-- An attribute of a complex type whose own type cannot be bound. -/
  | attributeType (typeName attr : String) (cause : Failure)
  /-- Content that is no group. -/
  | unsupportedContent (typeName : String)
  /-- A facet whose value has no meaning. -/
  | invalidFacet (facet value : String)
  /-- A name under which another type is registered. -/
  | typeCollision (name : String)
  /-- Types that refer to each other more deeply than the schema set has types for. -/
  | nestedTooDeep
  deriving DecidableEq, Repr

namespace Failure

/-- The text of a failure. -/
def message : Failure → String
  | .unnamedType => "unable to load type: no name found"
  | .unknownPrimitive name => s!"cannot use unknown XSD type: {name}"
  | .missingItemType list item =>
    s!"item type '{item}' of list '{list}' is not defined; define the item type first"
  | .attributeType typeName attr _ => s!"cannot add type for attribute '{attr}' of '{typeName}'"
  | .unsupportedContent typeName => s!"unsupported content model for complex type '{typeName}'"
  | .invalidFacet facet value => s!"invalid value '{value}' for facet '{facet}'"
  | .typeCollision name => s!"type '{name}' is already registered"
  | .nestedTooDeep => "types are nested too deep"

/-- Whether the complex type around the failing part can still be built. -/
def isRecoverable : Failure → Bool
  | .attributeType .. | .unsupportedContent _ => false
  | _ => true

end Failure

end SchemaBinding.Binding
