import SchemaBinding.Repository.Store
import SchemaBinding.Xsd.Component

/-!
# Fields of declarations

The field that an element or attribute declaration becomes. A default value counts before a fixed
one; a fixed value makes the field constant.

## Main definitions

* `Binding.presetValue`: the value of a field that is not given, and whether it is constant
* `Binding.elementField`, `Binding.attributeField`: the field of a declaration
-/

namespace SchemaBinding.Binding

open Repository (Field FieldFlags Store TypeRef)
open Xsd (AttributeDeclaration ElementDeclaration)

/-- The default value of a field with the flag that goes with it. -/
def presetValue : (defaultValue fixedValue : Option String) → Option String × FieldFlags
  | some value, _ => (some value, .none)
  | none, some value => (some value, .constantFlag)
  | none, none => (none, .none)

/-- The field of an element. It has the greatest length of its type if that is simple. -/
def elementField (store : Store) (e : ElementDeclaration) (type : TypeRef) : Field :=
  let (value, flags) := presetValue e.defaultValue e.fixedValue
  { name := e.name
    type := type
    defaultValue := value
    flags := if e.nillable then flags.union .nillableFlag else flags
    maxLength := store.maxLengthOf type }

/-- The field of an attribute. -/
def attributeField (a : AttributeDeclaration) (type : TypeRef) : Field :=
  let (value, flags) := presetValue a.defaultValue a.fixedValue
  { name := a.name, type := type, defaultValue := value, flags := flags, maxLength := none }

end SchemaBinding.Binding
