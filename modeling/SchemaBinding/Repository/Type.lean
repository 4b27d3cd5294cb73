import SchemaBinding.Repository.Constraint
import SchemaBinding.Repository.FieldFlags
import SchemaBinding.Repository.Primitive

/-!
# Repository types

The types of a repository: primitives, simple types with constraints, complex types with fields,
and lists. Types refer to each other, also in circles, and one type may be referred to from many
places, so a reference is the identity of a type in a store.

## Main definitions

* `Repository.TypeRef`: a reference to a type
* `Repository.Field`: a named place for a value
* `Repository.SimpleType`, `Repository.ComplexType`, `Repository.ListType`: types proper
-/

namespace SchemaBinding.Repository

/-- The identity of a simple type. -/
structure SimpleId where
  index : Nat
  deriving DecidableEq, Repr

/-- The identity of a complex type. -/
structure ComplexId where
  index : Nat
  deriving DecidableEq, Repr

/-- The identity of a list type. -/
structure ListId where
  index : Nat
  deriving DecidableEq, Repr

/-- A reference to a type. Two references are equal just if they are to one and the same type. -/
inductive TypeRef where
  | primitive (primitive : Primitive)
  | simple (id : SimpleId)
  | complex (id : ComplexId)
  | list (id : ListId)
  deriving DecidableEq, Repr

namespace TypeRef

/-- The kind of a type. -/
def kind : TypeRef → String
  | .primitive _ => "primitive"
  | .simple _ => "simple"
  | .complex _ => "complex"
  | .list _ => "list"

/-- Whether a type is a list. -/
def isList : TypeRef → Bool
  | .list _ => true
  | _ => false

end TypeRef

/-- A named place for a value. -/
structure Field where
  name : String
  type : TypeRef
  defaultValue : Option String
  flags : FieldFlags
  maxLength : Option UInt32
  deriving DecidableEq, Repr

/-- A field of which only name and type are given. -/
def Field.plain (name : String) (type : TypeRef) : Field := ⟨name, type, none, .none, none⟩

/-- A type whose values are those of another type, restricted by constraints. -/
structure SimpleType where
  name : String
  schema : String
  super : Option TypeRef
  constraints : List Constraint
  deriving Repr

/-- The greatest length that the first constraint on lengths allows. -/
def SimpleType.maxLength (t : SimpleType) : Option UInt32 := t.constraints.findSome? (·.maxLength)

/-- A type whose values have fields: those of another complex type, then its own. -/
structure ComplexType where
  name : String
  schema : String
  super : Option ComplexId
  fields : List Field
  deriving Repr

/-- The own field of a name. -/
def ComplexType.field? (t : ComplexType) (name : String) : Option Field :=
  t.fields.find? (·.name == name)

/-- A type whose values are sequences of items, each in an element of a name. -/
structure ListType where
  name : String
  schema : String
  item : TypeRef
  elementName : String
  defaultValue : Option String
  minOccurs : UInt32
  maxOccurs : Option UInt32
  deriving Repr

/-- The list type of any number of items, in elements of the name `item`. -/
def ListType.ofItem (name schema : String) (item : TypeRef) : ListType :=
  ⟨name, schema, item, "item", none, 0, none⟩

end SchemaBinding.Repository
