import SchemaBinding.Repository.Registry

/-!
# Dumps

A dump says what a bound schema has, with the names of types in the place of the types. So it is
finite and a value, also where types refer to each other in circles.

## Main definitions

* `Dump`: a schema with its fields and types
* `Dump.FieldInfo`, `Dump.TypeInfo`, `Dump.ListInfo`: the parts of a dump
* `Dump.ofSchema`: the dump of a bound schema
-/

namespace SchemaBinding

open Repository (Constraint Field Schema Store TypeRef)

/-- What a field has. -/
structure Dump.FieldInfo where
  name : String
  type : String
  defaultValue : Option String
  constant : Bool
  nillable : Bool
  maxLength : Option UInt32
  deriving DecidableEq, Repr

/-- What a list type has besides its name. -/
structure Dump.ListInfo where
  itemType : String
  elementName : String
  defaultValue : Option String
  minOccurs : UInt32
  maxOccurs : Option UInt32
  deriving DecidableEq, Repr

/-- What a type has: constraints if it is simple, fields if it is complex, and the rest if it is a
list. -/
structure Dump.TypeInfo where
  name : String
  kind : String
  superType : Option String
  constraints : Option (List Constraint)
  fields : Option (List Dump.FieldInfo)
  list : Option Dump.ListInfo
  deriving DecidableEq, Repr

/-- What a schema has. -/
structure Dump where
  name : String
  namespaceUri : String
  nsPrefix : String
  fields : List Dump.FieldInfo
  types : List Dump.TypeInfo
  deriving DecidableEq, Repr

namespace Dump

/-- The first type of a name. -/
def type? (dump : Dump) (name : String) : Option TypeInfo := dump.types.find? (·.name == name)

/-- What a field of a bound schema or of a complex type has. -/
def FieldInfo.ofField (store : Store) (f : Field) : FieldInfo where
  name := f.name
  type := store.nameOf f.type
  defaultValue := f.defaultValue
  constant := f.flags.constant
  nillable := f.flags.nillable
  maxLength := f.maxLength

/-- What a type has that is not on its kind. -/
def TypeInfo.plain (store : Store) (t : TypeRef) : TypeInfo :=
  ⟨store.nameOf t, t.kind, none, none, none, none⟩

/-- What a type has. -/
def TypeInfo.ofType (store : Store) (t : TypeRef) : TypeInfo :=
  let plain := TypeInfo.plain store t
  match t with
  | .primitive _ => plain
  | .simple id =>
    let s := store.simple id
    { plain with superType := s.super.map store.nameOf, constraints := some s.constraints }
  | .complex id =>
    let c := store.complex id
    { plain with
      superType := c.super.map fun super => (store.complex super).name
      fields := some (c.fields.map (FieldInfo.ofField store)) }
  | .list id =>
    let l := store.list id
    { plain with
      list := some
        { itemType := store.nameOf l.item
          elementName := l.elementName
          defaultValue := l.defaultValue
          minOccurs := l.minOccurs
          maxOccurs := l.maxOccurs } }

/-- What a bound schema has. -/
def ofSchema (store : Store) (s : Schema) : Dump where
  name := s.name
  namespaceUri := s.target.uri
  nsPrefix := s.target.nsPrefix
  fields := s.fields.map (FieldInfo.ofField store)
  types := s.types.values.map (TypeInfo.ofType store)

end Dump

end SchemaBinding
