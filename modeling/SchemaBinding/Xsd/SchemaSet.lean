import SchemaBinding.Xml.QName
import SchemaBinding.Xsd.Builtin
import SchemaBinding.Xsd.Component

/-!
# Schema sets

All components that are read together: the built-in types and the components of any number of
namespaces.

## Main definitions

* `Xsd.SchemaSet`: schemas and components
* `Xsd.SchemaSet.builtin`: the built-in types alone
* `type`, `element`, `attr`: components by identifier
* `findType?`, `findElement?`, `findAttribute?`: global components by name
* `ancestry`: a type and the types that it is derived from
* `attributeUses`: the attributes of a type with those of its bases
-/

namespace SchemaBinding.Xsd

/-- Components by place, and the schemas that hold the global ones. -/
structure SchemaSet where
  schemas : List Schema
  types : Array TypeDefinition
  elements : Array ElementDeclaration
  attributes : Array AttributeDeclaration

namespace SchemaSet

/-! ## Built-in types -/

/-- The identifier of `anyType`, which is its own base. -/
def anyType : TypeId := ⟨0⟩

/-- The identifier of `anySimpleType`. -/
def anySimpleType : TypeId := ⟨1⟩

/-- A built-in type. -/
def builtinType (name : String) (base : TypeId) (kind : TypeKind) : TypeDefinition :=
  ⟨some name, schemaNamespace, base, kind⟩

/-- The definition of `anyType`: any content. -/
def anyTypeDefinition : TypeDefinition :=
  builtinType Builtin.anyType anyType (.complex
    { ComplexType.empty none with
      content := .particle (.group .once .sequence [.wildcard .any])
      mixed := true })

instance : Inhabited TypeDefinition := ⟨anyTypeDefinition⟩

/-- The place of an atomic built-in type. -/
def atomicPlace (name : String) : TypeId := ⟨2 + Builtin.atomic.idxOf name⟩

/-- The built-in types by place. -/
def builtinTypes : List TypeDefinition :=
  [anyTypeDefinition,
    builtinType Builtin.anySimpleType anyType (.simple (.restriction .empty))] ++
  Builtin.atomic.map (fun name =>
    builtinType name anySimpleType (.simple (.restriction .empty))) ++
  Builtin.lists.map fun (name, item) =>
    builtinType name anySimpleType (.simple ⟨.list (atomicPlace item), .empty⟩)

/-- The schema of the built-in types. -/
def builtinSchema : Schema :=
  { Schema.empty schemaNamespace with
    types := .ofList (builtinTypes.mapIdx fun i t => (t.displayName, ⟨i⟩)) }

/-- The built-in types alone. -/
def builtin : SchemaSet := ⟨[builtinSchema], builtinTypes.toArray, #[], #[]⟩

instance : Inhabited SchemaSet := ⟨builtin⟩

/-! ## Components by identifier -/

/-- The type at a place; `anyType` where there is none. -/
def type (set : SchemaSet) (id : TypeId) : TypeDefinition := set.types[id.index]?.getD default

/-- The element at a place. -/
def element (set : SchemaSet) (id : ElementId) : ElementDeclaration :=
  set.elements[id.index]?.getD default

/-- The attribute at a place. -/
def attr (set : SchemaSet) (id : AttributeId) : AttributeDeclaration :=
  set.attributes[id.index]?.getD default

/-- The number of components. -/
def componentCount (set : SchemaSet) : Nat :=
  set.types.size + set.elements.size + set.attributes.size

/-! ## Components by name -/

/-- The schema of a namespace. -/
def schema? (set : SchemaSet) (namespaceUri : String) : Option Schema :=
  set.schemas.find? (·.namespaceUri == namespaceUri)

/-- The namespace in which a qualified name is looked up. No namespace is written as the empty
one; a name in a namespace of empty name is nowhere. -/
def lookupNamespace? (name : Xml.QName) : Option String :=
  match name.namespaceUri with
  | none => some ""
  | some "" => none
  | some uri => some uri

/-- The schema that a qualified name is looked up in. -/
def schemaOf? (set : SchemaSet) (name : Xml.QName) : Option Schema :=
  (lookupNamespace? name).bind set.schema?

/-- The global type of a name. -/
def findType? (set : SchemaSet) (name : Xml.QName) : Option TypeId :=
  (set.schemaOf? name).bind (·.types.get? name.localName)

/-- The global element of a name. -/
def findElement? (set : SchemaSet) (name : Xml.QName) : Option ElementId :=
  (set.schemaOf? name).bind (·.elements.get? name.localName)

/-- The global attribute of a name. -/
def findAttribute? (set : SchemaSet) (name : Xml.QName) : Option AttributeId :=
  (set.schemaOf? name).bind (·.attributes.get? name.localName)

/-! ## Growing -/

/-- The schemas after `f` has been applied to that of a namespace, which is added at the end if
there is none. -/
def modifySchemas (namespaceUri : String) (f : Schema → Schema) : List Schema → List Schema
  | [] => [f (.empty namespaceUri)]
  | s :: ss =>
    if s.namespaceUri = namespaceUri then f s :: ss else s :: modifySchemas namespaceUri f ss

/-- Changes the schema of a namespace. -/
def modifySchema (set : SchemaSet) (namespaceUri : String) (f : Schema → Schema) : SchemaSet :=
  { set with schemas := modifySchemas namespaceUri f set.schemas }

/-- Adds a type at the next place. -/
def addType (set : SchemaSet) (t : TypeDefinition) : TypeId × SchemaSet :=
  (⟨set.types.size⟩, { set with types := set.types.push t })

/-- Adds an element at the next place. -/
def addElement (set : SchemaSet) (e : ElementDeclaration) : ElementId × SchemaSet :=
  (⟨set.elements.size⟩, { set with elements := set.elements.push e })

/-- Adds an attribute at the next place. -/
def addAttribute (set : SchemaSet) (a : AttributeDeclaration) : AttributeId × SchemaSet :=
  (⟨set.attributes.size⟩, { set with attributes := set.attributes.push a })

/-- Changes a type. -/
def modifyType (set : SchemaSet) (id : TypeId) (f : TypeDefinition → TypeDefinition) : SchemaSet :=
  { set with types := set.types.modify id.index f }

/-- Changes an element. -/
def modifyElement (set : SchemaSet) (id : ElementId)
    (f : ElementDeclaration → ElementDeclaration) : SchemaSet :=
  { set with elements := set.elements.modify id.index f }

/-- Changes an attribute. -/
def modifyAttribute (set : SchemaSet) (id : AttributeId)
    (f : AttributeDeclaration → AttributeDeclaration) : SchemaSet :=
  { set with attributes := set.attributes.modify id.index f }

/-! ## Bases -/

/-- The base of a type. -/
def baseOf (set : SchemaSet) (id : TypeId) : TypeId := (set.type id).base

/-- A type and the types above it, up to one that is its own base, after at most `steps` steps. -/
def ancestryWithin (set : SchemaSet) : Nat → TypeId → List TypeId
  | 0, id => [id]
  | steps + 1, id =>
    if set.baseOf id = id then [id] else id :: ancestryWithin set steps (set.baseOf id)

/-- A type and the types that it is derived from, nearest first. A chain of bases that comes to an
end does so within as many steps as there are types. -/
def ancestry (set : SchemaSet) (id : TypeId) : List TypeId := set.ancestryWithin set.types.size id

/-- Whether the bases of a type come to an end. -/
def hasRoot (set : SchemaSet) (id : TypeId) : Bool :=
  match (set.ancestry id).getLast? with
  | some root => set.baseOf root = root
  | none => false

/-- How many steps a type is away from the end of its bases. -/
def baseDepth (set : SchemaSet) (id : TypeId) : Nat := (set.ancestry id).length - 1

/-! ## Attributes -/

/-- Adds the use of an attribute; an earlier one of the same name gives way to it. -/
def addUse (set : SchemaSet) (uses : List AttributeUse) (use : AttributeUse) : List AttributeUse :=
  uses.filter (fun u => (set.attr u.declaration).name != (set.attr use.declaration).name) ++ [use]

/-- The attributes that a type itself uses. -/
def ownUses (set : SchemaSet) (id : TypeId) : List AttributeUse :=
  match (set.type id).complex? with
  | some definition => definition.attributes
  | none => []

/-- The attributes of a type, those of its bases included. Of uses with one name the last one
counts, bases being read first. -/
def attributeUses (set : SchemaSet) (id : TypeId) : List AttributeUse :=
  ((set.ancestry id).reverse.flatMap set.ownUses).foldl set.addUse []

end SchemaSet

/-- Whether a schema is that of the schema language. -/
def Schema.isMeta (s : Schema) : Bool := s.namespaceUri == schemaNamespace

end SchemaBinding.Xsd
