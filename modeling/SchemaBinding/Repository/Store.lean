import SchemaBinding.Repository.Type

/-!
# Stores

The types of a repository by identity. Types are added one after the other and never taken away;
all that changes later is that fields are added to a complex type.

## Main definitions

* `Repository.Store`: the types
* `simple`, `complex`, `list`: a type by identity
* `nameOf`, `schemaOf?`, `textOf`: what can be said of any type
* `addSimple`, `addComplex`, `addList`, `addField`: growth
* `allFields`, `primitiveOf?`: what a type has from those above it
-/

namespace SchemaBinding.Repository

/-- Types by identity. -/
structure Store where
  simples : Array SimpleType
  complexes : Array ComplexType
  lists : Array ListType
  deriving Repr

namespace Store

/-- The store without types. -/
def empty : Store := ⟨#[], #[], #[]⟩

instance : Inhabited Store := ⟨empty⟩

/-- The simple type of an identity; one without a name where there is none. -/
def simple (store : Store) (id : SimpleId) : SimpleType :=
  store.simples[id.index]?.getD ⟨"", "", none, []⟩

/-- The complex type of an identity; one without a name where there is none. -/
def complex (store : Store) (id : ComplexId) : ComplexType :=
  store.complexes[id.index]?.getD ⟨"", "", none, []⟩

/-- The list type of an identity; one without a name where there is none. -/
def list (store : Store) (id : ListId) : ListType :=
  store.lists[id.index]?.getD (.ofItem "" "" (.primitive .string))

/-- The name of a type. -/
def nameOf (store : Store) : TypeRef → String
  | .primitive p => p.name
  | .simple id => (store.simple id).name
  | .complex id => (store.complex id).name
  | .list id => (store.list id).name

/-- The name of the schema that a type belongs to; primitives belong to none. -/
def schemaOf? (store : Store) : TypeRef → Option String
  | .primitive _ => none
  | .simple id => some (store.simple id).schema
  | .complex id => some (store.complex id).schema
  | .list id => some (store.list id).schema

/-- Kind and name of a type, for messages. -/
def textOf (store : Store) (type : TypeRef) : String := type.kind ++ " " ++ store.nameOf type

/-- The greatest length of the values of a simple type. -/
def maxLengthOf (store : Store) : TypeRef → Option UInt32
  | .simple id => (store.simple id).maxLength
  | _ => none

/-! ## Growth -/

/-- Adds a simple type. -/
def addSimple (store : Store) (t : SimpleType) : SimpleId × Store :=
  (⟨store.simples.size⟩, { store with simples := store.simples.push t })

/-- Adds a complex type. -/
def addComplex (store : Store) (t : ComplexType) : ComplexId × Store :=
  (⟨store.complexes.size⟩, { store with complexes := store.complexes.push t })

/-- Adds a list type. -/
def addList (store : Store) (t : ListType) : ListId × Store :=
  (⟨store.lists.size⟩, { store with lists := store.lists.push t })

/-- Adds a field to a complex type, after the fields it has. -/
def addField (store : Store) (id : ComplexId) (field : Field) : Store :=
  { store with
    complexes := store.complexes.modify id.index fun t => { t with fields := t.fields ++ [field] } }

/-! ## What a type has from those above it -/

/-- The fields of a complex type after those of the types above it, at most `steps` of them. -/
def allFieldsWithin (store : Store) : Nat → ComplexId → List Field
  | 0, _ => []
  | steps + 1, id =>
    let t := store.complex id
    match t.super with
    | some above => allFieldsWithin store steps above ++ t.fields
    | none => t.fields

/-- The fields of a complex type after those of the types above it. There are fewer types above one
than there are types. -/
def allFields (store : Store) (id : ComplexId) : List Field :=
  store.allFieldsWithin store.complexes.size id

/-- The primitive that is reached from a type through at most `steps` simple types. -/
def primitiveWithin? (store : Store) : Nat → TypeRef → Option Primitive
  | _, .primitive p => some p
  | steps + 1, .simple id => (store.simple id).super.bind (primitiveWithin? store steps)
  | _, _ => none

/-- The primitive whose values a simple type restricts. -/
def primitiveOf? (store : Store) (id : SimpleId) : Option Primitive :=
  store.primitiveWithin? (store.simples.size + 1) (.simple id)

/-! ## Laws of growth -/

theorem simple_addSimple (store : Store) (t : SimpleType) :
    (store.addSimple t).2.simple (store.addSimple t).1 = t := by
  simp [simple, addSimple]

theorem complex_addComplex (store : Store) (t : ComplexType) :
    (store.addComplex t).2.complex (store.addComplex t).1 = t := by
  simp [complex, addComplex]

theorem list_addList (store : Store) (t : ListType) :
    (store.addList t).2.list (store.addList t).1 = t := by
  simp [list, addList]

/-- A field is added to one type and no other. -/
theorem complex_addField (store : Store) (id other : ComplexId) (field : Field)
    (h : id.index < store.complexes.size) :
    (store.addField id field).complex other =
      if other = id then
        { store.complex id with fields := (store.complex id).fields ++ [field] }
      else store.complex other := by
  obtain ⟨i⟩ := id
  obtain ⟨j⟩ := other
  by_cases hij : j = i
  · subst hij
    have hj : j < store.complexes.size := h
    simp [complex, addField, Array.getElem_modify, hj]
  · simp [complex, addField, Array.getElem?_modify, hij, Ne.symm hij]

end Store

end SchemaBinding.Repository
