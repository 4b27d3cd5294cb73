import SchemaBinding.Binding.Constraints
import SchemaBinding.Binding.Content
import SchemaBinding.Xsd.Builtin

/-!
# Binding types

A type definition is bound to the repository type that its name means already, to a primitive if
it is built in, or to a new type. A complex type is in the scope before its content is made, so
that content which refers back to it finds that very type.

## Main definitions

* `Binding.typeName`: the name under which a definition is bound
* `Binding.buildSimple`, `Binding.buildList`, `Binding.buildComplex`: new types
* `Binding.makeContent`, `Binding.makeAttributes`: what a complex type is filled with
* `Binding.loadStep`: one type, with the types that it refers to bound by a given loader
* `Binding.load`: one type with all that it refers to
-/

namespace SchemaBinding.Binding

open Repository (ComplexId Primitive TypeRef)
open Xsd (AttributeUse Content SchemaSet TypeDefinition TypeId Variety)

/-- The name under which a definition is bound. An anonymous complex type is named after the
element that it is defined in, an anonymous simple type after the field that is made for it. -/
def typeName (schemas : SchemaSet) (definition : TypeDefinition) (fieldName : String) :
    Except Failure String :=
  match definition.name, definition.kind with
  | some name, _ => .ok name
  | none, .complex c =>
    match c.scope with
    | some e => .ok (Naming.anonymousType (schemas.element e).name)
    | none => .error .unnamedType
  | none, .simple _ =>
    if fieldName.isEmpty then .error .unnamedType else .ok (Naming.anonymousType fieldName)

/-- The primitive for a built-in type. -/
def primitiveFor (name : String) : Except Failure TypeRef :=
  match Primitive.ofBuiltin? name with
  | some p => .ok (.primitive p)
  | none => .error (.unknownPrimitive name)

/-- Whether a simple type can be derived from a type. -/
def isSimpleBase : TypeRef → Bool
  | .primitive _ | .simple _ => true
  | .complex _ | .list _ => false

/-- The type that a simple type is derived from. One that cannot be bound, or is not simple, is
none. -/
def simpleSuper (schemas : SchemaSet) (load : Loader) (id : TypeId) (name : String) :
    BuildM (Option TypeRef) := do
  let base := schemas.baseOf id
  if base = id then
    return none
  match ← BuildM.attempt (load base name) with
  | .ok t =>
    if isSimpleBase t then
      return some t
    else
      let text := (← get).store.textOf t
      BuildM.report .warn s!"simple type {name} cannot derive from {text}, ignoring its base"
      return none
  | .error failure =>
    BuildM.report .warn s!"base of simple type {name} not loaded: {failure.message}"
    return none

/-- Makes a simple type. Only a type that is neither a list nor a union has constraints. -/
def buildSimple (schemas : SchemaSet) (load : Loader) (id : TypeId) (name : String)
    (definition : Xsd.SimpleType) : BuildM TypeRef := do
  let super ← simpleSuper schemas load id name
  let restrictions ← match definition.variety with
    | .atomic => constraints definition.facets
    | _ => pure []
  BuildM.addSimple { name, schema := ← BuildM.schemaName, super, constraints := restrictions }

/-- Makes a list type. The type of its items must have been bound before. -/
def buildList (setting : Setting) (definition : TypeDefinition) (itemId : TypeId) :
    BuildM TypeRef := do
  let some name := definition.name | throw .unnamedType
  let item := setting.set.type itemId
  -- An anonymous item type has no name to look up: it is never found.
  let found ←
    if item.namespaceUri = Xsd.schemaNamespace then
      pure ((Primitive.ofBuiltin? item.displayName).map .primitive)
    else
      BuildM.lookup? setting item.displayName
  let some type := found | throw (.missingItemType name item.displayName)
  BuildM.addList (.ofItem name (← BuildM.schemaName) type)

/-- The complex type that a complex type is derived from. One that cannot be bound, or is not
complex, is none, and so is the root of all types, which is its own base. -/
def complexSuper (schemas : SchemaSet) (load : Loader) (id : TypeId) (name : String) :
    BuildM (Option ComplexId) := do
  let base := schemas.baseOf id
  if base = id ∨ schemas.baseOf base = base then
    return none
  match ← BuildM.attempt (load base name) with
  | .ok (.complex super) => return some super
  | .ok t =>
    let text := (← get).store.textOf t
    BuildM.report .debug s!"complex type {name} has non-complex super type {text}, ignoring it"
    return none
  | .error failure =>
    BuildM.report .warn s!"super type of complex type {name} not loaded: {failure.message}"
    return none

/-- Adds the fields of attributes to a complex type. -/
def addAttributes (schemas : SchemaSet) (load : Loader) (target : ComplexId) :
    List AttributeUse → BuildM Unit
  | [] => pure ()
  | use :: uses => do
    let a := schemas.attr use.declaration
    match ← BuildM.attempt (load a.type a.name) with
    | .ok type => modify (Build.addField target (attributeField a type))
    | .error failure =>
      throw (.attributeType ((← get).store.complex target).name a.name failure)
    addAttributes schemas load target uses

/-- The attributes that a complex type gets fields for: its own if it has a super type, and else
those of its bases too. -/
def attributesToAdd (schemas : SchemaSet) (id : TypeId) (hasSuper : Bool) : List AttributeUse :=
  if hasSuper then schemas.ownUses id else schemas.attributeUses id

/-- Makes the content of a complex type; the result is the type or the list that takes its place.
What a super type has already is left out by explicit content. -/
def makeContent (setting : Setting) (load : Loader) (definition : Xsd.ComplexType)
    (target : ComplexId) : BuildM TypeRef := do
  match definition.explicitContent.getD definition.content with
  -- Simple content makes no field.
  | .empty | .simple _ => return .complex target
  | .particle (.group _ _ children) => addContent setting load target children
  | .particle _ => throw (.unsupportedContent ((← get).store.complex target).name)

/-- Adds the attributes of a complex type when its content has been made. -/
def makeAttributes (setting : Setting) (load : Loader) (id : TypeId)
    (definition : Xsd.ComplexType) (target : ComplexId) (type : TypeRef) : BuildM Unit := do
  let whole := (← get).store.complex target
  -- The list took the place of the type, and has no fields.
  if type.isList then
    if definition.attributes ≠ [] then
      BuildM.report .warn <|
        s!"complex type {whole.name} became a list, dropping its " ++
        s!"{definition.attributes.length} attributes"
  else
    addAttributes setting.set load target (attributesToAdd setting.set id whole.super.isSome)

/-- Makes the content and the attributes of a complex type. -/
def fillComplex (setting : Setting) (load : Loader) (id : TypeId) (definition : Xsd.ComplexType)
    (target : ComplexId) : BuildM TypeRef := do
  let type ← makeContent setting load definition target
  makeAttributes setting load id definition target type
  return type

/-- Makes a complex type. If that fails, all types made for it are dropped from the scope. -/
def buildComplex (setting : Setting) (load : Loader) (id : TypeId) (name : String)
    (definition : Xsd.ComplexType) : BuildM TypeRef := do
  -- The super type comes first. It may bind types that refer back to this one, and then the name is
  -- taken when this type is added to the scope.
  let super ← complexSuper setting.set load id name
  let mark ← BuildM.mark
  let target ← BuildM.openComplex name super
  match ← BuildM.attempt (fillComplex setting load id definition target) with
  | .ok type => return type
  | .error failure =>
    let dropped ← BuildM.rollback mark
    BuildM.report .debug s!"complex type {name} failed, dropping {dropped} types built for it"
    throw failure

/-- Makes the type of a definition. -/
def buildType (setting : Setting) (load : Loader) (id : TypeId) (name : String) :
    BuildM TypeRef :=
  let definition := setting.set.type id
  match definition.kind with
  | .complex c => buildComplex setting load id name c
  | .simple s =>
    match s.variety with
    | .list item => buildList setting definition item
    | .atomic | .union _ => buildSimple setting.set load id name s

/-- Binds a type definition, if `load` binds those that it refers to. -/
def loadStep (setting : Setting) (load : Loader) (id : TypeId) (fieldName : String) :
    BuildM TypeRef := do
  let definition := setting.set.type id
  let name ← typeName setting.set definition fieldName
  match ← BuildM.lookup? setting name with
  | some found => return found
  | none =>
    if definition.namespaceUri = Xsd.schemaNamespace then
      primitiveFor name
    else
      let type ← buildType setting load id name
      BuildM.register type
      return type

/-- Binds a type definition; types are nested at most `depth` deep. -/
def loadWithin (setting : Setting) : Nat → Loader
  | 0, _, _ => throw .nestedTooDeep
  | depth + 1, id, fieldName => loadStep setting (loadWithin setting depth) id fieldName

/-- A depth that no nesting exceeds: the types that are being built have different names, and
between one and the next of them there is at most a chain of bases. -/
def depthOf (schemas : SchemaSet) : Nat := (schemas.types.size + 1) * (schemas.types.size + 1)

/-- Binds a type definition with all that it refers to. -/
def load (setting : Setting) : Loader := loadWithin setting (depthOf setting.set)

end SchemaBinding.Binding
