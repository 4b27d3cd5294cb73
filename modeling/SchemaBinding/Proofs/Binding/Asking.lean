import SchemaBinding.Binding.Compilation

/-!
# Names that are looked up

A build looks names up when a type is bound, and when the items of a list are. The way in which it
does so may be given. If each name is noted in the log before it is looked up, the log tells in the
end which names the build depends on.

## Main definitions

* `Binding.Lookup`: a way to look names up
* `loadWithinBy`, `globalFieldsBy`: a build that looks names up in a given way
* `noting`: the way that takes notes
* `Log.notes`: the names that have been noted
* `Binding.asked`: the names that are looked up while a set is compiled

## Main results

* `loadWithinBy_lookup?`: builds look names up by `BuildM.lookup?`
-/

namespace SchemaBinding

/-- The names that have been noted. No step of a build says anything else at this level. -/
def Log.notes (log : Log) : List String :=
  (log.toList.filter (·.level = .trace)).map (·.text)

theorem Log.notes_add (log : Log) (level : Log.Level) (text : String) :
    (log.add level text).notes = log.notes ++ if level = .trace then [text] else [] := by
  cases level <;> simp [notes, add]

namespace Binding

open Repository (Field Primitive Store TypeRef)
open Xsd (SchemaSet TypeDefinition TypeId)

/-- How the type that a name means is found. -/
abbrev Lookup := String → BuildM (Option TypeRef)

/-- Finds the type that a name means, after the name has been noted. -/
def noting (setting : Setting) : Lookup := fun name => do
  BuildM.report .trace name
  BuildM.lookup? setting name

/-! ## Builds that look names up in a given way -/

section By

variable (setting : Setting) (lookup : Lookup)

/-- Makes a list type, see `buildList`. -/
def buildListBy (definition : TypeDefinition) (itemId : TypeId) : BuildM TypeRef := do
  let some name := definition.name | throw .unnamedType
  let item := setting.set.type itemId
  let found ←
    if item.namespaceUri = Xsd.schemaNamespace then
      pure ((Primitive.ofBuiltin? item.displayName).map .primitive)
    else
      lookup item.displayName
  let some type := found | throw (.missingItemType name item.displayName)
  BuildM.addList (.ofItem name (← BuildM.schemaName) type)

/-- Makes the type of a definition, see `buildType`. -/
def buildTypeBy (load : Loader) (id : TypeId) (name : String) : BuildM TypeRef :=
  let definition := setting.set.type id
  match definition.kind with
  | .complex c => buildComplex setting load id name c
  | .simple s =>
    match s.variety with
    | .list item => buildListBy setting lookup definition item
    | .atomic | .union _ => buildSimple setting.set load id name s

/-- Binds a type definition, see `loadStep`. -/
def loadStepBy (load : Loader) (id : TypeId) (fieldName : String) : BuildM TypeRef := do
  let definition := setting.set.type id
  let name ← typeName setting.set definition fieldName
  match ← lookup name with
  | some found => return found
  | none =>
    if definition.namespaceUri = Xsd.schemaNamespace then
      primitiveFor name
    else
      let type ← buildTypeBy setting lookup load id name
      BuildM.register type
      return type

/-- Binds a type definition; types are nested at most `depth` deep. -/
def loadWithinBy : Nat → Loader
  | 0, _, _ => throw .nestedTooDeep
  | depth + 1, id, fieldName => loadStepBy setting lookup (loadWithinBy depth) id fieldName

end By

/-- The fields of the global elements and attributes of a schema, see `globalFields`. -/
def globalFieldsBy (schemas : SchemaSet) (load : Loader) (source : Xsd.Schema) :
    StepM (List Field) := do
  let elements ← source.elements.entries.mapM fun (declared, id) => do
    let e := schemas.element id
    globalField? declared do
      let type ← load e.type e.name
      return elementField (← get).store e type
  let attributes ← source.attributes.entries.mapM fun (declared, id) => do
    let a := schemas.attr id
    globalField? declared do
      return attributeField a (← load a.type a.name)
  return elements.reduceOption ++ attributes.reduceOption

/-- Types are bound by looking up what names mean in the scope and among the published types. -/
theorem loadWithinBy_lookup? (setting : Setting) (depth : Nat) :
    loadWithinBy setting (BuildM.lookup? setting) depth = loadWithin setting depth := by
  induction depth with
  | zero => rfl
  | succ depth ih =>
    funext id fieldName
    rw [loadWithinBy, loadWithin, ih]
    rfl

/-- The fields of a schema, with the build that takes notes of the names that it looks up. -/
def notedFields (setting : Setting) (store : Store) (schemaName : String) (source : Xsd.Schema) :
    List Field × Build :=
  (globalFieldsBy setting.set (loadWithinBy setting (noting setting) (depthOf setting.set))
    source).run (.start store schemaName #[])

/-- The names that are looked up while a schema in a set is built. -/
def askedIn (setting : Setting) (store : Store) (request : Request) (source : Xsd.Schema) :
    List String :=
  (notedFields setting store request.name source).2.log.notes

/-- The names that are looked up while a set is compiled: none, unless a schema is built. -/
def asked (repository : Repository) (limits : Limits) (request : Request) (schemas : SchemaSet) :
    List String :=
  match Result.ofLimit (limits.check .components schemas.componentCount), mainSchema? schemas with
  | .ok (), some source =>
    match repository.registry.schema? request.name, request.override with
    | some _, false => []
    | _, _ => askedIn ⟨schemas, repository.registry⟩ repository.store request source
  | _, _ => []

end Binding

end SchemaBinding
