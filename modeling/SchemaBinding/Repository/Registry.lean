import SchemaBinding.Log
import SchemaBinding.OrderedMap
import SchemaBinding.Repository.Namespace
import SchemaBinding.Repository.Store

/-!
# Registries

The schemas of a repository by name, and the types that they publish for each other. A name is
published for one type at a time.

## Main definitions

* `Repository.Schema`: a bound schema with its fields and types
* `Repository.Registered`: a schema with the number of its registration
* `Repository.Registry`: registered schemas and published types
* `register`, `remove`, `clear`: operations
* `visible?`: a published type as seen from a schema

## Main results

* `visible?_eq_some_iff`: which published types are seen from a schema
-/

namespace SchemaBinding.Repository

/-- A bound schema: a field for each of its global elements and attributes, and the types that
were built for it by name. -/
structure Schema where
  name : String
  target : Namespace
  fields : List Field
  types : OrderedMap String TypeRef

/-- The field of a name. -/
def Schema.field? (s : Schema) (name : String) : Option Field := s.fields.find? (·.name == name)

/-- A registered schema. Each registration has a number of its own. -/
structure Registered where
  serial : Nat
  schema : Schema

/-- Registered schemas and published types, both by name and in the order of registration. -/
structure Registry where
  schemas : OrderedMap String Registered
  types : OrderedMap String TypeRef
  nextSerial : Nat

namespace Registry

/-- The registry without schemas. -/
def empty : Registry := ⟨.empty, .empty, 0⟩

instance : Inhabited Registry := ⟨empty⟩

/-- The schema registered under a name. -/
def schema? (r : Registry) (name : String) : Option Registered := r.schemas.get? name

/-- The type published under a name. -/
def type? (r : Registry) (name : String) : Option TypeRef := r.types.get? name

/-- The type published under a name, as seen from a schema: its own types are not. -/
def visible? (r : Registry) (store : Store) (schemaName name : String) : Option TypeRef :=
  (r.type? name).filter fun t => store.schemaOf? t != some schemaName

/-- A published type is seen from all schemas but its own. -/
theorem visible?_eq_some_iff {store : Store} {r : Registry} {schemaName name : String}
    {t : TypeRef} :
    r.visible? store schemaName name = some t ↔
      r.type? name = some t ∧ store.schemaOf? t ≠ some schemaName := by
  unfold visible?
  rw [Option.filter_eq_some_iff]
  exact and_congr_right fun _ => bne_iff_ne

/-- The published types without those of a schema. -/
def withoutTypesOf (store : Store) (types : OrderedMap String TypeRef) (schemaName : String) :
    OrderedMap String TypeRef :=
  types.filter fun _ t => store.schemaOf? t != some schemaName

/-- Whether the name of a type is published for a type of another schema, with the name of that
schema. -/
def otherOwner? (store : Store) (types : OrderedMap String TypeRef) (schemaName typeName : String) :
    Option String :=
  match types.get? typeName with
  | none => none
  | some t =>
    let owner := (store.schemaOf? t).getD ""
    if owner = schemaName then none else some owner

/-- Publishes a type of a schema. If its name is published for a type of another schema, it is
published only if `override` says so. -/
def publish (store : Store) (schemaName : String) (override : Bool)
    (state : OrderedMap String TypeRef × Log) (t : TypeRef) : OrderedMap String TypeRef × Log :=
  let (types, log) := state
  let name := store.nameOf t
  match otherOwner? store types schemaName name with
  | none => (types.insert name t, log)
  | some owner =>
    let log := log.add .warn
      s!"type {name} of schema {schemaName} collides with the type registered by schema {owner}"
    (if override then types.insert name t else types, log)

/-- The published types that stay when a schema is about to publish its own: not those of a schema
that gives way to it. -/
def remaining (r : Registry) (store : Store) (schemaName : String) : OrderedMap String TypeRef :=
  match r.schema? schemaName with
  | some _ => withoutTypesOf store r.types schemaName
  | none => r.types

/-- Registers a schema and publishes its types. A schema that is registered under the name stays,
and nothing is registered, unless `override` says that it gives way. -/
def register (r : Registry) (store : Store) (schema : Schema) (override : Bool) (log : Log) :
    Registered × Registry × Log :=
  match r.schema? schema.name, override with
  | some existing, false =>
    (existing, r, log.add .debug
      s!"schema {schema.name} is already registered and will not be overridden")
  | existing, _ =>
    -- The types of the schema that gives way are gone before the new ones are published.
    let log := match existing with
      | some _ => log.add .info s!"replacing registered schema {schema.name}"
      | none => log
    let (types, log) := schema.types.values.foldl (publish store schema.name override)
      (r.remaining store schema.name, log)
    let registered : Registered := ⟨r.nextSerial, schema⟩
    let log := log.add .info <|
      s!"registered schema {schema.name} ({schema.target.text}) with " ++
      s!"{schema.fields.length} fields and {schema.types.size} types"
    (registered, ⟨r.schemas.insert schema.name registered, types, r.nextSerial + 1⟩, log)

/-- Removes a schema and the types it has published. -/
def remove (r : Registry) (store : Store) (name : String) : Option Registered × Registry :=
  match r.schema? name with
  | none => (none, r)
  | some registered =>
    (some registered,
      { r with
        schemas := r.schemas.erase name, types := withoutTypesOf store r.types name })

/-- Removes all schemas. -/
def clear (r : Registry) : Registry := { r with schemas := .empty, types := .empty }

end Registry

end SchemaBinding.Repository
