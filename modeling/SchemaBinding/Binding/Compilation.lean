import SchemaBinding.Binding.Loading
import SchemaBinding.Error
import SchemaBinding.Location
import SchemaBinding.Xsd.Parse

/-!
# Compilations

A compilation binds the first schema of a set that has a namespace of its own, and registers what
comes out. Each global element and attribute becomes a field of the bound schema. A declaration
that cannot be bound is left out, and reported in a diagnostic.

## Main definitions

* `Binding.Request`: what a schema is to be registered as
* `Binding.Compilation`: the schema and the diagnostics
* `Binding.bindSchema`: the bound schema of a namespace
* `Binding.compile`: compilation of a set
* `Binding.loadSchema`: compilation of the set at a location
-/

namespace SchemaBinding.Binding

open Repository (Field Namespace Registered TypeRef)
open Xsd (SchemaSet)

/-- What a schema is to be registered as: under which name, with which prefix, and whether in the
place of one that is registered under the name. -/
structure Request where
  name : String
  nsPrefix : String
  override : Bool
  deriving Repr

/-- The schema that was registered, unless there was nothing to compile, and the declarations that
are left out of it. -/
structure Compilation where
  schema : Option Registered
  diagnostics : List Diagnostic

/-- The schema of a set that is compiled: the first one in a namespace that is not the schema
language. -/
def mainSchema? (schemas : SchemaSet) : Option Xsd.Schema :=
  schemas.schemas.find? fun s => !s.namespaceUri.isEmpty && !s.isMeta

/-- The field of a global declaration, if it can be bound. -/
def globalField? (declared : String) (field : BuildM Field) : StepM (Option Field) := do
  match ← field.run with
  | .ok field => return some field
  | .error failure =>
    modify (Build.skip declared failure)
    return none

/-- The fields of the global elements and attributes of a schema. -/
def globalFields (setting : Setting) (source : Xsd.Schema) : StepM (List Field) := do
  -- Elements come before attributes, whatever their order in the documents.
  let elements ← source.elements.entries.mapM fun (declared, id) => do
    let e := setting.set.element id
    globalField? declared do
      let type ← load setting e.type e.name
      return elementField (← get).store e type
  let attributes ← source.attributes.entries.mapM fun (declared, id) => do
    let a := setting.set.attr id
    globalField? declared do
      return attributeField a (← load setting a.type a.name)
  return elements.reduceOption ++ attributes.reduceOption

/-- The bound schema of a schema in a set, and the build that made it. -/
def bindSchema (setting : Setting) (store : Repository.Store) (request : Request)
    (source : Xsd.Schema) (log : Log) : Repository.Schema × Build :=
  let (fields, build) := (globalFields setting source).run (.start store request.name log)
  let schema : Repository.Schema :=
    { name := request.name
      target := ⟨source.namespaceUri, request.nsPrefix⟩
      fields := fields
      types := build.scope.locals }
  (schema, build)

/-- Binds a schema in a set, and registers it. -/
def build (repository : Repository) (request : Request) (schemas : SchemaSet)
    (source : Xsd.Schema) (log : Log) : Compilation × Repository × Log :=
  let log := log.add .debug s!"compiling schema {request.name} from {source.namespaceUri}"
  let setting : Setting := ⟨schemas, repository.registry⟩
  let (schema, build) := bindSchema setting repository.store request source log
  let log :=
    if build.diagnostics.isEmpty then build.log
    else build.log.add .info <|
      s!"schema {request.name} compiled with {build.diagnostics.length} declarations left out"
  let (registered, repository, log) :=
    Repository.register { repository with store := build.store } schema request.override log
  (⟨some registered, build.diagnostics⟩, repository, log)

/-- Compiles a set of at most as many components as the limits allow. A schema that is registered
under the name already is the result, unless it is to be replaced. -/
def compile (repository : Repository) (limits : Limits) (request : Request) (schemas : SchemaSet)
    (log : Log) : Result Compilation × Repository × Log :=
  match Result.ofLimit (limits.check .components schemas.componentCount) with
  | .error e => (.error e, repository, log)
  | .ok () =>
    match mainSchema? schemas with
    | none =>
      (.ok ⟨none, []⟩, repository,
        log.add .info s!"no schema with a target namespace to compile as {request.name}")
    | some source =>
      -- Nothing is built for a schema that stays.
      match repository.registry.schema? request.name, request.override with
      | some existing, false =>
        (.ok ⟨some existing, []⟩, repository,
          log.add .debug s!"schema {request.name} is already registered")
      | _, _ =>
        let (compilation, repository, log) := build repository request schemas source log
        (.ok compilation, repository, log)

/-- Compiles the set at a location. -/
def loadSchema (repository : Repository) (files : FileSystem) (limits : Limits)
    (request : Request) (location : Location) : Result Compilation × Repository × Log :=
  match SchemaSet.parse files limits location with
  | (.error e, log) => (.error e, repository, log)
  | (.ok schemas, log) => compile repository limits request schemas log

end SchemaBinding.Binding
