import SchemaBinding.Repository.Registry
import SchemaBinding.Repository.Scope

/-!
# Repositories

A repository has the types that were ever made, and a registry of the schemas that are in use.

## Main definitions

* `Repository`: a store and a registry
* `register`, `remove`, `clear`: operations on the registry
-/

namespace SchemaBinding

/-- All types made so far, and the schemas in use. -/
structure Repository where
  store : Repository.Store
  registry : Repository.Registry

namespace Repository

/-- The repository without types and schemas. -/
def empty : Repository := ⟨.empty, .empty⟩

instance : Inhabited Repository := ⟨empty⟩

/-- Registers a schema, see `Registry.register`. -/
def register (r : Repository) (schema : Schema) (override : Bool) (log : Log) :
    Registered × Repository × Log :=
  let (registered, registry, log) := r.registry.register r.store schema override log
  (registered, { r with registry }, log)

/-- Removes a schema and the types that it has published. -/
def remove (r : Repository) (name : String) : Option Registered × Repository :=
  let (removed, registry) := r.registry.remove r.store name
  (removed, { r with registry })

/-- Removes all schemas. -/
def clear (r : Repository) : Repository := { r with registry := r.registry.clear }

/-- The type that a name means in a scope. -/
def lookup? (r : Repository) (scope : Scope) (name : String) : Option TypeRef :=
  scope.lookup? r.store r.registry name

end Repository

end SchemaBinding
