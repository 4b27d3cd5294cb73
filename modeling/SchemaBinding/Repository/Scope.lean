import SchemaBinding.Binding.Failure
import SchemaBinding.Repository.Registry

/-!
# Scopes

The types that are built for a schema before it is registered, by name. A name is looked up among
the published types of other schemas first.

## Main definitions

* `Repository.Scope`: the types built so far
* `lookupGlobal?`, `lookupLocal?`, `lookup?`: look-ups
* `register`, `replace`, `remove`, `truncate`: changes

## Main results

* `register_eq_error_iff`: when a type cannot be added
* `lookupLocal?_of_register`, `lookupLocal?_replace`: what names mean after a change
-/

namespace SchemaBinding.Repository

/-- The types built for a schema so far. -/
structure Scope where
  schemaName : String
  locals : OrderedMap String TypeRef

namespace Scope

/-- The scope of a schema before any type is built. -/
def start (schemaName : String) : Scope := ⟨schemaName, .empty⟩

/-- The type that another schema has published under a name. -/
def lookupGlobal? (scope : Scope) (store : Store) (registry : Registry) (name : String) :
    Option TypeRef :=
  registry.visible? store scope.schemaName name

/-- The type built under a name. -/
def lookupLocal? (scope : Scope) (name : String) : Option TypeRef := scope.locals.get? name

/-- The type that a name means. -/
def lookup? (scope : Scope) (store : Store) (registry : Registry) (name : String) :
    Option TypeRef :=
  (scope.lookupGlobal? store registry name).or (scope.lookupLocal? name)

/-- Adds a type under its name, under which there may be no other type. -/
def register (scope : Scope) (store : Store) (t : TypeRef) : Except Binding.Failure Scope :=
  let name := store.nameOf t
  match scope.lookupLocal? name with
  | some existing => if existing = t then .ok scope else .error (.typeCollision name)
  | none => .ok { scope with locals := scope.locals.insert name t }

/-- Puts a type under its name, in the place of another one if there is one. -/
def replace (scope : Scope) (store : Store) (t : TypeRef) : Scope :=
  { scope with locals := scope.locals.insert (store.nameOf t) t }

/-- Removes the type under a name. -/
def remove (scope : Scope) (name : String) : Option TypeRef × Scope :=
  (scope.lookupLocal? name, { scope with locals := scope.locals.erase name })

/-- The number of types. -/
def size (scope : Scope) : Nat := scope.locals.size

/-- Removes all types but the first `size`; the result tells how many. -/
def truncate (scope : Scope) (size : Nat) : Nat × Scope :=
  (scope.size - size, { scope with locals := scope.locals.take size })

/-! ## Laws -/

theorem register_of_none {store : Store} {scope : Scope} {t : TypeRef}
    (h : scope.lookupLocal? (store.nameOf t) = none) :
    scope.register store t =
      .ok { scope with locals := scope.locals.insert (store.nameOf t) t } := by
  simp only [register, h]

theorem register_of_some {store : Store} {scope : Scope} {t other : TypeRef}
    (h : scope.lookupLocal? (store.nameOf t) = some other) :
    scope.register store t =
      if other = t then .ok scope else .error (.typeCollision (store.nameOf t)) := by
  simp only [register, h]

/-- Adding a type fails just if there is another one under its name. -/
theorem register_eq_error_iff {store : Store} {scope : Scope} {t : TypeRef}
    {failure : Binding.Failure} :
    scope.register store t = .error failure ↔
      failure = .typeCollision (store.nameOf t) ∧
        ∃ other, scope.lookupLocal? (store.nameOf t) = some other ∧ other ≠ t := by
  cases h : scope.lookupLocal? (store.nameOf t) with
  | none => simp [register_of_none h]
  | some other =>
    rw [register_of_some h]
    by_cases ho : other = t
    · simp [ho]
    · rw [if_neg ho, Except.error.injEq]
      exact ⟨fun hf => ⟨hf.symm, other, rfl, ho⟩, fun hf => hf.1.symm⟩

/-- A type that has been added is what its name means in the scope. -/
theorem lookupLocal?_of_register {store : Store} {scope scope' : Scope} {t : TypeRef}
    (h : scope.register store t = .ok scope') :
    scope'.lookupLocal? (store.nameOf t) = some t := by
  cases hl : scope.lookupLocal? (store.nameOf t) with
  | none =>
    rw [register_of_none hl] at h
    cases h
    exact OrderedMap.get?_insert_self _ _ _
  | some other =>
    rw [register_of_some hl] at h
    split at h
    · next ho =>
      cases h
      exact ho ▸ hl
    · cases h

/-- A type that has been put under its name is what the name means in the scope; other names mean
what they did. -/
theorem lookupLocal?_replace (store : Store) (scope : Scope) (t : TypeRef) (name : String) :
    (scope.replace store t).lookupLocal? name =
      if name = store.nameOf t then some t else scope.lookupLocal? name :=
  OrderedMap.get?_insert _ _ _ _

end Scope

end SchemaBinding.Repository
