import SchemaBinding.Binding.Failure
import SchemaBinding.Repository.Basic
import SchemaBinding.Xsd.SchemaSet

/-!
# Builds

A build makes the types of one schema. It reads a schema set and the registry, and changes the
store of types, the scope of the schema, the diagnostics and the log.

## Main definitions

* `Binding.Diagnostic`: a declaration that was left out, and why
* `Binding.Setting`: what a build reads
* `Binding.Build`: what it changes
* `Binding.BuildM`: a step that may fail; what it has changed by then stays changed
* `skip`, `lookup?`, `register`, `openComplex`, …: the single steps
-/

namespace SchemaBinding.Binding

open Repository (ComplexId ComplexType Field ListType Registry Scope SimpleType Store TypeRef)

/-- A declaration that was left out, and why. A part of a type is named after the type, with a
slash between the names. -/
structure Diagnostic where
  declaration : String
  failure : Failure
  deriving DecidableEq, Repr

/-- The text of a diagnostic. -/
def Diagnostic.text (d : Diagnostic) : String := s!"{d.declaration}: {d.failure.message}"

/-- What a build reads: a schema set, and the schemas that are registered. -/
structure Setting where
  set : Xsd.SchemaSet
  registry : Registry

/-- What a build changes. -/
structure Build where
  store : Store
  scope : Scope
  diagnostics : List Diagnostic
  log : Log

namespace Build

/-- A build of a schema before its first step. -/
def start (store : Store) (schemaName : String) (log : Log) : Build :=
  ⟨store, .start schemaName, [], log⟩

/-- Adds a message to the log. -/
def report (level : Log.Level) (text : String) (b : Build) : Build :=
  { b with log := b.log.add level text }

/-- Leaves a declaration out. -/
def skip (declaration : String) (failure : Failure) (b : Build) : Build :=
  { b with
    diagnostics := b.diagnostics ++ [⟨declaration, failure⟩]
    log := b.log.add .warn <|
      if failure.isRecoverable then s!"skipping {declaration}: {failure.message}"
      else s!"skipping {declaration}, its type could not be built: {failure.message}" }

/-- Adds a field to a complex type. -/
def addField (id : ComplexId) (field : Field) (b : Build) : Build :=
  { b with store := b.store.addField id field }

/-- Puts a type in the place of the one that the scope has under its name. -/
def replace (t : TypeRef) (b : Build) : Build := { b with scope := b.scope.replace b.store t }

end Build

/-- Steps of a build that cannot fail. -/
abbrev StepM := StateM Build

/-- Steps of a build that may fail. -/
abbrev BuildM := ExceptT Failure StepM

namespace BuildM

/-- Adds a message to the log. -/
def report (level : Log.Level) (text : String) : BuildM Unit := modify (Build.report level text)

/-- The result of a step, also if it fails. -/
def attempt {α : Type} (step : BuildM α) : BuildM (Except Failure α) := ExceptT.lift step.run

/-- The name of the schema that is built. -/
def schemaName : BuildM String := return (← get).scope.schemaName

/-- The type that a name means. -/
def lookup? (setting : Setting) (name : String) : BuildM (Option TypeRef) :=
  return (← get).scope.lookup? (← get).store setting.registry name

/-- Adds a type to the scope, under whose name there may be no other. -/
def register (t : TypeRef) : BuildM Unit := do
  let b ← get
  let scope ← b.scope.register b.store t
  set { b with scope }

/-- How many types the scope has. -/
def mark : BuildM Nat := return (← get).scope.size

/-- Removes the types that the scope got after a mark; the result tells how many. -/
def rollback (mark : Nat) : BuildM Nat :=
  modifyGet fun b =>
    let (dropped, scope) := b.scope.truncate mark
    (dropped, { b with scope })

/-- Makes a simple type. -/
def addSimple (t : SimpleType) : BuildM TypeRef :=
  modifyGet fun b =>
    let (id, store) := b.store.addSimple t
    (.simple id, { b with store })

/-- Makes a complex type. -/
def addComplex (t : ComplexType) : BuildM ComplexId :=
  modifyGet fun b =>
    let (id, store) := b.store.addComplex t
    (id, { b with store })

/-- Makes a complex type that has no fields yet, and adds it to the scope. -/
def openComplex (name : String) (super : Option ComplexId) : BuildM ComplexId := do
  let id ← addComplex { name, schema := ← schemaName, super, fields := [] }
  register (.complex id)
  return id

/-- Makes a list type. -/
def addList (t : ListType) : BuildM TypeRef :=
  modifyGet fun b =>
    let (id, store) := b.store.addList t
    (.list id, { b with store })

end BuildM

end SchemaBinding.Binding
