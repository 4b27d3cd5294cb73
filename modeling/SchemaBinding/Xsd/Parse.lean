import SchemaBinding.Xsd.Inheritance
import SchemaBinding.Xsd.Reading

/-!
# Parsing schema sets

A schema set from the document at a location and those that belong to it: all global components
are declared, then read, then completed by what they inherit.

## Main definitions

* `SchemaSet.ofDocuments`: the set that some documents define
* `SchemaSet.parse`: the set at a location
-/

namespace SchemaBinding.Xsd.SchemaSet

/-- Declares and reads the components of some documents. -/
def readDocuments (documents : List SchemaDocument) : DraftM Unit := do
  let globals ← DraftM.declareAll documents
  globals.forM DraftM.readGlobal

/-- The set of a draft that has been read, within the limit on the number of components. -/
def complete (limits : Limits) (draft : Draft) : Result SchemaSet := do
  draft.set.checkBases
  let set ← draft.set.inheritAll draft.waiting
  Result.ofLimit (limits.check .components set.componentCount)
  return set

/-- The set that some documents define, and the log so far with that of reading them. -/
def ofDocuments (limits : Limits) (documents : List SchemaDocument) (log : Log) :
    Result SchemaSet × Log :=
  let (result, draft) := (readDocuments documents).run.run (Draft.ofDocuments documents log)
  match result with
  | .error e => (.error e, draft.log)
  | .ok () => (complete limits draft, draft.log)

/-- The set at a location, and the log of reading it. -/
def parse (files : FileSystem) (limits : Limits) (location : Location) : Result SchemaSet × Log :=
  match SchemaDocument.loadAll files limits location with
  | (.error e, log) => (.error e, log)
  | (.ok documents, log) =>
    match ofDocuments limits documents log with
    | (.error e, log) => (.error e, log)
    | (.ok set, log) => (.ok set, log.add .debug s!"parsed schema set from {location.text}")

end SchemaBinding.Xsd.SchemaSet
