import SchemaBinding.Log
import SchemaBinding.Source
import SchemaBinding.Xml.Document
import SchemaBinding.Xsd.Context

/-!
# Schema documents

The documents of a schema set: the one that is asked for, and those that it includes and imports,
each read once. The documents are in the order of a walk that takes a document before those it
refers to, and those in the order of the references.

## Main definitions

* `Xsd.SchemaDocument`: a document with its context
* `Xsd.Inclusion`: how a document comes to be read
* `Xsd.SchemaDocument.ofRoot`: checks the root of a document against how it comes to be read
* `Xsd.Loading.load`: reads a document and those it refers to
* `Xsd.SchemaDocument.loadAll`: all documents from one location
-/

namespace SchemaBinding.Xsd

open Xml (Element)

/-- A schema document. -/
structure SchemaDocument where
  root : Element
  context : Context

/-- How a document comes to be read: by itself, or by reference from a document. -/
inductive Inclusion where
  | root
  /-- Included in a document of a namespace. -/
  | included (namespaceUri : String)
  /-- Imported as a document of a namespace. -/
  | imported (namespaceUri : String)
  deriving DecidableEq, Repr

namespace Inclusion

/-- The namespace of a document that declares a namespace or none, and whether it is a
chameleon. An included document has the namespace of the including one or none, an imported one
that of the import. -/
def targetNamespace (declared : Option String) : Inclusion → Except Fault (String × Bool)
  | .root => .ok (declared.getD "", false)
  | .included expected =>
    match declared with
    | some uri =>
      if uri = expected then .ok (uri, false) else .error (.includedNamespace uri expected)
    | none => .ok (expected, !expected.isEmpty)
  | .imported expected =>
    if declared.getD "" = expected then .ok (expected, false)
    else .error (.importedNamespace (declared.getD "") expected)

end Inclusion

namespace SchemaDocument

/-- The document with a root, read from a source. -/
def ofRoot (source : String) (inclusion : Inclusion) (root : Element) : Result SchemaDocument := do
  if root.localName ≠ "schema" ∨ root.name.namespaceUri ≠ some schemaNamespace then
    throw (.parse (.notASchema root.name) (some source))
  let declared := root.attribute? "targetNamespace"
  let (uri, isChameleon) ← (inclusion.targetNamespace declared).mapError
    fun fault => Error.parse fault (some source)
  return {
    root := root
    context := {
      targetNamespace := uri
      isChameleon := isChameleon
      elementsQualified := root.attribute? "elementFormDefault" == some "qualified"
      attributesQualified := root.attribute? "attributeFormDefault" == some "qualified"
      source := source } }

/-- The document that a text holds. -/
def ofText (limits : Limits) (source : String) (inclusion : Inclusion) (content : String) :
    Result SchemaDocument := do
  let document ← Xml.Document.parse limits (Text.encode content)
  match document.root with
  | none => throw (.parse .emptyDocument (some source))
  | some root => ofRoot source inclusion root

end SchemaDocument

/-! ## Loading -/

/-- A reference to another document. -/
structure Reference where
  location : String
  inclusion : Inclusion
  deriving DecidableEq, Repr

/-- The state of loading: the documents, the keys of locations that have been visited, and the
log. -/
structure Loading where
  documents : Array SchemaDocument
  visited : List String
  log : Log

namespace Loading

/-- Nothing loaded so far. -/
def start : Loading := ⟨#[], [], #[]⟩

/-- Operations that load documents; the state outlives an error. -/
abbrev LoadM := ExceptT Error (StateM Loading)

/-- Logs a message. -/
def report (level : Log.Level) (text : String) : LoadM Unit :=
  modify fun s => { s with log := s.log.add level text }

/-- The reference that a child of the root makes, if it makes one. -/
def reference? (context : Context) (child : Element) : LoadM (Option Reference) :=
  match child.localName with
  | "include" => do
    let location ← context.required child "schemaLocation" .includeWithoutLocation
    return some ⟨location, .included context.targetNamespace⟩
  | "import" => do
    let uri := (child.attribute? "namespace").getD ""
    if uri = context.targetNamespace then
      throw (context.fault (.importOfOwnNamespace uri))
    match child.attribute? "schemaLocation" with
    | some location => return some ⟨location, .imported uri⟩
    | none =>
      report .debug s!"import of '{uri}' has no schemaLocation"
      return none
  | "redefine" => throw (context.fault .redefinition)
  | _ => return none

/-- The references that a document makes, in order. -/
def references (document : SchemaDocument) : LoadM (List Reference) := do
  let found ← document.root.children.mapM (reference? document.context)
  return found.filterMap id

/-- Reads the document at a location and those it refers to. References may be nested to one level
less than `levels`. -/
def load (files : FileSystem) (limits : Limits) : Nat → Location → Inclusion → LoadM Unit
  | 0, _, _ => throw (.limitExceeded ⟨.schemaDepth, limits.schemaDepth + 1, limits.schemaDepth⟩)
  | levels + 1, location, inclusion => do
    let key := Source.key files location
    if key ∈ (← get).visited then
      report .trace s!"skipping already loaded schema document {key}"
    else
      -- Noted before reading, so that documents may refer to each other in a circle.
      modify fun s => { s with visited := key :: s.visited }
      let content ← Source.load files limits location
      let document ← SchemaDocument.ofText limits key inclusion content
      let refs ← references document
      -- The document comes before those it refers to.
      modify fun s => { s with documents := s.documents.push document }
      refs.forM fun reference => do
        let target ← location.resolve reference.location
        load files limits levels target reference.inclusion

end Loading

/-- All documents that belong to the one at a location, and the log of loading them. -/
def SchemaDocument.loadAll (files : FileSystem) (limits : Limits) (location : Location) :
    Result (List SchemaDocument) × Log :=
  let (result, final) :=
    (Loading.load files limits (limits.schemaDepth + 1) location .root).run.run Loading.start
  (result.map fun _ => final.documents.toList, final.log)

end SchemaBinding.Xsd
