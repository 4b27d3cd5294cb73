import SchemaBinding.Log
import SchemaBinding.Xsd.Document
import SchemaBinding.Xsd.SchemaSet

/-!
# Drafts of schema sets

A schema set while its documents are read: the components so far, the groups, which are expanded
where they are used, and the types whose content waits for that of their bases.

## Main definitions

* `Xsd.Draft`: the state
* `Xsd.DraftM`: operations on it
* `DraftM.newType`, `newElement`, `newAttribute`: further components
* `DraftM.typeNamed`, `simpleTypeNamed`, `elementNamed`, `attributeNamed`: what references mean
-/

namespace SchemaBinding.Xsd

open Xml (Element QName)

/-- The definition of a group, to be read where the group is used. -/
structure GroupDefinition where
  element : Element
  context : Context

/-- What the content of a type takes from its base. -/
inductive Inheritance where
  /-- The content of an extension follows that of the base. -/
  | extension
  /-- Simple content is that of the base. -/
  | simpleContent
  deriving DecidableEq, Repr

/-- A schema set that is being read. -/
structure Draft where
  set : SchemaSet
  groups : OrderedMap QName GroupDefinition
  attributeGroups : OrderedMap QName GroupDefinition
  waiting : List (TypeId × Inheritance)
  log : Log

/-- A draft with the built-in types and the schemas of some documents, still without components. -/
def Draft.ofDocuments (documents : List SchemaDocument) (log : Log) : Draft where
  set := documents.foldl (fun set d =>
    set.modifySchema d.context.targetNamespace fun s =>
      { s with sources := s.sources ++ [d.context.source] }) .builtin
  groups := .empty
  attributeGroups := .empty
  waiting := []
  log := log

/-- Operations on a draft; the draft outlives an error. -/
abbrev DraftM := ExceptT Error (StateM Draft)

namespace DraftM

/-- Logs a message. -/
def report (level : Log.Level) (text : String) : DraftM Unit :=
  modify fun d => { d with log := d.log.add level text }

/-- Changes the set. -/
def modifySet (f : SchemaSet → SchemaSet) : DraftM Unit :=
  modify fun d => { d with set := f d.set }

/-- The set so far. -/
def getSet : DraftM SchemaSet := return (← get).set

/-! ## New components -/

/-- Adds a type, derived from `anyType` until more is known. -/
def newType (name : Option String) (context : Context) (kind : TypeKind) : DraftM TypeId := do
  let (id, set) := (← getSet).addType ⟨name, context.targetNamespace, SchemaSet.anyType, kind⟩
  modifySet fun _ => set
  return id

/-- Adds an element, of type `anyType` until more is known. -/
def newElement (name namespaceUri : String) (isGlobal : Bool) : DraftM ElementId := do
  let (id, set) := (← getSet).addElement
    ⟨name, namespaceUri, SchemaSet.anyType, none, none, false, isGlobal⟩
  modifySet fun _ => set
  return id

/-- Adds an attribute, of type `anyType` until more is known. -/
def newAttribute (name namespaceUri : String) (isGlobal : Bool) : DraftM AttributeId := do
  let (id, set) := (← getSet).addAttribute
    ⟨name, namespaceUri, SchemaSet.anyType, none, none, isGlobal⟩
  modifySet fun _ => set
  return id

/-- Lets the content of a type wait for that of its base. -/
def await (id : TypeId) (inheritance : Inheritance) : DraftM Unit :=
  modify fun d => { d with waiting := d.waiting ++ [(id, inheritance)] }

/-! ## References -/

/-- The global component that a reference means, looked up by `find?`. -/
def componentNamed {α : Type} (symbol : Symbol) (find? : Draft → QName → Option α)
    (context : Context) (e : Element) (reference : String) : DraftM α := do
  let name ← context.resolve e reference
  match find? (← get) name with
  | some found => return found
  | none => throw (context.fault (.unknownReference symbol name))

/-- The type that a reference means. -/
def typeNamed : Context → Element → String → DraftM TypeId :=
  componentNamed .type fun d => d.set.findType?

/-- The element that a reference means. -/
def elementNamed : Context → Element → String → DraftM ElementId :=
  componentNamed .element fun d => d.set.findElement?

/-- The attribute that a reference means. -/
def attributeNamed : Context → Element → String → DraftM AttributeId :=
  componentNamed .attr fun d => d.set.findAttribute?

/-- The simple type that a reference means. -/
def simpleTypeNamed (context : Context) (e : Element) (reference : String) : DraftM TypeId := do
  let id ← typeNamed context e reference
  if ((← getSet).type id).isSimple then return id
  else throw (context.fault (.complexForSimple e.localName reference))

end DraftM

end SchemaBinding.Xsd
