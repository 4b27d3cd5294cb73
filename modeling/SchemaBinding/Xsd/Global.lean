import SchemaBinding.Xsd.Draft

/-!
# Global components

All global components are declared before any of them is read, so that references may go ahead of
declarations. No two components of one kind have one name.

## Main definitions

* `Xsd.Global`: a declared component that is still to be read
* `Xsd.DraftM.declare`: declares what a child of a schema stands for
* `Xsd.DraftM.declareAll`: declares all components of some documents
-/

namespace SchemaBinding.Xsd

open Xml (Element QName)

/-- What is declared under a name and still to be read. -/
inductive Global.Target where
  | element (id : ElementId)
  | attr (id : AttributeId)
  | complexType (id : TypeId)
  | simpleType (id : TypeId)

/-- A declared component that is still to be read. -/
structure Global where
  target : Global.Target
  element : Element
  context : Context

namespace DraftM

/-- Refuses a name under which a component is declared already. -/
def checkNew {α : Type} (symbol : Symbol) (context : Context) (name : QName) (found : Option α) :
    DraftM Unit :=
  match found with
  | some _ => throw (context.fault (.duplicate symbol name))
  | none => return ()

/-- Changes the schema of the document's namespace. -/
def modifySchema (context : Context) (f : Schema → Schema) : DraftM Unit :=
  modifySet fun set => set.modifySchema context.targetNamespace f

/-- Declares an element. -/
def declareElement (context : Context) (e : Element) : DraftM Global := do
  let name ← context.requiredName e
  checkNew .element context (context.nameOf name) ((← getSet).findElement? (context.nameOf name))
  let id ← newElement name context.targetNamespace true
  modifySchema context fun s => { s with elements := s.elements.insert name id }
  return ⟨.element id, e, context⟩

/-- Declares an attribute. -/
def declareAttribute (context : Context) (e : Element) : DraftM Global := do
  let name ← context.requiredName e
  checkNew .attr context (context.nameOf name) ((← getSet).findAttribute? (context.nameOf name))
  let id ← newAttribute name context.targetNamespace true
  modifySchema context fun s => { s with attributes := s.attributes.insert name id }
  return ⟨.attr id, e, context⟩

/-- Declares a type of a kind. -/
def declareType (context : Context) (e : Element) (kind : TypeKind)
    (target : TypeId → Global.Target) : DraftM Global := do
  let name ← context.requiredName e
  checkNew .type context (context.nameOf name) ((← getSet).findType? (context.nameOf name))
  let id ← newType (some name) context kind
  modifySchema context fun s => { s with types := s.types.insert name id }
  return ⟨target id, e, context⟩

/-- Declares a group. -/
def declareGroup (context : Context) (e : Element) : DraftM Unit := do
  let name := context.nameOf (← context.requiredName e)
  checkNew .group context name ((← get).groups.get? name)
  modify fun d => { d with groups := d.groups.insert name ⟨e, context⟩ }

/-- Declares an attribute group. -/
def declareAttributeGroup (context : Context) (e : Element) : DraftM Unit := do
  let name := context.nameOf (← context.requiredName e)
  checkNew .attrGroup context name ((← get).attributeGroups.get? name)
  modify fun d => { d with attributeGroups := d.attributeGroups.insert name ⟨e, context⟩ }

/-- Declares what a child of a schema stands for; the result is still to be read. -/
def declare (context : Context) (e : Element) : DraftM (Option Global) := do
  match e.localName with
  | "element" => declareElement context e
  | "attribute" => declareAttribute context e
  | "complexType" => declareType context e (.complex (.empty none)) .complexType
  | "simpleType" => declareType context e (.simple (.restriction .empty)) .simpleType
  | "group" =>
    declareGroup context e
    return none
  | "attributeGroup" =>
    declareAttributeGroup context e
    return none
  | "notation" =>
    report .trace "ignoring notation declaration"
    return none
  | "include" | "import" | "annotation" => return none
  | other => throw (context.fault (.unknownComponent other))

/-- Declares all components of some documents, in order. -/
def declareAll (documents : List SchemaDocument) : DraftM (List Global) := do
  let globals ← documents.mapM fun d => d.root.children.mapM (declare d.context)
  return globals.flatten.filterMap id

end DraftM

end SchemaBinding.Xsd
