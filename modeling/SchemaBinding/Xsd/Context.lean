import SchemaBinding.Error
import SchemaBinding.Text.Blank
import SchemaBinding.Xml.Element
import SchemaBinding.Xml.NCName
import SchemaBinding.Xsd.Builtin
import SchemaBinding.Xsd.Facet
import SchemaBinding.Xsd.Occurs

/-!
# Contexts of schema documents

What a document says for all its components: its namespace, whether local declarations are in it,
and the source that faults are reported in.

## Main definitions

* `Xsd.Context`: the context
* `Context.nameOf`, `Context.resolve`: names of components, and what references mean
* `Context.requiredName`, `Context.occurs`, `Context.boolean`, `Context.facets`: values of
  attributes
-/

namespace SchemaBinding.Xsd

open Xml (Element QName)

/-- What holds for all components of a document. A document is a chameleon if it takes the
namespace of the document that includes it. -/
structure Context where
  targetNamespace : String
  isChameleon : Bool
  elementsQualified : Bool
  attributesQualified : Bool
  source : String
  deriving DecidableEq, Repr

namespace Context

/-- A fault in the document. -/
def fault (context : Context) (fault : Fault) : Error := .parse fault (some context.source)

/-- The name of a global component of the document. -/
def nameOf (context : Context) (localName : String) : QName :=
  if context.targetNamespace.isEmpty then QName.unqualified localName
  else QName.qualified context.targetNamespace localName

/-- What a reference means: in a chameleon, names without a namespace are in that of the
document. -/
def resolve (context : Context) (e : Element) (reference : String) : Result QName := do
  let name ← Result.ofName (e.namespaces.resolve (Text.trim reference))
  if context.isChameleon && name.namespaceUri.isNone then
    return QName.qualified context.targetNamespace name.localName
  else return name

/-- The namespace of a local declaration, which may say itself whether it is in that of the
document. -/
def localNamespace (context : Context) (e : Element) (qualified : Bool) : String :=
  let inNamespace := match e.attribute? "form" with
    | some form => form == "qualified"
    | none => qualified
  if inNamespace then context.targetNamespace else ""

/-- The value of an attribute that must be there. -/
def required (context : Context) (e : Element) (name : String) (missing : Fault) : Result String :=
  match e.attribute? name with
  | some value => .ok value
  | none => .error (context.fault missing)

/-- The name of a component, which must be there and be a name without colon. -/
def requiredName (context : Context) (e : Element) : Result String := do
  let name ← context.required e "name" (.missingName e.localName)
  if Xml.isNCName name then return name else throw (.invalidName name)

/-- The occurrence bounds of a particle. -/
def occurs (context : Context) (e : Element) : Result Occurs :=
  (Occurs.parse (e.attribute? "minOccurs") (e.attribute? "maxOccurs")).mapError context.fault

/-- The truth value of an attribute; false without one. -/
def boolean (context : Context) (e : Element) (name : String) : Result Bool :=
  match (e.attribute? name).map Text.trim with
  | none | some "false" | some "0" => .ok false
  | some "true" | some "1" => .ok true
  | some other => .error (context.fault (.boolean other name))

/-- Adds the facet that a child of a restriction stands for. -/
def addFacet (context : Context) (facets : FacetSet) (child : Element) : Result FacetSet := do
  let tag := child.localName
  if facetNames.contains tag then
    let value ← context.required child "value" (.facetWithoutValue tag)
    return facets.push tag value
  else if tag = "simpleType" ∨ tag = "annotation" then return facets
  else throw (context.fault (.unknownFacet tag))

/-- The facets of a restriction. -/
def facets (context : Context) (restriction : Element) : Result FacetSet :=
  restriction.children.foldlM context.addFacet .empty

end Context

/-- The first child that says something. -/
def firstComponent? (e : Element) : Option Element :=
  e.children.find? (·.localName != "annotation")

/-- The first child that defines a type. -/
def inlineType? (e : Element) : Option Element :=
  e.children.find? fun c => c.localName == "complexType" || c.localName == "simpleType"

end SchemaBinding.Xsd
