import SchemaBinding.Error
import SchemaBinding.Text.Blank
import SchemaBinding.Xml.Element
import SchemaBinding.Xml.Markup
import SchemaBinding.Xml.Reference
import SchemaBinding.Xml.Tag

/-!
# Documents

Reading octets as a tree of elements. The pieces of the document are taken in one after the other;
the elements that are open form a stack. Text outside of elements does not count, and of several
elements that stand outside of others the last one is the root.

## Main definitions

* `Xml.Element.ofTag`: the element that a start tag begins
* `Xml.Reading`: the elements that are open and the root so far
* `Xml.Reading.feed`: takes in a piece
* `Xml.Document.parse`: the document that octets hold
-/

namespace SchemaBinding.Xml

open SchemaBinding.Text (Octets)

/-! ## The element of a tag -/

/-- The declarations of a tag, taken into a context, and its other attributes as written. -/
structure TagReading where
  namespaces : NamespaceContext
  attributes : List (String × String)

namespace TagReading

/-- The prefix that an attribute name declares, if it is of the form `xmlns:prefix`. -/
def declaredPrefix? (name : String) : Option String :=
  match splitColon name with
  | some (before, after) => if before = "xmlns" then some after else none
  | none => none

/-- Takes in an attribute: a namespace declaration, or an attribute proper. -/
def take (t : TagReading) (name value : String) : TagReading :=
  if name = "xmlns" then { t with namespaces := t.namespaces.setDefault value }
  else
    match declaredPrefix? name with
    | some nsPrefix => { t with namespaces := t.namespaces.declare nsPrefix value }
    | none => { t with attributes := t.attributes ++ [(name, value)] }

/-- Reads an attribute as written and takes it in. -/
def feed (t : TagReading) (a : RawAttribute) : Result TagReading :=
  match Text.decode? a.key with
  | none => .error (.xml .attributeName)
  | some name =>
    match readText? a.value with
    | none => .error (.xml (.attributeValue name))
    | some value => .ok (t.take name value)

end TagReading

/-- The qualified name of an attribute: without a prefix it is in no namespace. -/
def NamespaceContext.resolveAttribute (context : NamespaceContext) (name : String) :
    Except String QName :=
  match splitColon name with
  | some _ => context.resolve name
  | none => .ok (QName.unqualified name)

namespace Element

/-- The element with a further attribute, whose name is as written. -/
def addAttribute (e : Element) (attr : String × String) : Result Element := do
  let name ← Result.ofName (e.namespaces.resolveAttribute attr.1)
  return e.setAttribute name attr.2

/-- The element that a tag begins, within the given context. All declarations of the tag are in
force for all names on it. -/
def ofTag (context : NamespaceContext) (content : Octets) : Result Element := do
  let (attributes, complete) := Tag.attributes content
  let read ← attributes.foldlM TagReading.feed ⟨context, []⟩
  -- Attributes before the malformed one are read, and their faults come first.
  unless complete do throw (.xml .malformedAttribute)
  match Text.decode? (Tag.name content) with
  | none => throw (.xml .elementName)
  | some tag =>
    let name ← Result.ofName (read.namespaces.resolve tag)
    read.attributes.foldlM addAttribute ⟨name, [], none, [], read.namespaces⟩

/-- The element with further text; a run of blanks does not count. -/
def appendText (e : Element) (text : String) : Element :=
  if Text.isAllBlank text then e else { e with text := some (e.text.getD "" ++ text) }

end Element

/-! ## Reading -/

/-- An element whose end tag has not been read: its tag, the element without children, and the
children so far. -/
structure OpenElement where
  tag : Octets
  element : Element
  children : Array Element

/-- The element with the children that have been read. -/
def OpenElement.close (e : OpenElement) : Element :=
  { e.element with children := e.children.toList }

/-- The state of reading: the open elements, the innermost first, and the root so far. -/
structure Reading where
  stack : List OpenElement
  root : Option Element

namespace Reading

/-- Nothing read so far. -/
def start : Reading := ⟨[], none⟩

/-- The namespaces in force inside the innermost open element. -/
def context (r : Reading) : NamespaceContext :=
  match r.stack with
  | [] => .empty
  | e :: _ => e.element.namespaces

/-- Adds a finished element: to the innermost open one, or as the root. -/
def addElement (r : Reading) (e : Element) : Reading :=
  match r.stack with
  | [] => { r with root := some e }
  | p :: ps => { r with stack := { p with children := p.children.push e } :: ps }

/-- Adds text to the innermost open element. -/
def addText (r : Reading) (text : String) : Reading :=
  match r.stack with
  | [] => r
  | p :: ps => { r with stack := { p with element := p.element.appendText text } :: ps }

/-- The element that a tag begins at the place reached, if it is not nested too deep. -/
def begin (limits : Limits) (r : Reading) (content : Octets) : Result Element := do
  Result.ofLimit (limits.check .xmlDepth (r.stack.length + 1))
  Element.ofTag r.context content

/-- Takes in a piece of the document. -/
def feed (limits : Limits) (r : Reading) : Markup → Result Reading
  | .start content => do
    let e ← r.begin limits content
    return { r with stack := ⟨Tag.name content, e, #[]⟩ :: r.stack }
  | .empty content => do
    let e ← r.begin limits content
    return r.addElement e
  | .finish name =>
    match r.stack with
    | [] => .error (.xml .markup)
    | e :: es =>
      if e.tag = name then .ok ({ r with stack := es }.addElement e.close)
      else .error (.xml .markup)
  | .text octets =>
    match readText? octets with
    | some text => .ok (r.addText text)
    | none => .error (.xml .text)
  | .literal octets => .ok (r.addText (Text.decodeReplacing octets))
  | .other => .ok r

/-- Ends the document: no element may be open. -/
def finish (r : Reading) : Result (Option Element) :=
  match r.stack with
  | [] => .ok r.root
  | e :: _ => .error (.xml (.unclosed e.element.localName))

end Reading

/-- A document: its root, if there is an element at all. -/
structure Document where
  root : Option Element
  deriving Repr, Inhabited

namespace Document

/-- The octets of the byte order mark, which may stand in front of a document. -/
def byteOrderMark : Octets := [0xEF, 0xBB, 0xBF]

/-- The octets without a byte order mark in front. -/
def skipByteOrderMark (octets : Octets) : Octets := (afterPrefix? byteOrderMark octets).getD octets

/-- The document that octets hold. Of the limits the one on nesting applies. -/
def parse (limits : Limits) (octets : Octets) : Result Document := do
  let (pieces, complete) := Markup.pieces (skipByteOrderMark octets)
  let read ← pieces.foldlM (Reading.feed limits) Reading.start
  unless complete do throw (.xml .markup)
  -- An element that is still open counts only if all markup is well formed.
  let root ← read.finish
  return ⟨root⟩

end Document

end SchemaBinding.Xml
