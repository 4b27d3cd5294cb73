import SchemaBinding.Xml.NamespaceContext

/-!
# Elements

The tree of elements that a document holds, with names resolved.

## Main definitions

* `Xml.Element`: a name, attributes, text, children and the namespaces in force
* `attribute?`: the value of an attribute without a namespace
* `childrenNamed`, `child?`: children by local name
* `height`: the nesting depth
-/

namespace SchemaBinding.Xml

/-- An element of a document. Attributes have pairwise distinct names; text is absent where there
is none but blanks. -/
structure Element where
  name : QName
  attributes : List (QName × String)
  text : Option String
  children : List Element
  namespaces : NamespaceContext
  deriving Repr, Inhabited

namespace Element

/-- The local part of the element's name. -/
def localName (e : Element) : String := e.name.localName

/-- The value of an attribute with a given name. -/
def qualifiedAttribute? (e : Element) (name : QName) : Option String := e.attributes.lookup name

/-- The value of an attribute that is in no namespace. -/
def attribute? (e : Element) (name : String) : Option String :=
  e.qualifiedAttribute? (QName.unqualified name)

/-- The children with a local name, in order. -/
def childrenNamed (e : Element) (name : String) : List Element :=
  e.children.filter (·.localName == name)

/-- The first child with a local name. -/
def child? (e : Element) (name : String) : Option Element :=
  e.children.find? (·.localName == name)

/-- The element with an attribute set; an earlier value of it is replaced. -/
def setAttribute (e : Element) (name : QName) (value : String) : Element :=
  { e with attributes := e.attributes.filter (·.1 != name) ++ [(name, value)] }

/-- The number of elements on the longest path from the element down. -/
def height : Element → Nat
  | ⟨_, _, _, children, _⟩ => heights children + 1
where
  /-- The greatest height of some elements, 0 if there are none. -/
  heights : List Element → Nat
    | [] => 0
    | e :: es => max e.height (heights es)

end Element

end SchemaBinding.Xml
