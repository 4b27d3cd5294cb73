import SchemaBinding.Xml.QName

/-!
# Namespace contexts

The namespace declarations in force at a place of a document. A context starts as that of the
enclosing element and then takes in further declarations, of which the last one counts.

## Main definitions

* `Xml.NamespaceContext`: the declared prefixes and the default namespace
* `declare`, `setDefault`: a further declaration
* `find?`: the namespace of a prefix; `xml` is always bound
* `resolve`: the qualified name that a written name stands for
-/

namespace SchemaBinding.Xml

/-- The namespace of the prefix `xml`. -/
def xmlNamespace : String := "http://www.w3.org/XML/1998/namespace"

/-- Declarations of prefixes, the latest first, and the default namespace. -/
structure NamespaceContext where
  declarations : List (String × String)
  defaultNamespace : Option String
  deriving DecidableEq, Repr

namespace NamespaceContext

/-- The context without declarations. -/
def empty : NamespaceContext := ⟨[], none⟩

instance : Inhabited NamespaceContext := ⟨empty⟩

/-- Binds a prefix to a namespace. -/
def declare (context : NamespaceContext) (nsPrefix uri : String) : NamespaceContext :=
  { context with declarations := (nsPrefix, uri) :: context.declarations }

/-- Sets the default namespace; the empty name means that there is none. -/
def setDefault (context : NamespaceContext) (uri : String) : NamespaceContext :=
  { context with defaultNamespace := if uri.isEmpty then none else some uri }

/-- The namespace of a prefix: the latest declaration counts, and `xml` is bound without one. -/
def find? (context : NamespaceContext) (nsPrefix : String) : Option String :=
  match context.declarations.lookup nsPrefix with
  | some uri => some uri
  | none => if nsPrefix = "xml" then some xmlNamespace else none

/-- The name that a written name stands for; a prefix without a namespace is returned as the
error. A name without a prefix is in the default namespace. -/
def resolve (context : NamespaceContext) (name : String) : Except String QName :=
  match splitColon name with
  | some (nsPrefix, localName) =>
    match context.find? nsPrefix with
    | some uri => .ok (QName.qualified uri localName)
    | none => .error nsPrefix
  | none => .ok ⟨context.defaultNamespace, name⟩

@[simp] theorem find?_declare_self (context : NamespaceContext) (nsPrefix uri : String) :
    (context.declare nsPrefix uri).find? nsPrefix = some uri := by
  simp [find?, declare]

theorem find?_declare_of_ne (context : NamespaceContext) {nsPrefix other : String} (uri : String)
    (h : other ≠ nsPrefix) : (context.declare nsPrefix uri).find? other = context.find? other := by
  have : (other == nsPrefix) = false := by simpa using h
  simp [find?, declare, List.lookup_cons, this]

end NamespaceContext

end SchemaBinding.Xml
