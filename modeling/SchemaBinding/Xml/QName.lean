/-!
# Qualified names

A name of XML together with the namespace it belongs to, if any.

## Main definitions

* `Xml.QName`: namespace and local name
* `Xml.QName.text`: the form `{namespace}local`
* `Xml.splitColon`: a written name split at its first colon
-/

namespace SchemaBinding.Xml

/-- A local name and the namespace it belongs to. -/
structure QName where
  namespaceUri : Option String
  localName : String
  deriving DecidableEq, Repr, Inhabited

namespace QName

/-- A name in no namespace. -/
def unqualified (localName : String) : QName := ⟨none, localName⟩

/-- A name in a namespace. -/
def qualified (namespaceUri localName : String) : QName := ⟨some namespaceUri, localName⟩

/-- The written form: the namespace in braces, then the local name. -/
def text (name : QName) : String :=
  match name.namespaceUri with
  | some uri => "\x7b" ++ uri ++ "\x7d" ++ name.localName
  | none => name.localName

@[simp] theorem text_unqualified (l : String) : (unqualified l).text = l := rfl

end QName

/-- Characters before and after the first colon, if there is one. -/
def splitColonChars : List Char → Option (List Char × List Char)
  | [] => none
  | c :: cs =>
    if c = ':' then some ([], cs)
    else (splitColonChars cs).map fun (before, after) => (c :: before, after)

/-- The parts of a written name before and after its first colon, if it has one. -/
def splitColon (name : String) : Option (String × String) :=
  (splitColonChars name.toList).map fun (before, after) =>
    (String.ofList before, String.ofList after)

theorem splitColonChars_eq_none_iff {cs : List Char} : splitColonChars cs = none ↔ ':' ∉ cs := by
  induction cs with
  | nil => simp [splitColonChars]
  | cons c cs ih =>
    by_cases h : c = ':'
    · simp [splitColonChars, h]
    · simp [splitColonChars, h, ih, Ne.symm h]

end SchemaBinding.Xml
