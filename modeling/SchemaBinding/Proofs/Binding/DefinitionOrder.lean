import SchemaBinding.Proofs.Binding.Places
import SchemaBinding.Proofs.Xsd.Rearrangement

/-!
# Definitions in any order

Types and groups may be defined in any order, and between elements and attributes at any place. With
documents whose children are in another order the set that is read has the same components at other
places, and places make no difference when the set is compiled.

## Main results

* `compile_of_rearranges`: documents with their children in another order
-/

namespace SchemaBinding.Binding

open Xsd (SchemaSet)
open Xsd.SchemaSet (parse)
open Xml (Element)

/-- Definitions may come in any order. If documents have their children in another order, with
elements, attributes and references to other documents in the order in which they were, then a set
is read from both or from neither, and both sets are compiled alike: with the same result, which is
the schema and the declarations that are left out, and the same repository. -/
theorem compile_of_rearranges {files files' : FileSystem} {limits : Limits}
    {start start' : Location} (hfiles : files.Rearranges files' limits)
    (hstart : start.Rearranges files files' limits start') :
    ((∃ set, (parse files limits start).1 = .ok set) ↔
      ∃ set', (parse files' limits start').1 = .ok set') ∧
    ∀ set set', (parse files limits start).1 = .ok set →
      (parse files' limits start').1 = .ok set' →
      ∀ repository limits request log, compile repository limits request set' log =
        compile repository limits request set log := by
  refine ⟨⟨?_, ?_⟩, fun set set' hset hset' repository limits request log => ?_⟩
  · rintro ⟨set, hset⟩
    obtain ⟨_, set', hset', -⟩ := SchemaSet.exists_parse_of_rearranges hfiles hstart hset
    exact ⟨set', hset'⟩
  · rintro ⟨set', hset'⟩
    obtain ⟨_, set, hset, -⟩ := SchemaSet.exists_parse_of_rearranges
      (fun location => (hfiles location).symm) hstart.symm hset'
    exact ⟨set, hset⟩
  · obtain ⟨_, found, hfound, hrenumbered⟩ :=
      SchemaSet.exists_parse_of_rearranges hfiles hstart hset
    cases hset'.symm.trans hfound
    exact compile_renumbered hrenumbered repository limits request log

/-! ### A type before its base and after it -/

/-- The text of a schema by those of its children. -/
def shelfText (children : List String) : String :=
  "<x:schema xmlns:x=\"http://www.w3.org/2001/XMLSchema\" xmlns:n=\"n\" targetNamespace=\"n\">" ++
    String.join children ++ "</x:schema>"

/-- The namespaces that are declared in the text. -/
def shelfScope : Xml.NamespaceContext := Xsd.plainScope.declare "n" "n"

/-- The root of the document in the text. -/
def shelfRoot (children : List Element) : Element :=
  Xsd.schemaElement shelfScope "schema" [("targetNamespace", "n")] children

/-- A child of the schema, and the text that it is read from. -/
structure Child where
  text : String
  element : Element

/-- An element of the type that is derived. -/
def item : Child where
  text := "<x:element name=\"item\" type=\"n:Book\"/>"
  element := Xsd.schemaElement shelfScope "element" [("name", "item"), ("type", "n:Book")] []

/-- A type that is derived from another one. -/
def book : Child where
  text := "<x:complexType name=\"Book\"><x:complexContent><x:extension base=\"n:Work\"/>" ++
    "</x:complexContent></x:complexType>"
  element := Xsd.schemaElement shelfScope "complexType" [("name", "Book")]
    [Xsd.schemaElement shelfScope "complexContent" []
      [Xsd.schemaElement shelfScope "extension" [("base", "n:Work")] []]]

/-- The other type, with the elements of a group. -/
def work : Child where
  text := "<x:complexType name=\"Work\"><x:group ref=\"n:Parts\"/></x:complexType>"
  element := Xsd.schemaElement shelfScope "complexType" [("name", "Work")]
    [Xsd.schemaElement shelfScope "group" [("ref", "n:Parts")] []]

/-- The group. -/
def parts : Child where
  text := "<x:group name=\"Parts\"><x:sequence><x:element name=\"part\" type=\"x:string\"/>" ++
    "</x:sequence></x:group>"
  element := Xsd.schemaElement shelfScope "group" [("name", "Parts")]
    [Xsd.schemaElement shelfScope "sequence" []
      [Xsd.schemaElement shelfScope "element" [("name", "part"), ("type", "x:string")] []]]

/-- Whatever is used is defined later. -/
def usesFirst : List Child := [item, book, work, parts]

/-- Whatever is used has been defined. -/
def definitionsFirst : List Child := [parts, work, book, item]

/-- The schema, by its children. -/
def shelf (children : List Child) : String := shelfText (children.map Child.text)

/-- Both schemas are read; the derived type has another place in each set. -/
theorem shelf_facts :
    ((Location.inMemory (shelf usesFirst)).root? .empty .standard =
        some (shelfRoot (usesFirst.map Child.element)) ∧
      (SchemaSet.readText (shelf usesFirst)).isOk = true ∧
      (SchemaSet.ofText (shelf usesFirst)).findType? (.qualified "n" "Book") = some ⟨46⟩) ∧
    (Location.inMemory (shelf definitionsFirst)).root? .empty .standard =
        some (shelfRoot (definitionsFirst.map Child.element)) ∧
      (SchemaSet.readText (shelf definitionsFirst)).isOk = true ∧
      (SchemaSet.ofText (shelf definitionsFirst)).findType? (.qualified "n" "Book") =
        some ⟨47⟩ := by
  decide +kernel

theorem rearranges_shelf :
    (Location.inMemory (shelf usesFirst)).Rearranges .empty .empty .standard
      (.inMemory (shelf definitionsFirst)) :=
  Location.rearranges_of_holds rfl (fun _ => rfl) (Location.holds_of_root? shelf_facts.1.1)
    (Location.holds_of_root? shelf_facts.2.1) ⟨rfl, (List.reverse_perm _).symm, rfl⟩

/-- The derived type has another place in each set, and both sets are compiled alike. -/
theorem compile_shelf :
    (SchemaSet.ofText (shelf usesFirst)).findType? (.qualified "n" "Book") = some ⟨46⟩ ∧
    (SchemaSet.ofText (shelf definitionsFirst)).findType? (.qualified "n" "Book") = some ⟨47⟩ ∧
    ∀ repository limits request log,
      compile repository limits request (.ofText (shelf definitionsFirst)) log =
        compile repository limits request (.ofText (shelf usesFirst)) log := by
  obtain ⟨⟨-, hread, hplace⟩, -, hread', hplace'⟩ := shelf_facts
  exact ⟨hplace, hplace',
    (compile_of_rearranges (fun location => .refl _ _ location) rearranges_shelf).2 _ _
      (SchemaSet.parse_ofText hread) (SchemaSet.parse_ofText hread')⟩

end SchemaBinding.Binding
