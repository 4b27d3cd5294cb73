import SchemaBinding.Proofs.Xsd.Declaration
import SchemaBinding.Proofs.Xsd.Documents

/-!
# What references say of documents

An include says that the document it leads to declares the including document's namespace or none,
and brings its components into that namespace; an import says that it declares the namespace of the
import. This is checked when a document is read, against the reference that comes to it first. What
further references say of a document that has been read already is not looked at: it is true of them
if they agree with how the document has been read, and of a document that declares a namespace only
then.

## Main definitions

* `Loaded.Agrees`: a reference would pass the check, with the namespace that the document has
* `Loaded.Honours`: what a reference says of a document is true

## Main results

* `Loaded.Agrees.honours`, `Loaded.Honours.agrees`: single references
* `SchemaSet.references_honoured`: all references of a set that is read
* `SchemaSet.not_forall_honoured`: two imports of one document as of different namespaces
-/

namespace SchemaBinding.Xsd

open Xml (Element)

/-- A document that passes the check has the namespace that the check gives. -/
theorem SchemaDocument.of_ofRoot {source : String} {inclusion : Inclusion} {root : Element}
    {document : SchemaDocument} (h : ofRoot source inclusion root = .ok document) :
    document.root = root ∧ ∃ isChameleon,
      inclusion.targetNamespace (root.attribute? "targetNamespace") =
        .ok (document.context.targetNamespace, isChameleon) := by
  unfold SchemaDocument.ofRoot at h
  split at h
  · cases h
  · obtain ⟨⟨uri, isChameleon⟩, hcheck, h⟩ := bind_eq_ok_iff.mp h
    cases h
    refine ⟨rfl, isChameleon, ?_⟩
    cases hok : inclusion.targetNamespace (root.attribute? "targetNamespace") with
    | error fault =>
      rw [hok] at hcheck
      cases hcheck
    | ok result =>
      rw [hok] at hcheck
      cases hcheck
      rfl

namespace Loaded

/-- The namespace that the document declares. -/
def declared (l : Loaded) : Option String := l.document.root.attribute? "targetNamespace"

/-- If it were read as a reference says, the document would have the namespace that it has. -/
def Agrees (l : Loaded) (inclusion : Inclusion) : Prop :=
  ∃ isChameleon, inclusion.targetNamespace l.declared =
    .ok (l.document.context.targetNamespace, isChameleon)

/-- What a reference says of the document it leads to is true. -/
def Honours (l : Loaded) (set : SchemaSet) : Inclusion → Prop
  | .root => True
  | .included uri => (l.declared = some uri ∨ l.declared = none) ∧
      ∀ child ∈ l.document.root.children, set.Presents uri child
  | .imported uri => l.declared.getD "" = uri

/-- A document agrees with the way in which it has been read. -/
theorem ReadFrom.agrees {files : FileSystem} {limits : Limits} {l : Loaded}
    (h : l.ReadFrom files limits) : l.Agrees l.inclusion := by
  obtain ⟨content, -, htext⟩ := h
  unfold SchemaDocument.ofText at htext
  obtain ⟨parsed, -, htext⟩ := bind_eq_ok_iff.mp htext
  split at htext
  · cases htext
  · obtain ⟨hroot, hcheck⟩ := SchemaDocument.of_ofRoot htext
    unfold Agrees declared
    rwa [hroot]

/-- A document that declares a namespace has it, however it has been read. -/
theorem Agrees.targetNamespace_eq {l : Loaded} {inclusion : Inclusion} (h : l.Agrees inclusion)
    {uri : String} (hd : l.declared = some uri) : l.document.context.targetNamespace = uri := by
  obtain ⟨isChameleon, h⟩ := h
  rw [hd] at h
  cases inclusion with
  | root =>
    cases h
    rfl
  | included expected =>
    simp only [Inclusion.targetNamespace] at h
    split at h
    · cases h
      rfl
    · cases h
  | imported expected =>
    simp only [Inclusion.targetNamespace, Option.getD_some] at h
    split at h
    · next heq =>
      cases h
      exact heq.symm
    · cases h

section Honours

variable {l : Loaded} {set : SchemaSet} {inclusion : Inclusion}

/-- What a reference says is true if the document agrees with it, and its components are in the
schema of the namespace that it has. -/
theorem Agrees.honours (h : l.Agrees inclusion) (hp : set.PresentsAll l.document) :
    l.Honours set inclusion := by
  obtain ⟨isChameleon, h⟩ := h
  cases inclusion with
  | root => trivial
  | included expected =>
    simp only [Inclusion.targetNamespace] at h
    split at h
    · next uri hd =>
      split at h
      · next heq =>
        cases h
        exact ⟨.inl (by rw [hd, heq]), heq ▸ hp⟩
      · cases h
    · next hd =>
      cases h
      exact ⟨.inr hd, hp⟩
  | imported expected =>
    simp only [Inclusion.targetNamespace] at h
    split at h
    · next heq => exact heq
    · cases h

/-- What a reference says of a document that declares a namespace is true only if the document
agrees with it. -/
theorem Honours.agrees (h : l.Honours set inclusion) {uri : String} (hd : l.declared = some uri)
    (hn : l.document.context.targetNamespace = uri) : l.Agrees inclusion := by
  unfold Agrees
  rw [hd, hn]
  cases inclusion with
  | root => exact ⟨false, rfl⟩
  | included expected =>
    rcases h.1 with h | h
    · rw [hd] at h
      cases h
      exact ⟨false, if_pos rfl⟩
    · rw [hd] at h
      cases h
  | imported expected =>
    have heq : uri = expected := by
      have h' : l.declared.getD "" = expected := h
      rwa [hd] at h'
    subst heq
    exact ⟨false, if_pos rfl⟩

end Honours

end Loaded

/-! ## All references -/

namespace SchemaSet

/-- Every reference of a document that belongs to a set leads to a document that belongs to it, and
what the reference says of that document is true if it agrees with how the document has been read.
Of a document that declares a namespace nothing else is true. -/
theorem references_honoured {files : FileSystem} {limits : Limits} {location : Location}
    {set : SchemaSet} (h : (parse files limits location).1 = .ok set) :
    ∃ loaded, LoadedFrom files limits location loaded ∧
      (∀ l ∈ loaded, l.Agrees l.inclusion ∧ set.PresentsAll l.document) ∧
      ∀ l ∈ loaded, ∀ reference, l.document.Refers reference →
        ∃ target, l.location.resolve reference.location = .ok target ∧
          ∃ l' ∈ loaded, l'.key files = Source.key files target ∧
            (l'.Agrees reference.inclusion → l'.Honours set reference.inclusion) ∧
            (l'.declared.isSome → l'.Honours set reference.inclusion →
              l'.Agrees reference.inclusion) := by
  obtain ⟨documents, log, draft, hload, hread, hs⟩ := exists_of_parse h
  obtain ⟨loaded, hloaded, rfl⟩ := exists_loadedFrom (congrArg Prod.fst hload)
  have hpresents : ∀ l ∈ loaded, set.PresentsAll l.document := fun l hl =>
    presentsAll_of_read hread hs l.document (List.mem_map_of_mem hl)
  have hagrees : ∀ l ∈ loaded, l.Agrees l.inclusion := fun l hl => (hloaded.read l hl).agrees
  refine ⟨loaded, hloaded, fun l hl => ⟨hagrees l hl, hpresents l hl⟩, ?_⟩
  intro l hl reference hr
  obtain ⟨target, htarget, l', hl', hkey⟩ := hloaded.closed l hl reference hr
  refine ⟨target, htarget, l', hl', hkey, fun ha => ha.honours (hpresents l' hl'), ?_⟩
  -- A declared namespace is that of the document, whichever reference it was checked against.
  intro hd hh
  obtain ⟨uri, hd⟩ := Option.isSome_iff_exists.mp hd
  exact hh.agrees hd ((hagrees l' hl').targetNamespace_eq hd)

/-! ## Two imports of one document -/

section TwoImports

/-- A document of the namespace `b`, as the only file. -/
def oneFile : FileSystem where
  canonical? path := some path
  read path :=
    if path.text = "b.xsd" then
      .ok "<schema xmlns=\"http://www.w3.org/2001/XMLSchema\" targetNamespace=\"b\"/>"
    else .error .notFound

/-- A document that imports the file as of the namespace `b`, then as of the namespace `c`. -/
def twoImports : Location := .inMemory <|
  "<schema xmlns=\"http://www.w3.org/2001/XMLSchema\" targetNamespace=\"a\">" ++
  "<import namespace=\"b\" schemaLocation=\"b.xsd\"/>" ++
  "<import namespace=\"c\" schemaLocation=\"b.xsd\"/></schema>"

/-- What a document says of namespaces: the one it declares, and those that its children have, with
their names and locations. -/
structure Outline where
  declared : Option String
  children : List (String × Option String × Option String)
  deriving DecidableEq

/-- What a document says of namespaces. -/
def outline (document : SchemaDocument) : Outline where
  declared := document.root.attribute? "targetNamespace"
  children := document.root.children.map fun child =>
    (child.localName, child.attribute? "namespace", child.attribute? "schemaLocation")

/-- Both documents are read. -/
theorem twoImports_facts :
    (parse oneFile .standard twoImports).1.isOk = true ∧
    (SchemaDocument.loadAll oneFile .standard twoImports).1.toOption.map (·.map outline) =
      some [⟨some "a", [("import", some "b", some "b.xsd"), ("import", some "c", some "b.xsd")]⟩,
        ⟨some "b", []⟩] := by
  decide +kernel

theorem exists_twoImports : ∃ set, (parse oneFile .standard twoImports).1 = .ok set :=
  ⟨_, eq_ok_getD_of_isOk twoImports_facts.1 .builtin⟩

/-- An import that the outline of a document shows is a reference of the document. -/
theorem refers_of_outline {document : SchemaDocument} {uri location : String}
    (h : ("import", some uri, some location) ∈ (outline document).children) :
    document.Refers ⟨location, .imported uri⟩ := by
  obtain ⟨child, hchild, heq⟩ := List.mem_map.mp h
  obtain ⟨hname, heq⟩ := Prod.mk.inj heq
  obtain ⟨huri, hlocation⟩ := Prod.mk.inj heq
  have hr : document.context.RefersBy child _ := .import hname hlocation
  rw [huri] at hr
  exact ⟨child, hchild, hr⟩

/-- The documents are the one that makes the imports, and the one that is imported. -/
theorem of_loadedFrom_twoImports {loaded : List Loaded}
    (h : LoadedFrom oneFile .standard twoImports loaded) : ∃ l l', loaded = [l, l'] ∧
      l.location = twoImports ∧ l.declared = some "a" ∧ l'.declared = some "b" ∧
      l.document.Refers ⟨"b.xsd", .imported "b"⟩ ∧ l.document.Refers ⟨"b.xsd", .imported "c"⟩ := by
  have houtline := twoImports_facts.2
  rw [h.documents] at houtline
  have hmap : (loaded.map (·.document)).map outline = _ := Option.some.inj houtline
  rw [List.map_map] at hmap
  obtain ⟨l, rest, rfl, hl, hrest⟩ := List.map_eq_cons_iff.mp hmap
  obtain ⟨l', rest', rfl, hl', hrest'⟩ := List.map_eq_cons_iff.mp hrest
  cases List.map_eq_nil_iff.mp hrest'
  refine ⟨l, l', rfl, h.traced.head.1, congrArg Outline.declared hl,
    congrArg Outline.declared hl', refers_of_outline ?_, refers_of_outline ?_⟩
  all_goals
    rw [show outline l.document = _ from hl]
    decide

/-- Not every reference is honoured: a document of the namespace `b` is accepted where it is
imported as of the namespace `c`, if it has been imported as of `b` before. -/
theorem not_forall_honoured : ¬ ∀ (files : FileSystem) (limits : Limits) (location : Location)
    (set : SchemaSet), (parse files limits location).1 = .ok set →
      ∃ loaded, LoadedFrom files limits location loaded ∧
        ∀ l ∈ loaded, ∀ reference, l.document.Refers reference →
          ∃ target, l.location.resolve reference.location = .ok target ∧
            ∃ l' ∈ loaded, l'.key files = Source.key files target ∧
              l'.Honours set reference.inclusion := by
  intro hall
  obtain ⟨set, hset⟩ := exists_twoImports
  obtain ⟨loaded, hloaded, hhonoured⟩ := hall oneFile .standard twoImports set hset
  obtain ⟨l, l', rfl, -, ha, hb, -, hr⟩ := of_loadedFrom_twoImports hloaded
  obtain ⟨target, -, l'', hl'', -, hc⟩ := hhonoured l List.mem_cons_self _ hr
  have hc : l''.declared.getD "" = "c" := hc
  rcases List.mem_cons.mp hl'' with rfl | hl''
  · rw [ha] at hc
    exact absurd hc (by decide)
  · cases List.mem_singleton.mp hl''
    rw [hb] at hc
    exact absurd hc (by decide)

/-- The import as of the namespace `b` agrees with how the document has been read, and is honoured.
-/
theorem references_honoured_twoImports : ∃ set loaded,
    (parse oneFile .standard twoImports).1 = .ok set ∧
    LoadedFrom oneFile .standard twoImports loaded ∧
    ∃ l ∈ loaded, ∃ l' ∈ loaded, l.document.Refers ⟨"b.xsd", .imported "b"⟩ ∧
      l.document.Refers ⟨"b.xsd", .imported "c"⟩ ∧ l'.key oneFile = "b.xsd" ∧
      l'.Agrees (.imported "b") ∧ l'.Honours set (.imported "b") ∧
      ¬ l'.Honours set (.imported "c") := by
  obtain ⟨set, hset⟩ := exists_twoImports
  obtain ⟨loaded, hloaded, hread, hreferences⟩ := references_honoured hset
  obtain ⟨l, l', rfl, hlocation, ha, hb, hrb, hrc⟩ := of_loadedFrom_twoImports hloaded
  obtain ⟨target, htarget, l'', hl'', hkey, hagrees, -⟩ := hreferences l List.mem_cons_self _ hrb
  rw [hlocation] at htarget
  have hfile : Source.key oneFile target = "b.xsd" := by
    cases htarget
    decide +kernel
  rw [hfile] at hkey
  rcases List.mem_cons.mp hl'' with rfl | hl''
  · unfold Loaded.key at hkey
    rw [hlocation] at hkey
    exact absurd hkey (by decide +kernel)
  · cases List.mem_singleton.mp hl''
    have hl' : l' ∈ [l, l'] := List.mem_cons_of_mem l List.mem_cons_self
    have hagree : l'.Agrees (.imported "b") := by
      refine ⟨false, ?_⟩
      rw [hb, (hread l' hl').1.targetNamespace_eq hb]
      rfl
    refine ⟨set, [l, l'], hset, hloaded, l, List.mem_cons_self, l', hl', hrb, hrc, hkey, hagree,
      hagrees hagree, ?_⟩
    intro hc
    have hc : l'.declared.getD "" = "c" := hc
    rw [hb] at hc
    exact absurd hc (by decide)

end TwoImports

end SchemaSet

end SchemaBinding.Xsd
