import Mathlib.Data.List.Forall2
import SchemaBinding.Proofs.Xsd.Accepted
import SchemaBinding.Proofs.Xsd.Documents

/-!
# Other editions of documents

The documents that are loaded from a location when some of them are there in another edition. What a
document refers to is said by some children of its root, and by what they and the root have as
attributes; editions that agree in this lead to the same documents.

## Main definitions

* `Xml.Element.front`: what a reference to a document is read from
* `Xml.Element.SameFront`: roots that lead to the same documents
* `HoldsRoot`: a text that is within the limits, and the root of the document in it
* `Editions`: locations whose documents are there in two editions

## Main results

* `references_eq_of_sameFront`: the same references
* `Editions.exists_loadAll`: the documents from a location, in the other edition
-/

namespace SchemaBinding.Xsd

open Xml (Element QName)

/-! ## Fronts of documents -/

/-- The tags of the children of a root that have to do with other documents. -/
def referringTags : List String := ["include", "import", "redefine"]

end SchemaBinding.Xsd

namespace SchemaBinding.Xml.Element

/-- What a reference to a document is read from. -/
def front (e : Element) : QName × List (QName × String) := (e.name, e.attributes)

/-- The references of a root to documents, as written. -/
def referring (root : Element) : List (QName × List (QName × String)) :=
  (root.children.filter fun c => decide (c.localName ∈ Xsd.referringTags)).map front

/-- Two roots are written alike where they have to do with other documents. -/
structure SameFront (root root' : Element) : Prop where
  front : root'.front = root.front
  referring : root'.referring = root.referring

theorem SameFront.refl (root : Element) : root.SameFront root := ⟨rfl, rfl⟩

theorem SameFront.name {root root' : Element} (h : root.SameFront root') : root'.name = root.name :=
  congrArg Prod.fst h.front

theorem SameFront.attribute? {root root' : Element} (h : root.SameFront root') (name : String) :
    root'.attribute? name = root.attribute? name :=
  congrArg (fun f : QName × List (QName × String) => f.2.lookup (QName.unqualified name)) h.front

/-! ### Equality -/

mutual

/-- Whether two elements are equal. -/
def decEq : (e e' : Element) → Decidable (e = e')
  | ⟨name, attributes, text, children, namespaces⟩,
    ⟨name', attributes', text', children', namespaces'⟩ =>
    match decEqAll children children' with
    | .isTrue h =>
      decidable_of_iff
        (name = name' ∧ attributes = attributes' ∧ text = text' ∧ namespaces = namespaces')
        (by subst h; simp)
    | .isFalse h => .isFalse fun heq => h (congrArg Element.children heq)

/-- Whether some elements are equal one by one. -/
def decEqAll : (es es' : List Element) → Decidable (es = es')
  | [], [] => .isTrue rfl
  | e :: es, e' :: es' =>
    match decEq e e', decEqAll es es' with
    | .isTrue h, .isTrue h' => .isTrue (congrArg₂ _ h h')
    | .isFalse h, _ => .isFalse fun heq => h (List.cons.inj heq).1
    | _, .isFalse h => .isFalse fun heq => h (List.cons.inj heq).2
  | [], _ :: _ => .isFalse nofun
  | _ :: _, [] => .isFalse nofun

end

instance : DecidableEq Element := decEq

end SchemaBinding.Xml.Element

namespace SchemaBinding.Xsd

open Xml (Element QName)

deriving instance DecidableEq for SchemaDocument

namespace Loading

/-- A reference is read from the front of a child. -/
theorem reference?_eq_of_front (context : Context) {c c' : Element} (h : c'.front = c.front) :
    reference? context c' = reference? context c := by
  obtain ⟨name, attributes, text, children, namespaces⟩ := c
  obtain ⟨name', attributes', text', children', namespaces'⟩ := c'
  obtain ⟨hname, hattributes⟩ := Prod.mk.inj h
  dsimp only at hname hattributes
  subst hname hattributes
  rfl

/-- Only some children make references. -/
theorem reference?_eq_none (context : Context) {c : Element} (h : c.localName ∉ referringTags) :
    reference? context c = pure none := by
  simp only [referringTags, List.mem_cons, List.not_mem_nil, or_false, not_or] at h
  unfold reference?
  split
  · next heq => exact absurd heq h.1
  · next heq => exact absurd heq h.2.1
  · next heq => exact absurd heq h.2.2
  · rfl

/-- What is found with the first of some children comes before what is found with the others. -/
theorem filterMap_mapM_cons {α : Type} (f : Element → LoadM (Option α)) (c : Element)
    (cs : List Element) : List.filterMap id <$> (c :: cs).mapM f = (do
      let found ← f c
      let rest ← List.filterMap id <$> cs.mapM f
      return found.toList ++ rest) := by
  simp only [List.mapM_cons, map_eq_pure_bind, bind_assoc, pure_bind]
  refine congrArg _ (funext fun found => congrArg _ (funext fun rest => ?_))
  cases found <;> rfl

/-- Children that make no references may be left out. -/
theorem references_eq (document : SchemaDocument) : references document =
    List.filterMap id <$> ((document.root.children.filter
      fun c => decide (c.localName ∈ referringTags)).mapM (reference? document.context)) := by
  unfold references
  rw [← map_eq_pure_bind]
  generalize document.root.children = children
  induction children with
  | nil => rfl
  | cons c children ih =>
    by_cases h : c.localName ∈ referringTags
    · rw [List.filter_cons_of_pos (by simpa using h), filterMap_mapM_cons, filterMap_mapM_cons, ih]
    · rw [List.filter_cons_of_neg (by simpa using h), filterMap_mapM_cons, reference?_eq_none _ h,
        pure_bind, ih]
      simp only [Option.toList_none, List.nil_append, bind_pure]

/-- Elements with the same fronts make the same references. -/
theorem mapM_reference?_eq (context : Context) {cs cs' : List Element}
    (h : cs'.map Element.front = cs.map Element.front) :
    cs'.mapM (reference? context) = cs.mapM (reference? context) := by
  induction cs generalizing cs' with
  | nil =>
    rw [List.map_nil, List.map_eq_nil_iff] at h
    rw [h]
  | cons c cs ih =>
    cases cs' with
    | nil => cases h
    | cons c' cs' =>
      rw [List.map_cons, List.map_cons, List.cons.injEq] at h
      rw [List.mapM_cons, List.mapM_cons, reference?_eq_of_front context h.1, ih h.2]

theorem references_eq_of_sameFront {document document' : SchemaDocument}
    (hcontext : document'.context = document.context)
    (hroot : document.root.SameFront document'.root) :
    references document' = references document := by
  rw [references_eq, references_eq, hcontext, mapM_reference?_eq _ hroot.referring]

end Loading

/-- A document with a root of the same front comes to be read as well. -/
theorem SchemaDocument.ofRoot_of_sameFront {source : String} {inclusion : Inclusion}
    {root root' : Element} {document : SchemaDocument}
    (h : SchemaDocument.ofRoot source inclusion root = .ok document)
    (hroot : root.SameFront root') : document.root = root ∧
      SchemaDocument.ofRoot source inclusion root' = .ok ⟨root', document.context⟩ := by
  have hname : root'.localName = root.localName := congrArg QName.localName hroot.name
  unfold SchemaDocument.ofRoot at h ⊢
  rw [hname, hroot.name, hroot.attribute?, hroot.attribute?, hroot.attribute?]
  split at h
  · cases h
  · next hschema =>
    rw [if_neg hschema]
    obtain ⟨⟨uri, isChameleon⟩, hcheck, h⟩ := bind_eq_ok_iff.mp h
    cases h
    exact ⟨rfl, bind_eq_ok_iff.mpr ⟨_, hcheck, rfl⟩⟩

/-! ## Texts -/

/-- A text that holds a root is read as the document with the root. -/
theorem SchemaDocument.ofText_eq_ofRoot {limits : Limits} {text : String} {root : Element}
    {document : Xml.Document}
    (hdocument : Xml.Document.parse limits (Text.encode text) = .ok document)
    (hroot : document.root = some root) (source : String) (inclusion : Inclusion) :
    SchemaDocument.ofText limits source inclusion text =
      SchemaDocument.ofRoot source inclusion root := by
  unfold SchemaDocument.ofText
  simp only [hdocument, bind, Except.bind, hroot]

/-- A text is within the limits, and holds a document with a root. -/
structure HoldsRoot (limits : Limits) (text : String) (root : Element) : Prop where
  size : limits.check .xmlSize text.utf8ByteSize = .ok ⟨⟩
  document : ∃ document, Xml.Document.parse limits (Text.encode text) = .ok document ∧
    document.root = some root

/-- Whether a text holds a root can be computed. -/
theorem holdsRoot_of_root? {limits : Limits} {text : String} {root : Element}
    (hsize : (limits.check .xmlSize text.utf8ByteSize).isOk = true)
    (hroot : ((Xml.Document.parse limits (Text.encode text)).toOption.bind (·.root)) = some root) :
    HoldsRoot limits text root where
  size := by
    cases h : limits.check .xmlSize text.utf8ByteSize with
    | ok _ => rfl
    | error _ =>
      rw [h] at hsize
      cases hsize
  document := by
    obtain ⟨document, hdocument, hroot⟩ := Option.bind_eq_some_iff.mp hroot
    refine ⟨document, ?_, hroot⟩
    cases h : Xml.Document.parse limits (Text.encode text) with
    | ok found =>
      rw [h] at hdocument
      exact congrArg Except.ok (Option.some.inj hdocument)
    | error _ =>
      rw [h] at hdocument
      cases hdocument

namespace HoldsRoot

variable {limits : Limits} {text : String} {root : Element}

theorem limited (h : HoldsRoot limits text root) : Source.limited limits text = .ok text := by
  unfold Source.limited
  rw [h.size]
  rfl

theorem ofText_eq (h : HoldsRoot limits text root) (source : String) (inclusion : Inclusion) :
    SchemaDocument.ofText limits source inclusion text =
      SchemaDocument.ofRoot source inclusion root := by
  obtain ⟨document, hparse, hroot⟩ := h.document
  exact SchemaDocument.ofText_eq_ofRoot hparse hroot source inclusion

end HoldsRoot

/-- The prefix `x` stands for the schema language. -/
def plainScope : Xml.NamespaceContext := Xml.NamespaceContext.empty.declare "x" schemaNamespace

/-- An element of the schema language. -/
def schemaElement (scope : Xml.NamespaceContext) (tag : String)
    (attributes : List (String × String)) (children : List Element) : Element where
  name := QName.qualified schemaNamespace tag
  attributes := attributes.map fun a => (QName.unqualified a.1, a.2)
  text := none
  children := children
  namespaces := scope

/-! ## Two editions -/

/-- The documents at related locations are there in two editions. What is related may depend on what
has been visited. The references of the one edition lead on to related locations, when those before
them have been followed. -/
structure Editions (files files' : FileSystem) (limits : Limits)
    (related : List String → Location → Location → Inclusion → Prop)
    (edited : SchemaDocument → SchemaDocument → Prop) : Prop where
  key : ∀ visited l l' i, related visited l l' i → Source.key files' l' = Source.key files l
  read : ∀ visited l l' i document, related visited l l' i → Source.key files l ∉ visited →
    (⟨l, i, document⟩ : Loaded).ReadFrom files limits →
    ∃ document', (⟨l', i, document'⟩ : Loaded).ReadFrom files' limits ∧ edited document document'
  references : ∀ document document', edited document document' →
    Loading.references document' = Loading.references document
  follows : ∀ visited l l' i document before reference after target, related visited l l' i →
    (⟨l, i, document⟩ : Loaded).ReadFrom files limits →
    document.referenceList = before ++ reference :: after →
    l.resolve reference.location = .ok target →
    ∃ target', l'.resolve reference.location = .ok target' ∧
      ∀ visited', Source.key files l ∈ visited' →
        (∀ r ∈ before, ∀ t, l.resolve r.location = .ok t → Source.key files t ∈ visited') →
        related visited' target target' reference.inclusion

namespace Editions

/-- The same locations have been visited, and the documents have been loaded in two editions. -/
structure Both (edited : SchemaDocument → SchemaDocument → Prop) (s s' : Loading) : Prop where
  visited : s'.visited = s.visited
  documents : List.Forall₂ edited s.documents.toList s'.documents.toList

theorem Both.push {edited : SchemaDocument → SchemaDocument → Prop} {s s' : Loading}
    (h : Both edited s s') {document document' : SchemaDocument}
    (hedited : edited document document') :
    Both edited { s with documents := s.documents.push document }
      { s' with documents := s'.documents.push document' } where
  visited := h.visited
  documents := by
    rw [Array.toList_push, Array.toList_push]
    exact List.rel_append h.documents (.cons hedited .nil)

variable {files files' : FileSystem} {limits : Limits}
  {related : List String → Location → Location → Inclusion → Prop}
  {edited : SchemaDocument → SchemaDocument → Prop}
  (h : Editions files files' limits related edited)

/-- Looking for references changes nothing but the log. -/
theorem simulates_references (document : SchemaDocument) :
    Simulates (Both edited) Eq (Loading.references document) (Loading.references document) := by
  have hreport (level : Log.Level) (text : String) : Simulates (Both edited) (fun _ _ => True)
      (Loading.report level text) (Loading.report level text) :=
    simulates_modify fun _ _ hs => ⟨hs.visited, hs.documents⟩
  unfold Loading.references
  refine Simulates.seq (simulates_mapM (List.forall₂_same.mpr fun _ _ => rfl) ?_) fun _ =>
    simulates_pure rfl
  rintro c _ rfl
  unfold Loading.reference?
  split
  · exact (simulates_lift fun _ h => h).seq fun location => simulates_pure rfl
  · dsimp only
    split
    · exact simulates_throw
    · split
      · exact simulates_pure rfl
      · exact (hreport _ _).bind fun _ _ _ => simulates_pure rfl
  · exact simulates_throw
  · exact simulates_pure rfl

include h

/-- The references of a document are followed one after the other in both editions. -/
theorem exists_run_forM_load {levels : Nat}
    (ih : ∀ l l' i {s s' t}, Both edited s s' → related s.visited l l' i →
      (Loading.load files limits levels l i).run.run s = (.ok ⟨⟩, t) →
      ∃ t', (Loading.load files' limits levels l' i).run.run s' = (.ok ⟨⟩, t') ∧
        Both edited t t' ∧ Source.key files l ∈ t.visited ∧ s.visited ⊆ t.visited)
    {visited : List String} {l l' : Location} {i : Inclusion} {document : SchemaDocument}
    (hl : related visited l l' i) (hread : (⟨l, i, document⟩ : Loaded).ReadFrom files limits)
    {before refs : List Reference} (hrefs : document.referenceList = before ++ refs)
    {s s' t : Loading} (hs : Both edited s s') (hkey : Source.key files l ∈ s.visited)
    (hbefore : ∀ r ∈ before, ∀ t, l.resolve r.location = .ok t → Source.key files t ∈ s.visited)
    (hrun : (refs.forM fun reference => (do
        let target ← l.resolve reference.location
        Loading.load files limits levels target reference.inclusion : Loading.LoadM Unit)).run.run
      s = (.ok ⟨⟩, t)) :
    ∃ t', (refs.forM fun reference => (do
        let target ← l'.resolve reference.location
        Loading.load files' limits levels target reference.inclusion : Loading.LoadM Unit)).run.run
      s' = (.ok ⟨⟩, t') ∧ Both edited t t' ∧ s.visited ⊆ t.visited := by
  -- When a reference has been followed it is one of those before the next one.
  induction refs generalizing before s s' with
  | nil =>
    cases hrun
    exact ⟨s', rfl, hs, fun _ hk => hk⟩
  | cons reference refs ihrefs =>
    obtain ⟨_, s₁, hfirst, hrest⟩ := run_bind_eq_ok_iff.mp hrun
    obtain ⟨target, htarget, hload⟩ := run_liftExcept_bind_eq_ok_iff.mp hfirst
    obtain ⟨target', htarget', hrelated⟩ :=
      h.follows visited l l' i document before reference refs target hl hread hrefs htarget
    obtain ⟨s₁', hload', hs₁, htargetKey, hsub⟩ :=
      ih target target' reference.inclusion hs (hrelated _ hkey hbefore) hload
    obtain ⟨t', hrest', ht, hsub'⟩ := ihrefs (by rw [hrefs, List.append_cons]) hs₁ (hsub hkey)
      (by
        intro r hr found hfound
        rcases List.mem_append.mp hr with hr | hr
        · exact hsub (hbefore r hr found hfound)
        · cases List.mem_singleton.mp hr
          cases htarget.symm.trans hfound
          exact htargetKey)
      hrest
    exact ⟨t', run_bind_eq_ok_iff.mpr
      ⟨⟨⟩, s₁', run_liftExcept_bind_eq_ok_iff.mpr ⟨target', htarget', hload'⟩, hrest'⟩, ht,
      fun _ hk => hsub' (hsub hk)⟩

/-- What is loaded in the one edition is loaded in the other one. -/
theorem exists_run_load (levels : Nat) (l l' : Location) (i : Inclusion) {s s' t : Loading}
    (hs : Both edited s s') (hl : related s.visited l l' i)
    (hrun : (Loading.load files limits levels l i).run.run s = (.ok ⟨⟩, t)) :
    ∃ t', (Loading.load files' limits levels l' i).run.run s' = (.ok ⟨⟩, t') ∧
      Both edited t t' ∧ Source.key files l ∈ t.visited ∧ s.visited ⊆ t.visited := by
  induction levels generalizing l l' i s s' t with
  | zero => cases hrun
  | succ levels ih =>
    have hkey := h.key s.visited l l' i hl
    rcases Loading.run_load_eq_ok_iff.mp hrun with
      ⟨hvisited, rfl⟩ | ⟨hnew, document, refs, s₁, hread, hrefs, hforM⟩
    · refine ⟨_, Loading.run_load_eq_ok_iff.mpr (.inl ⟨?_, rfl⟩), ⟨hs.visited, hs.documents⟩,
        hvisited, fun _ hk => hk⟩
      rwa [hkey, hs.visited]
    · obtain ⟨document', hread', hedited⟩ := h.read s.visited l l' i document hl hnew hread
      obtain ⟨⟨log, rfl⟩, rfl⟩ := (Loading.returns_references_eq document).of_run hrefs
      have hstart : Both edited { s with visited := Source.key files l :: s.visited }
          { s' with visited := Source.key files l :: s'.visited } :=
        ⟨congrArg (List.cons _) hs.visited, hs.documents⟩
      obtain ⟨_, s₁', hrefs', hs₁, rfl⟩ := simulates_references document _ _ _ _ hstart hrefs
      obtain ⟨t', hforM', ht, hsub⟩ := h.exists_run_forM_load ih hl hread
        (List.nil_append _).symm (hs₁.push hedited) List.mem_cons_self nofun hforM
      refine ⟨t', Loading.run_load_eq_ok_iff.mpr (.inr ⟨?_, document', _, s₁', hread', ?_, hforM'⟩),
        ht, hsub List.mem_cons_self, fun _ hk => hsub (List.mem_cons_of_mem _ hk)⟩
      · rwa [hkey, hs.visited]
      · rwa [hkey, h.references document document' hedited]

/-- The documents from a location are there in the other edition, too. -/
theorem exists_loadAll {l l' : Location} (hl : related [] l l' .root)
    {documents : List SchemaDocument}
    (hdocuments : (SchemaDocument.loadAll files limits l).1 = .ok documents) :
    ∃ documents', (SchemaDocument.loadAll files' limits l').1 = .ok documents' ∧
      List.Forall₂ edited documents documents' := by
  unfold SchemaDocument.loadAll at hdocuments ⊢
  rcases hrun : (Loading.load files limits (limits.schemaDepth + 1) l .root).run.run .start
    with ⟨e | _, final⟩ <;> rw [hrun] at hdocuments <;> cases hdocuments
  have hstart : Both edited .start .start := ⟨rfl, .nil⟩
  obtain ⟨final', hrun', hboth, -⟩ := h.exists_run_load _ l l' .root hstart hl hrun
  rw [hrun']
  exact ⟨_, rfl, hboth.documents⟩

end Editions

end SchemaBinding.Xsd
