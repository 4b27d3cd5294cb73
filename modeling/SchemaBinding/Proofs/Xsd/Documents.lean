import Mathlib.Data.List.Nodup
import SchemaBinding.Proofs.Outcome
import SchemaBinding.Xsd.Document

/-!
# Documents that belong together

Which documents are loaded from a location. Each document is read once, through the first reference
that comes to it, and every reference of a loaded document leads to a document that has been loaded.
By induction on how deep references are nested; the documents that one reference brings come one
after the other.

## Main definitions

* `SchemaDocument.referenceList`, `SchemaDocument.Refers`: the references of a document
* `Loaded`: a document with the way in which it has been read
* `Loaded.RefersTo`: a document has been read through a reference of another one
* `Traced`: documents that have been read one after the other
* `Brings`: what is known of documents that are loaded after others
* `Loading.Holds`: the documents that have been loaded
* `Loading.Follows`, `Loading.FollowsAll`: references that have been followed
* `LoadedFrom`: the documents that are loaded from a location

## Main results

* `Loading.ends_references`, `Loading.returns_references_eq`: the references that are found
* `Loading.run_load_eq_ok_iff`: all that loading can do when it succeeds
* `Loading.ends_load`: the documents that a reference brings
* `exists_loadedFrom`: all documents from one location
-/

namespace SchemaBinding.Xsd

open Xml (Element)

/-! ## References -/

/-- A reference that a child of the root of a document makes. -/
inductive Context.RefersBy (context : Context) (child : Element) : Reference → Prop
  | include {location : String} : child.localName = "include" →
      child.attribute? "schemaLocation" = some location →
      RefersBy context child ⟨location, .included context.targetNamespace⟩
  | import {location : String} : child.localName = "import" →
      child.attribute? "schemaLocation" = some location →
      RefersBy context child ⟨location, .imported ((child.attribute? "namespace").getD "")⟩

section RefersBy

variable {context : Context} {child : Element} {reference : Reference} {location : String}

/-- An inclusion refers to its location, for the namespace of the schema that it stands in. -/
theorem refersBy_include_iff (hname : child.localName = "include")
    (hlocation : child.attribute? "schemaLocation" = some location) :
    context.RefersBy child reference ↔
      reference = ⟨location, .included context.targetNamespace⟩ := by
  constructor
  · rintro (⟨_, hl⟩ | ⟨hn, _⟩)
    · cases hlocation.symm.trans hl
      rfl
    · exact absurd (hname.symm.trans hn) (by decide)
  · rintro rfl
    exact .include hname hlocation

theorem refersBy_import_iff (hname : child.localName = "import")
    (hlocation : child.attribute? "schemaLocation" = some location) :
    context.RefersBy child reference ↔
      reference = ⟨location, .imported ((child.attribute? "namespace").getD "")⟩ := by
  constructor
  · rintro (⟨hn, _⟩ | ⟨_, hl⟩)
    · exact absurd (hname.symm.trans hn) (by decide)
    · cases hlocation.symm.trans hl
      rfl
  · rintro rfl
    exact .import hname hlocation

theorem not_refersBy_of_none (hlocation : child.attribute? "schemaLocation" = none) :
    ¬ context.RefersBy child reference := by
  rintro (⟨_, hl⟩ | ⟨_, hl⟩)
  all_goals cases hlocation.symm.trans hl

theorem not_refersBy_of_ne (hinclude : child.localName ≠ "include")
    (himport : child.localName ≠ "import") : ¬ context.RefersBy child reference := by
  rintro (⟨hn, _⟩ | ⟨hn, _⟩)
  · exact hinclude hn
  · exact himport hn

end RefersBy

/-- The reference that a child of the root of a document makes, if it makes one. -/
def Context.referenceOf? (context : Context) (child : Element) : Option Reference :=
  if child.localName = "include" then
    (child.attribute? "schemaLocation").map (⟨·, .included context.targetNamespace⟩)
  else if child.localName = "import" then
    (child.attribute? "schemaLocation").map
      (⟨·, .imported ((child.attribute? "namespace").getD "")⟩)
  else none

/-- A child refers to a document as it is read. -/
theorem Context.referenceOf?_eq_some_iff {context : Context} {child : Element}
    {reference : Reference} :
    context.referenceOf? child = some reference ↔ context.RefersBy child reference := by
  unfold referenceOf?
  constructor
  · split
    · next hname =>
      intro h
      obtain ⟨location, hlocation, rfl⟩ := Option.map_eq_some_iff.mp h
      exact .include hname hlocation
    · split
      · next hname =>
        intro h
        obtain ⟨location, hlocation, rfl⟩ := Option.map_eq_some_iff.mp h
        exact .import hname hlocation
      · exact nofun
  · rintro (⟨hname, hlocation⟩ | ⟨hname, hlocation⟩)
    · rw [if_pos hname, hlocation]
      rfl
    · rw [if_neg (by rw [hname]; decide), if_pos hname, hlocation]
      rfl

/-- The references that a document makes, in order. -/
def SchemaDocument.referenceList (document : SchemaDocument) : List Reference :=
  document.root.children.filterMap document.context.referenceOf?

/-- A document makes a reference. -/
def SchemaDocument.Refers (document : SchemaDocument) (reference : Reference) : Prop :=
  ∃ child ∈ document.root.children, document.context.RefersBy child reference

/-- A document, where it is, and how it has come to be read. -/
structure Loaded where
  location : Location
  inclusion : Inclusion
  document : SchemaDocument

namespace Loaded

/-- What identifies the document. -/
def key (files : FileSystem) (l : Loaded) : String := Source.key files l.location

/-- The document is what has been read from its location. -/
def ReadFrom (files : FileSystem) (limits : Limits) (l : Loaded) : Prop :=
  ∃ content, Source.load files limits l.location = .ok content ∧
    SchemaDocument.ofText limits (l.key files) l.inclusion content = .ok l.document

/-- A document has been read through a reference of another one. -/
def RefersTo (l l' : Loaded) : Prop :=
  ∃ reference, l.document.Refers reference ∧
    l.location.resolve reference.location = .ok l'.location ∧ reference.inclusion = l'.inclusion

/-- A reference from a location leads to one of some documents. -/
def LeadsInto (files : FileSystem) (base : Location) (reference : Reference)
    (loaded : List Loaded) : Prop :=
  ∃ target, base.resolve reference.location = .ok target ∧
    ∃ l ∈ loaded, l.key files = Source.key files target

theorem LeadsInto.mono {files : FileSystem} {base : Location} {reference : Reference}
    {loaded loaded' : List Loaded} (h : LeadsInto files base reference loaded)
    (hs : loaded ⊆ loaded') : LeadsInto files base reference loaded' := by
  obtain ⟨target, htarget, l, hl, hkey⟩ := h
  exact ⟨target, htarget, l, hs hl, hkey⟩

end Loaded

/-- Documents in the order in which they have been read: each has been asked for, or has been read
through a reference of one before it. -/
inductive Traced (asked : Loaded → Prop) : List Loaded → Prop
  | nil : Traced asked []
  | snoc {ls : List Loaded} {l : Loaded} : Traced asked ls →
      (asked l ∨ ∃ l' ∈ ls, l'.RefersTo l) → Traced asked (ls ++ [l])

namespace Traced

variable {asked asked' : Loaded → Prop} {ls ls' : List Loaded}

theorem mono (h : Traced asked ls) (ha : ∀ l, asked l → asked' l) : Traced asked' ls := by
  induction h with
  | nil => exact .nil
  | snoc _ hl ih => exact ih.snoc (hl.imp_left (ha _))

theorem append (h : Traced asked ls) (h' : Traced asked ls') : Traced asked (ls ++ ls') := by
  induction h' with
  | nil => rwa [List.append_nil]
  | snoc _ hl ih =>
    rw [← List.append_assoc]
    exact ih.snoc (hl.imp_right fun ⟨l', hl', hr⟩ => ⟨l', List.mem_append_right ls hl', hr⟩)

/-- A document comes before those that are read through its references. -/
theorem cons {l : Loaded} (hasked : asked l) (h : Traced l.RefersTo ls) :
    Traced asked (l :: ls) := by
  induction h with
  | nil => exact Traced.nil.snoc (.inl hasked)
  | snoc _ hl ih =>
    rw [← List.cons_append]
    refine ih.snoc (.inr ?_)
    rcases hl with hr | ⟨l', hl', hr⟩
    · exact ⟨l, List.mem_cons_self, hr⟩
    · exact ⟨l', List.mem_cons_of_mem l hl', hr⟩

/-- The first document has been asked for. -/
theorem head {l : Loaded} (h : Traced asked (l :: ls)) : asked l := by
  -- The list grows at its end, so the first document is that of the first step.
  generalize heq : l :: ls = all at h
  induction h generalizing ls with
  | nil => cases heq
  | @snoc before l' _ hl ih =>
    cases before with
    | nil =>
      cases heq
      exact hl.resolve_right fun ⟨_, hm, _⟩ => List.not_mem_nil hm
    | cons l₀ before =>
      cases heq
      exact ih rfl

end Traced

/-- What is known of documents that are loaded after others: each is what has been read, none of
them is there twice, their references lead to loaded documents, and each of them has been asked for
or has been read through a reference. -/
structure Brings (files : FileSystem) (limits : Limits) (asked : Loaded → Prop)
    (loaded new : List Loaded) : Prop where
  read : ∀ l ∈ new, l.ReadFrom files limits
  nodup : (loaded.map (·.key files)).Nodup → ((loaded ++ new).map (·.key files)).Nodup
  closed : ∀ l ∈ new, ∀ reference, l.document.Refers reference →
    Loaded.LeadsInto files l.location reference (loaded ++ new)
  traced : Traced asked new

namespace Brings

variable {files : FileSystem} {limits : Limits} {asked asked' : Loaded → Prop}
  {loaded new new' : List Loaded}

theorem nil (loaded : List Loaded) : Brings files limits asked loaded [] where
  read _ hl := absurd hl List.not_mem_nil
  nodup h := by rwa [List.append_nil]
  closed _ hl := absurd hl List.not_mem_nil
  traced := .nil

theorem mono (h : Brings files limits asked loaded new) (ha : ∀ l, asked l → asked' l) :
    Brings files limits asked' loaded new :=
  { h with traced := h.traced.mono ha }

theorem append (h : Brings files limits asked loaded new)
    (h' : Brings files limits asked (loaded ++ new) new') :
    Brings files limits asked loaded (new ++ new') where
  read l hl := (List.mem_append.mp hl).elim (h.read l) (h'.read l)
  nodup hn := by
    rw [← List.append_assoc]
    exact h'.nodup (h.nodup hn)
  closed l hl reference hr := by
    rw [← List.append_assoc]
    rcases List.mem_append.mp hl with hl | hl
    · exact (h.closed l hl reference hr).mono (List.subset_append_left _ _)
    · exact h'.closed l hl reference hr
  traced := h.traced.append h'.traced

/-- A document comes before those that its references bring. -/
theorem cons {l : Loaded} (hread : l.ReadFrom files limits)
    (hkey : l.key files ∉ loaded.map (·.key files)) (hasked : asked l)
    (hleads : ∀ reference, l.document.Refers reference →
      Loaded.LeadsInto files l.location reference (loaded ++ [l] ++ new))
    (h : Brings files limits l.RefersTo (loaded ++ [l]) new) :
    Brings files limits asked loaded (l :: new) where
  read l' hl' := by
    rcases List.mem_cons.mp hl' with rfl | hl'
    · exact hread
    · exact h.read l' hl'
  nodup hn := by
    rw [List.append_cons]
    apply h.nodup
    rw [List.map_append, List.map_singleton, ← List.concat_eq_append]
    exact hn.concat hkey
  closed l' hl' reference hr := by
    rw [List.append_cons]
    rcases List.mem_cons.mp hl' with rfl | hl'
    · exact hleads reference hr
    · exact h.closed l' hl' reference hr
  traced := .cons hasked h.traced

end Brings

namespace Loading

section References

variable {I : Loading → Prop} (hI : ∀ s log, I s → I { s with log := log }) {s : Loading}
include hI

/-- A child of the root makes the reference that is found, and no other. -/
theorem ends_reference? (context : Context) (child : Element) (h : I s) :
    Ends s (reference? context child) fun r s' => I s' ∧
      ∀ found, r = .ok found → ∀ reference, found = some reference ↔
        context.RefersBy child reference := by
  unfold reference?
  split
  · next hname =>
    rw [ends_bind, ends_liftExcept]
    unfold Context.required
    cases hlocation : child.attribute? "schemaLocation" with
    | none => exact ⟨h, ok_of_error⟩
    | some location =>
      refine ⟨h, ?_⟩
      rintro _ ⟨⟩ reference
      rw [refersBy_include_iff hname hlocation, Option.some_inj, eq_comm]
  · next hname =>
    dsimp only
    split
    · exact ⟨h, ok_of_error⟩
    · split
      · next location hlocation =>
        refine ⟨h, ?_⟩
        rintro _ ⟨⟩ reference
        rw [refersBy_import_iff hname hlocation, Option.some_inj, eq_comm]
      · next hlocation =>
        refine ⟨hI s _ h, ?_⟩
        rintro _ ⟨⟩ reference
        exact ⟨some_of_none _, fun hr => absurd hr (not_refersBy_of_none hlocation)⟩
  · exact ⟨h, ok_of_error⟩
  · next hinclude himport _ =>
    refine ⟨h, ?_⟩
    rintro _ ⟨⟩ reference
    exact ⟨some_of_none _, fun hr => absurd hr (not_refersBy_of_ne hinclude himport)⟩

/-- The references that are found are those that the document makes. -/
theorem ends_references (document : SchemaDocument) (h : I s) :
    Ends s (references document) fun r s' => I s' ∧
      ∀ found, r = .ok found → ∀ reference, reference ∈ found ↔ document.Refers reference := by
  unfold references
  rw [ends_bind]
  apply (ends_mapM (fun child s hs => ends_reference? hI document.context child hs) h).mono
  rintro (e | found) s' ⟨hs, hfound⟩
  · exact ⟨hs, ok_of_error⟩
  · refine ⟨hs, ?_⟩
    rintro _ ⟨⟩ reference
    obtain ⟨hmade, hback⟩ := hfound found rfl
    rw [List.mem_filterMap]
    constructor
    · rintro ⟨_, hm, rfl⟩
      obtain ⟨child, hchild, hr⟩ := hback _ hm
      exact ⟨child, hchild, (hr reference).mp rfl⟩
    · rintro ⟨child, hchild, hr⟩
      obtain ⟨found?, hm, hiff⟩ := hmade child hchild
      exact ⟨found?, hm, (hiff reference).mpr hr⟩

end References

/-- Looking for the references of a document changes nothing but the log. -/
theorem returns_references_eq (document : SchemaDocument) {s : Loading} :
    Returns s (references document) fun refs s' =>
      (∃ log, s' = { s with log := log }) ∧ refs = document.referenceList := by
  unfold references
  rw [returns_bind]
  refine Returns.mono (returns_mapM
    (I := fun s' => ∃ log, s' = { s with log := log })
    (P := fun c found _ _ => found = document.context.referenceOf? c)
    (Q := fun cs found _ _ => found.filterMap id = cs.filterMap document.context.referenceOf?)
    (fun _ _ => rfl) ?_ ?_ ⟨s.log, rfl⟩) ?_
  · rintro c cs _ founds _ _ _ rfl hfounds
    cases hfound : document.context.referenceOf? c with
    | none => rwa [List.filterMap_cons_none rfl, List.filterMap_cons_none hfound]
    | some reference =>
      rw [List.filterMap_cons_some hfound, ← hfounds]
      rfl
  · rintro c _ t ⟨log, rfl⟩
    have hkeeps : ∀ t log', (∃ log, t = { s with log := log }) →
        ∃ log, { t with log := log' } = { s with log := log } := by
      rintro _ log' ⟨log, rfl⟩
      exact ⟨log', rfl⟩
    refine ⟨(ends_reference? hkeeps document.context c ⟨log, rfl⟩).mono ?_⟩
    rintro r s' ⟨hs', hr⟩ found hfound
    refine ⟨hs', Option.ext fun reference => ?_⟩
    rw [hr found hfound, Context.referenceOf?_eq_some_iff]
  · rintro found s' ⟨hs', hfound⟩
    exact returns_pure.mpr ⟨hs', hfound⟩

/-! ## Loading -/

section Run

variable {files : FileSystem} {limits : Limits} {levels : Nat} {location : Location}
  {inclusion : Inclusion} {s t : Loading}

/-- All that loading can do when it succeeds: to skip what has been visited, or to read a document
and to follow its references. -/
theorem run_load_eq_ok_iff :
    (load files limits (levels + 1) location inclusion).run.run s = (.ok ⟨⟩, t) ↔
      (Source.key files location ∈ s.visited ∧ t = { s with
        log := s.log.add .trace
          s!"skipping already loaded schema document {Source.key files location}" }) ∨
      (Source.key files location ∉ s.visited ∧ ∃ document refs s₁,
        (⟨location, inclusion, document⟩ : Loaded).ReadFrom files limits ∧
        (references document).run.run
          { s with visited := Source.key files location :: s.visited } = (.ok refs, s₁) ∧
        (refs.forM fun reference => (do
            let target ← location.resolve reference.location
            load files limits levels target reference.inclusion : LoadM Unit)).run.run
          { s₁ with documents := s₁.documents.push document } = (.ok ⟨⟩, t)) := by
  -- Both directions follow the steps of the program, with the state between any two of them.
  rw [load, run_bind_eq]
  show (if Source.key files location ∈ s.visited then _ else _ : LoadM Unit).run.run s = _ ↔ _
  by_cases hkey : Source.key files location ∈ s.visited
  · rw [if_pos hkey]
    constructor
    · intro h
      exact .inl ⟨hkey, (congrArg Prod.snd h).symm⟩
    · rintro (⟨-, rfl⟩ | ⟨hnew, -⟩)
      · rfl
      · exact absurd hkey hnew
  · rw [if_neg hkey, run_bind_eq_ok_iff]
    constructor
    · rintro ⟨_, _, hvisit, h⟩
      cases hvisit
      obtain ⟨content, hcontent, h⟩ := run_liftExcept_bind_eq_ok_iff.mp h
      obtain ⟨document, hdocument, h⟩ := run_liftExcept_bind_eq_ok_iff.mp h
      obtain ⟨refs, s₁, hrefs, h⟩ := run_bind_eq_ok_iff.mp h
      obtain ⟨_, _, hpush, hforM⟩ := run_bind_eq_ok_iff.mp h
      cases hpush
      exact .inr ⟨hkey, document, refs, s₁, ⟨content, hcontent, hdocument⟩, hrefs, hforM⟩
    · rintro (⟨hold, -⟩ | ⟨-, document, refs, s₁, ⟨content, hcontent, hdocument⟩, hrefs, hforM⟩)
      · exact absurd hold hkey
      · refine ⟨⟨⟩, _, rfl, run_liftExcept_bind_eq_ok_iff.mpr ⟨content, hcontent, ?_⟩⟩
        refine run_liftExcept_bind_eq_ok_iff.mpr ⟨document, hdocument, ?_⟩
        refine run_bind_eq_ok_iff.mpr ⟨refs, s₁, hrefs, ?_⟩
        exact run_bind_eq_ok_iff.mpr ⟨⟨⟩, _, rfl, hforM⟩

end Run

/-- The documents that have been loaded are those that have been visited. -/
structure Holds (files : FileSystem) (s : Loading) (loaded : List Loaded) : Prop where
  documents_eq : s.documents.toList = loaded.map (·.document)
  mem_visited : ∀ k, k ∈ s.visited ↔ k ∈ loaded.map (·.key files)

section Load

variable {files : FileSystem} {limits : Limits}

theorem holds_start : Holds files start [] := ⟨rfl, fun _ => Iff.rfl⟩

/-- The record of what has been loaded is kept up with each document. -/
theorem Holds.push {s s' : Loading} {loaded : List Loaded} (h : Holds files s loaded) (l : Loaded)
    (hdocuments : s'.documents = s.documents.push l.document)
    (hvisited : s'.visited = l.key files :: s.visited) : Holds files s' (loaded ++ [l]) where
  documents_eq := by
    rw [hdocuments, Array.toList_push, h.documents_eq, List.map_append, List.map_singleton]
  mem_visited k := by
    rw [hvisited, List.mem_cons, h.mem_visited, List.map_append, List.map_singleton,
      List.mem_append, List.mem_singleton, or_comm]

/-- What is known of a reference that has been followed: the document it leads to is loaded, and so
are those that belong to it. -/
def Follows (files : FileSystem) (limits : Limits) (location : Location) (inclusion : Inclusion)
    (loaded : List Loaded) (s' : Loading) : Prop :=
  ∃ new, Holds files s' (loaded ++ new) ∧
    Brings files limits (fun l => l.location = location ∧ l.inclusion = inclusion) loaded new ∧
    ∃ l ∈ loaded ++ new, l.key files = Source.key files location

/-- What is known of the references of a document that have been followed. -/
def FollowsAll (files : FileSystem) (limits : Limits) (base : Location) (refs : List Reference)
    (loaded : List Loaded) (s' : Loading) : Prop :=
  ∃ new, Holds files s' (loaded ++ new) ∧
    Brings files limits (fun l => ∃ reference ∈ refs,
      base.resolve reference.location = .ok l.location ∧ reference.inclusion = l.inclusion)
      loaded new ∧
    ∀ reference ∈ refs, Loaded.LeadsInto files base reference (loaded ++ new)

/-- The documents of one reference come before those of the next ones. -/
theorem FollowsAll.cons {base target : Location} {reference : Reference} {refs : List Reference}
    {loaded new : List Loaded} {s' : Loading}
    (h : FollowsAll files limits base refs (loaded ++ new) s')
    (htarget : base.resolve reference.location = .ok target)
    (hnew : Brings files limits (fun l => l.location = target ∧ l.inclusion = reference.inclusion)
      loaded new)
    (hkey : ∃ l ∈ loaded ++ new, l.key files = Source.key files target) :
    FollowsAll files limits base (reference :: refs) loaded s' := by
  obtain ⟨new', hs', hnew', hleads⟩ := h
  rw [List.append_assoc] at hs'
  refine ⟨new ++ new', hs', .append (hnew.mono ?_) (hnew'.mono ?_), ?_⟩
  · rintro l ⟨hlocation, hinclusion⟩
    exact ⟨reference, List.mem_cons_self, by rw [htarget, hlocation], hinclusion.symm⟩
  · rintro l ⟨reference', hr, heq⟩
    exact ⟨reference', List.mem_cons_of_mem reference hr, heq⟩
  · rw [← List.append_assoc]
    intro reference' hr
    rcases List.mem_cons.mp hr with rfl | hr
    · obtain ⟨l, hl, hkey⟩ := hkey
      exact ⟨target, htarget, l, List.mem_append_left new' hl, hkey⟩
    · exact hleads reference' hr

/-- References are followed one after the other. -/
theorem ends_forM_load {levels : Nat}
    (ih : ∀ location inclusion {s loaded}, Holds files s loaded →
      Ends s (load files limits levels location inclusion) fun r s' => r = .ok ⟨⟩ →
        Follows files limits location inclusion loaded s')
    (base : Location) (refs : List Reference) {s : Loading} {loaded : List Loaded}
    (h : Holds files s loaded) :
    Ends s (refs.forM fun reference => (do
        let target ← base.resolve reference.location
        load files limits levels target reference.inclusion : LoadM Unit)) fun r s' => r = .ok ⟨⟩ →
      FollowsAll files limits base refs loaded s' := by
  induction refs generalizing s loaded with
  | nil => exact fun _ => ⟨[], by rwa [List.append_nil], .nil loaded, List.forall_mem_nil _⟩
  | cons reference refs ihrefs =>
    rw [List.forM]
    simp only [ends_bind, ends_liftExcept]
    cases htarget : base.resolve reference.location with
    | error e => rintro ⟨⟩
    | ok target =>
      apply (ih target reference.inclusion h).mono
      rintro (e | ⟨⟩) s₁ hfirst
      · rintro ⟨⟩
      · obtain ⟨new, hs₁, hnew, hkey⟩ := hfirst rfl
        apply (ihrefs hs₁).mono
        exact fun r s₂ hrest hok => (hrest hok).cons htarget hnew hkey

/-- A document that has been read comes before those of its references. -/
theorem FollowsAll.of_read {l : Loaded} {refs : List Reference} {loaded : List Loaded}
    {s' : Loading} (h : FollowsAll files limits l.location refs (loaded ++ [l]) s')
    (hread : l.ReadFrom files limits) (hkey : l.key files ∉ loaded.map (·.key files))
    (hrefs : ∀ reference, reference ∈ refs ↔ l.document.Refers reference) :
    Follows files limits l.location l.inclusion loaded s' := by
  obtain ⟨new, hs', hnew, hleads⟩ := h
  rw [← List.append_cons] at hs'
  refine ⟨l :: new, hs', .cons hread hkey ⟨rfl, rfl⟩ ?_ ?_, l,
    List.mem_append_right loaded List.mem_cons_self, rfl⟩
  · exact fun reference hr => hleads reference ((hrefs reference).mpr hr)
  · apply hnew.mono
    rintro l' ⟨reference, hr, hlocation, hinclusion⟩
    exact ⟨reference, (hrefs reference).mp hr, hlocation, hinclusion⟩

/-- A document is loaded with all that its references lead to, unless it has been loaded before. -/
theorem ends_load (levels : Nat) (location : Location) (inclusion : Inclusion) {s : Loading}
    {loaded : List Loaded} (h : Holds files s loaded) :
    Ends s (load files limits levels location inclusion) fun r s' => r = .ok ⟨⟩ →
      Follows files limits location inclusion loaded s' := by
  induction levels generalizing location inclusion s loaded with
  | zero => rintro ⟨⟩
  | succ levels ih =>
    unfold load
    simp only [ends_bind, ends_get]
    split
    · next hvisited =>
      intro _
      obtain ⟨l, hl, hkey⟩ := List.mem_map.mp ((h.mem_visited _).mp hvisited)
      refine ⟨[], ?_, .nil loaded, l, List.mem_append_left [] hl, hkey⟩
      rw [List.append_nil]
      exact ⟨h.documents_eq, h.mem_visited⟩
    · next hvisited =>
      simp only [ends_bind, ends_modify, ends_liftExcept]
      cases hcontent : Source.load files limits location with
      | error e => rintro ⟨⟩
      | ok content =>
        dsimp only
        cases hdocument : SchemaDocument.ofText limits (Source.key files location) inclusion
            content with
        | error e => rintro ⟨⟩
        | ok document =>
          dsimp only
          have hfind := ends_references
            (I := fun t => t.documents = s.documents ∧
              t.visited = Source.key files location :: s.visited)
            (s := { s with visited := Source.key files location :: s.visited })
            (fun _ _ ht => ht) document ⟨rfl, rfl⟩
          apply hfind.mono
          rintro (e | refs) s₁ ⟨⟨hdocuments, hvisited₁⟩, hrefs⟩
          · rintro ⟨⟩
          · let l : Loaded := ⟨location, inclusion, document⟩
            -- From here on the document counts as loaded, before any reference is followed.
            have hs₁ : Holds files { s₁ with documents := s₁.documents.push document }
                (loaded ++ [l]) :=
              h.push l (congrArg (Array.push · document) hdocuments) hvisited₁
            have hkey : l.key files ∉ loaded.map (·.key files) := fun hkey =>
              hvisited ((h.mem_visited _).mpr hkey)
            apply (ends_forM_load ih location refs hs₁).mono
            intro r s₂ hrest hok
            have hrest : FollowsAll files limits l.location refs (loaded ++ [l]) s₂ := hrest hok
            exact hrest.of_read ⟨content, hcontent, hdocument⟩ hkey (hrefs refs rfl)

end Load

end Loading

/-! ## All documents -/

/-- Documents that are loaded from a location, in order: each is what has been read, none is there
twice, the first one is that at the location, every other one has been read through a reference of
one before it, and every reference of one of them leads to one of them. -/
structure LoadedFrom (files : FileSystem) (limits : Limits) (location : Location)
    (loaded : List Loaded) : Prop where
  documents : (SchemaDocument.loadAll files limits location).1 = .ok (loaded.map (·.document))
  read : ∀ l ∈ loaded, l.ReadFrom files limits
  nodup : (loaded.map (·.key files)).Nodup
  first : ∃ l ∈ loaded, l.key files = Source.key files location
  traced : Traced (fun l => l.location = location ∧ l.inclusion = .root) loaded
  closed : ∀ l ∈ loaded, ∀ reference, l.document.Refers reference →
    Loaded.LeadsInto files l.location reference loaded

/-- Where documents are found, they are all that belong to the one at the location. -/
theorem exists_loadedFrom {files : FileSystem} {limits : Limits} {location : Location}
    {documents : List SchemaDocument}
    (h : (SchemaDocument.loadAll files limits location).1 = .ok documents) :
    ∃ loaded, LoadedFrom files limits location loaded ∧ documents = loaded.map (·.document) := by
  have hload : Ends Loading.start (Loading.load files limits (limits.schemaDepth + 1) location .root)
      fun r s' => r = .ok ⟨⟩ → Loading.Follows files limits location .root [] s' :=
    Loading.ends_load _ location .root Loading.holds_start
  unfold Ends Passes at hload
  have hall := h
  unfold SchemaDocument.loadAll at hall
  generalize (Loading.load files limits (limits.schemaDepth + 1) location .root).run.run .start =
    outcome at hload hall
  obtain ⟨result, final⟩ := outcome
  cases result with
  | error e => cases hall
  | ok _ =>
    cases hall
    obtain ⟨loaded, hs, hnew, hfirst⟩ := hload rfl
    rw [List.nil_append] at hs hfirst
    refine ⟨loaded, ?_, hs.documents_eq⟩
    rw [hs.documents_eq] at h
    exact ⟨h, hnew.read, hnew.nodup List.nodup_nil, hfirst, hnew.traced, hnew.closed⟩

end SchemaBinding.Xsd
