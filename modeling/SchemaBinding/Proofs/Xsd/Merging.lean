import SchemaBinding.Proofs.Xsd.Editions
import SchemaBinding.Proofs.Xsd.RespelledReading
import SchemaBinding.Proofs.Xsd.Traversal

/-!
# Inclusion as one document

A document includes others of its namespace and with its defaults, and no further documents belong
to it. It is read as the single document is that has its children, but for the references, and then
theirs: the same is declared in the same order in the same namespace, and names mean the same. The
sources of the schema are not the same, and nothing else depends on them.

## Main definitions

* `Xml.Element.SameWords`: elements in which the namespaces are declared in different ways at most
* `Xml.Element.SameSettings`: roots of one namespace and with the same defaults
* `Includes`: the documents that a document includes
* `Merges`: the root of a document with the children of several ones
* `SchemaSet.withoutSources`: a set but for the sources of its schemas

## Main results

* `SchemaDocument.loadAll_includes`: the documents that are loaded
* `Merges.declarations`: what they declare
* `SchemaSet.ofDocuments_set`: the set before anything is declared
* `SchemaSet.parse_merges`: the document and the single one are read alike
-/

namespace SchemaBinding.Xml.Element

/-- Two elements say the same in the same words: they have the same tags and attributes, and names
mean the same in them. The namespaces may have been declared in different ways. -/
inductive SameWords : Element → Element → Prop
  | intro {e e' : Element} : e.SameTag e' →
      (∀ name, e'.namespaces.resolve name = e.namespaces.resolve name) →
      List.Forall₂ SameWords e.children e'.children → SameWords e e'

theorem SameWords.refl (e : Element) : e.SameWords e :=
  .intro ⟨rfl, fun _ => rfl⟩ (fun _ => rfl) (List.forall₂_same.mpr fun c _ => refl c)
termination_by sizeOf e
decreasing_by exact Xsd.DraftM.sizeOf_lt_of_mem_children ‹_›

theorem SameWords.sameTag {e e' : Element} (h : e.SameWords e') : e.SameTag e' := by
  cases h
  assumption

theorem SameWords.resolve {e e' : Element} (h : e.SameWords e') (name : String) :
    e'.namespaces.resolve name = e.namespaces.resolve name := by
  cases h with
  | intro _ h => exact h name

theorem SameWords.children {e e' : Element} (h : e.SameWords e') :
    List.Forall₂ SameWords e.children e'.children := by
  cases h
  assumption

/-- Two roots are those of documents of one namespace, with the same defaults for local
declarations. -/
structure SameSettings (root root' : Element) : Prop where
  name : root'.name = root.name
  targetNamespace : (root'.attribute? "targetNamespace").getD "" =
    (root.attribute? "targetNamespace").getD ""
  elementFormDefault : (root'.attribute? "elementFormDefault" == some "qualified") =
    (root.attribute? "elementFormDefault" == some "qualified")
  attributeFormDefault : (root'.attribute? "attributeFormDefault" == some "qualified") =
    (root.attribute? "attributeFormDefault" == some "qualified")

instance (root root' : Element) : Decidable (root.SameSettings root') :=
  decidable_of_iff
    (root'.name = root.name ∧
      (root'.attribute? "targetNamespace").getD "" = (root.attribute? "targetNamespace").getD "" ∧
      (root'.attribute? "elementFormDefault" == some "qualified") =
        (root.attribute? "elementFormDefault" == some "qualified") ∧
      (root'.attribute? "attributeFormDefault" == some "qualified") =
        (root.attribute? "attributeFormDefault" == some "qualified"))
    ⟨fun h => ⟨h.1, h.2.1, h.2.2.1, h.2.2.2⟩, fun h => ⟨h.1, h.2, h.3, h.4⟩⟩

theorem SameSettings.symm {root root' : Element} (h : root.SameSettings root') :
    root'.SameSettings root :=
  ⟨h.1.symm, h.2.symm, h.3.symm, h.4.symm⟩

theorem SameSettings.trans {root root' root'' : Element} (h : root.SameSettings root')
    (h' : root'.SameSettings root'') : root.SameSettings root'' :=
  ⟨h'.1.trans h.1, h'.2.trans h.2, h'.3.trans h.3, h'.4.trans h.4⟩

/-- The root of a schema. -/
def IsSchema (root : Element) : Prop :=
  root.localName = "schema" ∧ root.name.namespaceUri = some Xsd.schemaNamespace

/-- Whether an element is a schema is one of its settings. -/
theorem SameSettings.isSchema_iff {root root' : Element} (h : root.SameSettings root') :
    root'.IsSchema ↔ root.IsSchema := by
  unfold IsSchema localName
  rw [h.name]

end SchemaBinding.Xml.Element

namespace SchemaBinding

/-- What a location holds is what is read from it. -/
theorem Location.Holds.readFrom {files : FileSystem} {limits : Limits} {location : Location}
    {root : Xml.Element} (h : location.Holds files limits root) {inclusion : Xsd.Inclusion}
    {document : Xsd.SchemaDocument}
    (hdocument : Xsd.SchemaDocument.ofRoot (Source.key files location) inclusion root =
      .ok document) :
    (⟨location, inclusion, document⟩ : Xsd.Loaded).ReadFrom files limits := by
  obtain ⟨content, parsed, hcontent, hparsed, hroot⟩ := h
  refine ⟨content, hcontent, ?_⟩
  rwa [Xsd.SchemaDocument.ofText_eq_ofRoot hparsed hroot]

theorem Location.Holds.ofRoot_of_readFrom {files : FileSystem} {limits : Limits}
    {location : Location} {root : Xml.Element} (h : location.Holds files limits root)
    {inclusion : Xsd.Inclusion} {document : Xsd.SchemaDocument}
    (hread : (⟨location, inclusion, document⟩ : Xsd.Loaded).ReadFrom files limits) :
    Xsd.SchemaDocument.ofRoot (Source.key files location) inclusion root = .ok document := by
  obtain ⟨content, parsed, hcontent, hparsed, hroot⟩ := h
  obtain ⟨content', hcontent', hdocument⟩ := hread
  cases hcontent.symm.trans hcontent'
  rwa [Xsd.SchemaDocument.ofText_eq_ofRoot hparsed hroot] at hdocument

namespace Xsd

open Xml (Element)

/-! ## Contexts -/

namespace Context

/-- The context of a document that is no chameleon. -/
def ofRoot (source : String) (root : Element) : Context where
  targetNamespace := (root.attribute? "targetNamespace").getD ""
  isChameleon := false
  elementsQualified := root.attribute? "elementFormDefault" == some "qualified"
  attributesQualified := root.attribute? "attributeFormDefault" == some "qualified"
  source := source

/-- Schemas with the same settings are read in alike contexts. -/
theorem alike_ofRoot {root root' : Element} (h : root.SameSettings root')
    (source source' : String) : (ofRoot source root).Alike (ofRoot source' root') :=
  ⟨h.targetNamespace, rfl, h.elementFormDefault, h.attributeFormDefault⟩

theorem Alike.sameSettings {context context' : Context} (h : context.Alike context') :
    context.SameSettings context' :=
  ⟨h.targetNamespace, h.elementsQualified, h.attributesQualified⟩

end Context

/-- The same words say the same, where names without a namespace are in the same one. -/
theorem respelled_of_sameWords {context context' : Context} (h : context.Alike context')
    {e e' : Element} (he : e.SameWords e') : Respelled context context' e e' := by
  refine .intro he.sameTag (fun reference => ?_) ?_
  · unfold Context.resolve
    rw [he.resolve, h.isChameleon, h.targetNamespace]
  · have hchildren := (List.forall₂_and_left e.children e'.children).mpr
      ⟨fun _ hc => hc, he.children⟩
    exact hchildren.imp fun c c' hc => respelled_of_sameWords h hc.2
termination_by sizeOf e
decreasing_by exact DraftM.sizeOf_lt_of_mem_children hc.1

/-! ## Loading -/

theorem not_mem_referringTags_iff {tag : String} :
    tag ∉ referringTags ↔ tag ≠ "include" ∧ tag ≠ "import" ∧ tag ≠ "redefine" := by
  simp [referringTags]

namespace SchemaDocument

variable {source : String} {root : Element}

theorem ofRoot_root (h : root.IsSchema) :
    ofRoot source .root root = .ok ⟨root, .ofRoot source root⟩ := by
  unfold ofRoot
  rw [if_neg (not_or.mpr ⟨not_not.mpr h.1, not_not.mpr h.2⟩)]
  rfl

/-- A document is included into a schema of its own namespace as it stands. -/
theorem ofRoot_included (h : root.IsSchema) :
    ofRoot source (.included ((root.attribute? "targetNamespace").getD "")) root =
      .ok ⟨root, .ofRoot source root⟩ := by
  unfold ofRoot
  rw [if_neg (not_or.mpr ⟨not_not.mpr h.1, not_not.mpr h.2⟩)]
  unfold Inclusion.targetNamespace Context.ofRoot
  cases root.attribute? "targetNamespace" with
  | none => rfl
  | some uri =>
    dsimp only [Option.getD_some]
    rw [if_pos rfl]
    rfl

theorem isSchema_of_ofRoot {inclusion : Inclusion} {document : SchemaDocument}
    (h : ofRoot source inclusion root = .ok document) : root.IsSchema := by
  unfold ofRoot at h
  split at h
  · cases h
  · next hschema =>
    rw [not_or, not_not, not_not] at hschema
    exact hschema

end SchemaDocument

namespace Loading

variable {files : FileSystem} {limits : Limits}

/-- A document that makes no references but to included documents. -/
theorem references_eq_pure {document : SchemaDocument} {places : List String}
    (hplaces : (document.root.childrenNamed "include").map (·.attribute? "schemaLocation") =
      places.map some)
    (hothers : ∀ c ∈ document.root.children, c.localName ≠ "import" ∧ c.localName ≠ "redefine") :
    references document = pure (places.map fun place =>
      ⟨place, .included document.context.targetNamespace⟩) := by
  have hfilter : (document.root.children.filter fun c => decide (c.localName ∈ referringTags)) =
      document.root.childrenNamed "include" := by
    refine List.filter_congr fun c hc => ?_
    have hc := hothers c hc
    rw [Bool.eq_iff_iff]
    simp [referringTags, hc.1, hc.2]
  have hnames : ∀ c ∈ document.root.childrenNamed "include", c.localName = "include" := by
    intro c hc
    simpa using (List.mem_filter.mp hc).2
  -- By induction on the children that include something, with the places that they name.
  rw [references_eq, hfilter]
  generalize document.root.childrenNamed "include" = cs at hplaces hnames
  induction cs generalizing places with
  | nil =>
    obtain rfl : places = [] := List.map_eq_nil_iff.mp hplaces.symm
    rfl
  | cons c cs ih =>
    cases places with
    | nil => cases hplaces
    | cons place places =>
      rw [List.map_cons, List.map_cons, List.cons.injEq] at hplaces
      have hreference : reference? document.context c =
          pure (some ⟨place, .included document.context.targetNamespace⟩) := by
        unfold reference?
        rw [hnames c List.mem_cons_self]
        unfold Context.required
        simp only [hplaces.1]
        rfl
      rw [filterMap_mapM_cons, hreference, pure_bind,
        ih hplaces.2 fun c hc => hnames c (List.mem_cons_of_mem _ hc), pure_bind]
      rfl

/-- A document without inclusions and imports refers to no other one. -/
theorem references_eq_nil {document : SchemaDocument}
    (h : ∀ c ∈ document.root.children, c.localName ∉ referringTags) :
    references document = pure [] := by
  rw [references_eq, List.filter_eq_nil_iff.mpr fun c hc => by simpa using h c hc]
  rfl

/-- A document that makes no references is all that is loaded from its location. -/
theorem run_load_of_closed (levels : Nat) {target : Location} {root : Element} {s : Loading}
    (hroot : target.Holds files limits root) (hschema : root.IsSchema)
    (hclosed : ∀ c ∈ root.children, c.localName ∉ referringTags)
    (hnew : Source.key files target ∉ s.visited) :
    (load files limits (levels + 1) target
        (.included ((root.attribute? "targetNamespace").getD ""))).run.run s =
      (.ok ⟨⟩, { s with
        documents := s.documents.push ⟨root, .ofRoot (Source.key files target) root⟩
        visited := Source.key files target :: s.visited }) := by
  refine run_load_eq_ok_iff.mpr (.inr ⟨hnew, _, [],
    { s with visited := Source.key files target :: s.visited },
    hroot.readFrom (SchemaDocument.ofRoot_included hschema), ?_, rfl⟩)
  rw [references_eq_nil hclosed]
  rfl

/-- Documents that make no references are loaded one after the other. -/
theorem exists_run_forM_load {levels : Nat} {location : Location} {uri : String}
    {places : List String} {targets : List Location} {roots : List Element} {s : Loading}
    (hplaces : places.mapM location.resolve = .ok targets)
    (hroots : List.Forall₂ (Location.Holds files limits) targets roots)
    (hkeys : (targets.map (Source.key files)).Nodup)
    (hnew : ∀ target ∈ targets, Source.key files target ∉ s.visited)
    (hdepth : targets = [] ∨ 1 ≤ levels)
    (hschema : ∀ root ∈ roots, root.IsSchema ∧
      (root.attribute? "targetNamespace").getD "" = uri)
    (hclosed : ∀ root ∈ roots, ∀ c ∈ root.children, c.localName ∉ referringTags) :
    ∃ s' documents, ((places.map fun place => (⟨place, .included uri⟩ : Reference)).forM
        fun reference => do
          let target ← location.resolve reference.location
          load files limits levels target reference.inclusion : LoadM Unit).run.run s =
        (.ok ⟨⟩, s') ∧
      s'.documents.toList = s.documents.toList ++ documents ∧
      List.Forall₂ (fun root document => ∃ source, document = ⟨root, .ofRoot source root⟩) roots
        documents := by
  induction places generalizing targets roots s with
  | nil =>
    cases hplaces
    cases hroots
    exact ⟨s, [], rfl, (List.append_nil _).symm, .nil⟩
  | cons place places ih =>
    rw [List.mapM_cons] at hplaces
    obtain ⟨target, htarget, hplaces⟩ := bind_eq_ok_iff.mp hplaces
    obtain ⟨rest, hrest, hplaces⟩ := bind_eq_ok_iff.mp hplaces
    cases hplaces
    cases hroots with
    | @cons _ root _ roots hroot hroots =>
      obtain ⟨levels, rfl⟩ : ∃ k, levels = k + 1 :=
        Nat.exists_eq_add_of_le' (hdepth.resolve_left nofun)
      obtain ⟨hisSchema, rfl⟩ := hschema root List.mem_cons_self
      have hload := run_load_of_closed levels hroot hisSchema
        (hclosed root List.mem_cons_self) (hnew target List.mem_cons_self)
      rw [List.map_cons, List.nodup_cons] at hkeys
      have hnew' : ∀ t ∈ rest, Source.key files t ∉ Source.key files target :: s.visited := by
        intro t ht hmem
        rcases List.mem_cons.mp hmem with heq | hmem
        · exact hkeys.1 (List.mem_map.mpr ⟨t, ht, heq⟩)
        · exact hnew t (List.mem_cons_of_mem _ ht) hmem
      obtain ⟨s', documents, hrun, hdocuments, hall⟩ := ih (s := { s with
          documents := s.documents.push ⟨root, .ofRoot (Source.key files target) root⟩
          visited := Source.key files target :: s.visited }) hrest hroots hkeys.2 hnew'
        (.inr (Nat.le_add_left 1 levels)) (fun r hr => hschema r (List.mem_cons_of_mem _ hr))
        fun r hr => hclosed r (List.mem_cons_of_mem _ hr)
      refine ⟨s', ⟨root, .ofRoot (Source.key files target) root⟩ :: documents, ?_, ?_,
        .cons ⟨_, rfl⟩ hall⟩
      · rw [List.map_cons]
        exact run_bind_eq_ok_iff.mpr ⟨⟨⟩, _,
          run_liftExcept_bind_eq_ok_iff.mpr ⟨target, htarget, hload⟩, hrun⟩
      · rw [hdocuments, Array.toList_push, List.append_assoc]
        rfl

end Loading

/-- A document includes others. Its references lead to them, each of them is from a source of its
own, all are of one namespace and have the same defaults, and no further documents belong to
them. -/
structure Includes (files : FileSystem) (limits : Limits) (location : Location) (root : Element)
    (targets : List Location) (roots : List Element) : Prop where
  holds : location.Holds files limits root
  included : List.Forall₂ (Location.Holds files limits) targets roots
  leads : ∃ places : List String,
    (root.childrenNamed "include").map (·.attribute? "schemaLocation") = places.map some ∧
    places.mapM location.resolve = .ok targets
  keys : ((location :: targets).map (Source.key files)).Nodup
  depth : targets = [] ∨ 1 ≤ limits.schemaDepth
  settings : ∀ root' ∈ roots, root.SameSettings root'
  others : ∀ c ∈ root.children, c.localName ≠ "import" ∧ c.localName ≠ "redefine"
  closed : ∀ root' ∈ roots, ∀ c ∈ root'.children, c.localName ∉ referringTags

/-- A document that refers to no other one includes none. -/
theorem includes_nil {files : FileSystem} {limits : Limits} {location : Location} {root : Element}
    (hroot : location.Holds files limits root)
    (hclosed : ∀ c ∈ root.children, c.localName ∉ referringTags) :
    Includes files limits location root [] [] where
  holds := hroot
  included := .nil
  leads := by
    refine ⟨[], ?_, rfl⟩
    unfold Element.childrenNamed
    rw [List.filter_eq_nil_iff.mpr fun c hc => by
      simpa using (not_mem_referringTags_iff.mp (hclosed c hc)).1]
    rfl
  keys := List.nodup_singleton _
  depth := .inl rfl
  settings := nofun
  others c hc := (not_mem_referringTags_iff.mp (hclosed c hc)).2
  closed := nofun

section Includes

variable {files : FileSystem} {limits : Limits} {location : Location} {root : Element}
  {targets : List Location} {roots : List Element}
  (h : Includes files limits location root targets roots)
include h

/-- The document comes first, and those that it includes come in the order of the references. -/
theorem SchemaDocument.loadAll_includes (hschema : root.IsSchema) :
    ∃ documents log, loadAll files limits location =
        (.ok (⟨root, .ofRoot (Source.key files location) root⟩ :: documents), log) ∧
      List.Forall₂ (fun root document => ∃ source, document = ⟨root, .ofRoot source root⟩) roots
        documents := by
  obtain ⟨places, hplaces, htargets⟩ := h.leads
  have hkeys := h.keys
  rw [List.map_cons, List.nodup_cons] at hkeys
  have hrefs : Loading.references ⟨root, .ofRoot (Source.key files location) root⟩ =
      pure (places.map fun place =>
        ⟨place, .included ((root.attribute? "targetNamespace").getD "")⟩) :=
    Loading.references_eq_pure hplaces h.others
  have hnew : ∀ target ∈ targets, Source.key files target ∉ [Source.key files location] := by
    intro target htarget hmem
    obtain heq := List.mem_singleton.mp hmem
    exact hkeys.1 (List.mem_map.mpr ⟨target, htarget, heq⟩)
  obtain ⟨s', documents, hforM, hdocuments, hall⟩ := Loading.exists_run_forM_load
    (s := { Loading.start with
      documents := Loading.start.documents.push ⟨root, .ofRoot (Source.key files location) root⟩
      visited := [Source.key files location] })
    htargets h.included hkeys.2 hnew h.depth
    (fun root' hroot' => ⟨(h.settings root' hroot').isSchema_iff.mpr hschema,
      (h.settings root' hroot').targetNamespace⟩)
    h.closed
  have hrun : (Loading.load files limits (limits.schemaDepth + 1) location .root).run.run .start =
      (.ok ⟨⟩, s') := by
    refine Loading.run_load_eq_ok_iff.mpr (.inr ⟨nofun, _, _,
      { Loading.start with visited := [Source.key files location] },
      h.holds.readFrom (SchemaDocument.ofRoot_root hschema), ?_, hforM⟩)
    rw [hrefs]
    rfl
  refine ⟨documents, s'.log, ?_, hall⟩
  unfold loadAll
  rw [hrun]
  show (Except.ok s'.documents.toList, s'.log) = _
  rw [hdocuments]
  rfl

end Includes

/-- The root of a document has the children of a root, but for the references to included documents,
and then those of other roots. -/
structure Merges (root : Element) (roots : List Element) (merged : Element) : Prop where
  settings : root.SameSettings merged
  children : List.Forall₂ Element.SameWords
    (root.children.filter (·.localName ≠ "include") ++ roots.flatMap Element.children)
    merged.children

section Merges

variable {root merged : Element} {roots : List Element} (hmerges : Merges root roots merged)
include hmerges

/-- The single document refers to no other one. -/
theorem Merges.closed
    (hothers : ∀ c ∈ root.children, c.localName ≠ "import" ∧ c.localName ≠ "redefine")
    (hclosed : ∀ root' ∈ roots, ∀ c ∈ root'.children, c.localName ∉ referringTags) :
    ∀ c ∈ merged.children, c.localName ∉ referringTags := by
  intro c' hc'
  obtain ⟨c, hc, hwords⟩ := exists_of_forall₂ hmerges.children.flip hc'
  rw [hwords.sameTag.localName]
  rcases List.mem_append.mp hc with hc | hc
  · rw [List.mem_filter] at hc
    exact not_mem_referringTags_iff.mpr ⟨by simpa using hc.2, hothers c hc.1⟩
  · obtain ⟨root', hroot', hc⟩ := List.mem_flatMap.mp hc
    exact hclosed root' hroot' c hc

omit hmerges in
/-- Children with the same words say the same in documents with the same settings. -/
theorem forall₂_respelled {items : List (Context × Element)} {es : List Element}
    {context : Context} (hcontexts : ∀ item ∈ items, item.1.Alike context)
    (h : List.Forall₂ Element.SameWords (items.map Prod.snd) es) :
    List.Forall₂ SchemaDocument.Respelled items (es.map (Prod.mk context)) := by
  rw [List.forall₂_map_left_iff] at h
  rw [List.forall₂_map_right_iff]
  refine ((List.forall₂_and_left _ _).mpr ⟨hcontexts, h⟩).imp ?_
  rintro ⟨_, _⟩ e' ⟨hcontext, hwords⟩
  exact ⟨hcontext.sameSettings, respelled_of_sameWords hcontext hwords⟩

/-- The documents declare what the single document declares. -/
theorem Merges.declarations (source source' : String) {documents : List SchemaDocument}
    (hsettings : ∀ root' ∈ roots, root.SameSettings root')
    (hclosed : ∀ root' ∈ roots, ∀ c ∈ root'.children, c.localName ∉ referringTags)
    (hdocuments : List.Forall₂
      (fun root document => ∃ source, document = ⟨root, .ofRoot source root⟩) roots documents) :
    List.Forall₂ SchemaDocument.Respelled
      (SchemaDocument.declarations (⟨root, .ofRoot source root⟩ :: documents))
      (SchemaDocument.declarations [⟨merged, .ofRoot source' merged⟩]) := by
  have hroots : documents.flatMap (·.root.children) = roots.flatMap Element.children := by
    clear hsettings hclosed hmerges
    induction hdocuments with
    | nil => rfl
    | cons hd _ ih =>
      obtain ⟨_, rfl⟩ := hd
      rw [List.flatMap_cons, List.flatMap_cons, ih]
  have hkept : (roots.flatMap Element.children).filter (·.localName ≠ "include") =
      roots.flatMap Element.children := by
    refine List.filter_eq_self.mpr fun c hc => ?_
    obtain ⟨root', hroot', hc⟩ := List.mem_flatMap.mp hc
    simpa using (not_mem_referringTags_iff.mp (hclosed root' hroot' c hc)).1
  have hchildren : ((SchemaDocument.items (⟨root, .ofRoot source root⟩ :: documents)).filter
        (·.2.localName ≠ "include")).map Prod.snd =
      root.children.filter (·.localName ≠ "include") ++ roots.flatMap Element.children := by
    have hsnd : (SchemaDocument.items (⟨root, .ofRoot source root⟩ :: documents)).map Prod.snd =
        root.children ++ roots.flatMap Element.children := by
      unfold SchemaDocument.items
      rw [List.map_flatMap, List.flatMap_cons, ← hroots]
      simp only [List.map_map, Function.comp_def, List.map_id']
    rw [← hkept, ← List.filter_append, ← hsnd, List.filter_map]
    rfl
  have hcontexts : ∀ item ∈ (SchemaDocument.items
      (⟨root, .ofRoot source root⟩ :: documents)).filter (·.2.localName ≠ "include"),
      item.1.Alike (.ofRoot source' merged) := by
    intro item hitem
    obtain ⟨document, hdocument, hitem⟩ := List.mem_flatMap.mp (List.mem_filter.mp hitem).1
    obtain ⟨c, -, rfl⟩ := List.mem_map.mp hitem
    rcases List.mem_cons.mp hdocument with rfl | hdocument
    · exact Context.alike_ofRoot hmerges.settings source source'
    · obtain ⟨root', hroot', s, rfl⟩ := exists_of_forall₂ hdocuments.flip hdocument
      exact Context.alike_ofRoot ((hsettings root' hroot').symm.trans hmerges.settings) s source'
  have hitems : SchemaDocument.items [⟨merged, .ofRoot source' merged⟩] =
      merged.children.map (Prod.mk (.ofRoot source' merged)) := by
    unfold SchemaDocument.items
    rw [List.flatMap_cons, List.flatMap_nil, List.append_nil]
  have hall := forall₂_respelled hcontexts (hchildren ▸ hmerges.children)
  have hsilent : SchemaDocument.declarations (⟨root, .ofRoot source root⟩ :: documents) =
      ((SchemaDocument.items (⟨root, .ofRoot source root⟩ :: documents)).filter
        (·.2.localName ≠ "include")).filter fun item => item.2.localName ∉ silentTags := by
    unfold SchemaDocument.declarations
    rw [List.filter_filter]
    refine List.filter_congr fun item _ => ?_
    rw [Bool.eq_iff_iff]
    simp only [silentTags, List.mem_cons, not_or, decide_eq_true_eq, Bool.and_eq_true]
    exact ⟨fun h => ⟨h, h.1⟩, And.left⟩
  rw [hsilent]
  unfold SchemaDocument.declarations
  rw [hitems]
  refine List.rel_filter (fun item item' h => ?_) hall
  simp [h.element.localName]

end Merges

/-! ## Schema sets -/

/-- The schema with further sources. -/
def Schema.withSources (s : Schema) (sources : List String) : Schema :=
  { s with sources := s.sources ++ sources }

namespace SchemaSet

/-- A schema set without the sources of its schemas. -/
def withoutSources (set : SchemaSet) : SchemaSet :=
  { set with schemas := set.schemas.map fun s => { s with sources := [] } }

/-- Sets that are the same but for the sources of their schemas. -/
theorem Alike.withoutSources_eq {S : List String → List String → Prop} {set set' : SchemaSet}
    (h : set.Alike S set') : set'.withoutSources = set.withoutSources := by
  unfold withoutSources
  rw [h.types, h.elements, h.attributes]
  congr 1
  have hschemas := h.schemas
  generalize set.schemas = ss at hschemas
  generalize set'.schemas = ss' at hschemas
  induction hschemas with
  | nil => rfl
  | @cons s s' ss ss' hs _ ih =>
    rw [List.map_cons, List.map_cons, ih, hs.namespaceUri, hs.elements, hs.attributes, hs.types]

/-- The second of two changes of a schema follows the first one. -/
theorem modifySchema_modifySchema (set : SchemaSet) (uri : String) {f g : Schema → Schema}
    (hf : ∀ s, (f s).namespaceUri = s.namespaceUri) :
    (set.modifySchema uri f).modifySchema uri g = set.modifySchema uri fun s => g (f s) := by
  have hschemas : ∀ ss : List Schema,
      modifySchemas uri g (modifySchemas uri f ss) = modifySchemas uri (fun s => g (f s)) ss := by
    intro ss
    induction ss with
    | nil =>
      have h : (f (Schema.empty uri)).namespaceUri = uri := hf _
      rw [modifySchemas, modifySchemas, modifySchemas, if_pos h]
    | cons s ss ih =>
      rw [modifySchemas, modifySchemas]
      split
      · next h => rw [modifySchemas, if_pos ((hf s).trans h)]
      · next h => rw [modifySchemas, if_neg h, ih]
  exact congrArg (fun schemas => { set with schemas := schemas }) (hschemas set.schemas)

/-- Before anything is declared, documents of one namespace give a schema with their sources. -/
theorem ofDocuments_set {uri : String} {document : SchemaDocument}
    {documents : List SchemaDocument}
    (h : ∀ d ∈ document :: documents, d.context.targetNamespace = uri) (log : Log) :
    (Draft.ofDocuments (document :: documents) log).set = builtin.modifySchema uri
      (·.withSources ((document :: documents).map (·.context.source))) := by
  have hfold : ∀ (ds : List SchemaDocument) (sources : List String),
      (∀ d ∈ ds, d.context.targetNamespace = uri) →
      ds.foldl (fun set d => set.modifySchema d.context.targetNamespace
          (·.withSources [d.context.source])) (builtin.modifySchema uri (·.withSources sources)) =
        builtin.modifySchema uri (·.withSources (sources ++ ds.map (·.context.source))) := by
    intro ds
    induction ds with
    | nil => exact fun sources _ => by rw [List.map_nil, List.append_nil, List.foldl_nil]
    | cons d ds ih =>
      intro sources hds
      have hjoin : (fun s : Schema => (s.withSources sources).withSources [d.context.source]) =
          (·.withSources (sources ++ [d.context.source])) := by
        funext s
        unfold Schema.withSources
        rw [List.append_assoc]
      have hkeeps : ∀ s : Schema, (s.withSources sources).namespaceUri = s.namespaceUri :=
        fun _ => rfl
      rw [List.foldl_cons, hds d List.mem_cons_self, modifySchema_modifySchema builtin uri hkeeps,
        hjoin,
        ih _ fun d' hd' => hds d' (List.mem_cons_of_mem _ hd'), List.append_assoc]
      rfl
  show (document :: documents).foldl (fun set d => set.modifySchema d.context.targetNamespace
    (·.withSources [d.context.source])) builtin = _
  rw [List.foldl_cons, h document List.mem_cons_self]
  exact hfold documents [document.context.source] fun d hd => h d (List.mem_cons_of_mem _ hd)

/-- Before anything is declared, documents of one namespace differ in their sources only. -/
theorem alike_ofDocuments {document document' : SchemaDocument}
    {documents documents' : List SchemaDocument} {uri : String}
    (h : ∀ d ∈ document :: documents, d.context.targetNamespace = uri)
    (h' : ∀ d ∈ document' :: documents', d.context.targetNamespace = uri) (log log' : Log) :
    (Draft.ofDocuments (document :: documents) log).set.Alike (fun _ _ => True)
      (Draft.ofDocuments (document' :: documents') log').set := by
  rw [ofDocuments_set h, ofDocuments_set h']
  exact (Alike.refl (fun _ => trivial) builtin).modifySchema trivial uri fun s s' hs => { hs with }

/-- A document that is no schema is refused. -/
theorem isSchema_of_parse {files : FileSystem} {limits : Limits} {location : Location}
    {root : Element} (hroot : location.Holds files limits root) {set : SchemaSet}
    (h : (parse files limits location).1 = .ok set) : root.IsSchema := by
  obtain ⟨documents, log, -, hload, -⟩ := exists_of_parse h
  obtain ⟨loaded, hloaded, -⟩ := exists_loadedFrom (congrArg Prod.fst hload)
  cases loaded with
  | nil =>
    obtain ⟨_, hfirst, -⟩ := hloaded.first
    cases hfirst
  | cons l loaded =>
    obtain ⟨rfl, -⟩ := hloaded.traced.head
    exact SchemaDocument.isSchema_of_ofRoot
      (hroot.ofRoot_of_readFrom (hloaded.read l List.mem_cons_self))

/-- Documents of one namespace are accepted when others are that declare the same in it. -/
theorem exists_parse_of_namespace {files files' : FileSystem} {limits : Limits}
    {location location' : Location} {document document' : SchemaDocument}
    {documents documents' : List SchemaDocument} {log log' : Log} {uri : String}
    (hload : SchemaDocument.loadAll files limits location = (.ok (document :: documents), log))
    (hload' : SchemaDocument.loadAll files' limits location' =
      (.ok (document' :: documents'), log'))
    (huri : ∀ d ∈ document :: documents, d.context.targetNamespace = uri)
    (huri' : ∀ d ∈ document' :: documents', d.context.targetNamespace = uri)
    (hdeclarations : List.Forall₂ SchemaDocument.Respelled
      (SchemaDocument.declarations (document :: documents))
      (SchemaDocument.declarations (document' :: documents')))
    {set : SchemaSet} (h : (parse files limits location).1 = .ok set) :
    ∃ set', (parse files' limits location').1 = .ok set' ∧
      set'.withoutSources = set.withoutSources := by
  obtain ⟨set', hset', halike⟩ := exists_parse_of_respelled hload hload' trivial
    (alike_ofDocuments huri huri' log log') hdeclarations h
  exact ⟨set', hset', halike.withoutSources_eq⟩

/-- A document that includes others of its namespace and with its defaults is accepted just when the
single document is that has the children of all of them. The schema sets are the same but for the
sources of their schemas. -/
theorem parse_merges {files files' : FileSystem} {limits : Limits} {location location' : Location}
    {root merged : Element} {targets : List Location} {roots : List Element}
    (h : Includes files limits location root targets roots) (hmerges : Merges root roots merged)
    (hmerged : location'.Holds files' limits merged) :
    (parse files limits location).1.toOption.map withoutSources =
      (parse files' limits location').1.toOption.map withoutSources := by
  by_cases hschema : root.IsSchema
  · have hschema' : merged.IsSchema := hmerges.settings.isSchema_iff.mpr hschema
    obtain ⟨documents, log, hload, hdocuments⟩ := SchemaDocument.loadAll_includes h hschema
    obtain ⟨_, log', hload', hnone⟩ := SchemaDocument.loadAll_includes
      (includes_nil hmerged (hmerges.closed h.others h.closed)) hschema'
    cases hnone
    have hdeclarations := hmerges.declarations (Source.key files location)
      (Source.key files' location') h.settings h.closed hdocuments
    have huri : ∀ d ∈ SchemaDocument.mk root (.ofRoot (Source.key files location) root) ::
        documents, d.context.targetNamespace = (root.attribute? "targetNamespace").getD "" := by
      intro d hd
      rcases List.mem_cons.mp hd with rfl | hd
      · rfl
      · obtain ⟨root', hroot', _, rfl⟩ := exists_of_forall₂ hdocuments.flip hd
        exact (h.settings root' hroot').targetNamespace
    have huri' : ∀ d ∈ [SchemaDocument.mk merged (.ofRoot (Source.key files' location') merged)],
        d.context.targetNamespace = (root.attribute? "targetNamespace").getD "" := by
      intro d hd
      obtain rfl := List.mem_singleton.mp hd
      exact hmerges.settings.targetNamespace
    exact toOption_map_eq
      (fun set hset => exists_parse_of_namespace hload hload' huri huri' hdeclarations hset)
      fun set hset => exists_parse_of_namespace hload' hload huri' huri
        (hdeclarations.flip.imp fun _ _ hitem => ⟨hitem.context.symm, hitem.element.symm⟩) hset
  · have hschema' : ¬ merged.IsSchema := fun hs => hschema (hmerges.settings.isSchema_iff.mp hs)
    exact toOption_map_eq (fun set hset => absurd (isSchema_of_parse h.holds hset) hschema)
      fun set hset => absurd (isSchema_of_parse hmerged hset) hschema'

/-- The scope of the roots of some documents. -/
def partScope : Xml.NamespaceContext := plainScope.declare "t" "t"

/-- A document with some children. -/
def partOf (children : List Element) : Element :=
  schemaElement partScope "schema" [("targetNamespace", "t")] children

/-- A reference to an included document. -/
def inclusionOf (place : String) : Element :=
  schemaElement partScope "include" [("schemaLocation", place)] []

/-- An element, a type and a group that refer to each other. -/
def circularParts : Element × Element × Element :=
  (schemaElement partScope "element" [("name", "r"), ("type", "t:T")] [],
    schemaElement partScope "complexType" [("name", "T")]
      [schemaElement partScope "group" [("ref", "t:g")] []],
    schemaElement partScope "group" [("name", "g")]
      [schemaElement partScope "sequence" []
        [schemaElement partScope "element" [("ref", "t:r"), ("minOccurs", "0")] []]])

/-- The text of a document, from those of its children. -/
def partText (children : List String) : String :=
  "<x:schema xmlns:x=\"http://www.w3.org/2001/XMLSchema\" xmlns:t=\"t\" targetNamespace=\"t\">" ++
    String.join children ++ "</x:schema>"

/-- The texts of the element, the type and the group. -/
def circularTexts : String × String × String :=
  ("<x:element name=\"r\" type=\"t:T\"/>",
    "<x:complexType name=\"T\"><x:group ref=\"t:g\"/></x:complexType>",
    "<x:group name=\"g\"><x:sequence><x:element ref=\"t:r\" minOccurs=\"0\"/></x:sequence>" ++
      "</x:group>")

/-- The element, the type and the group in three files, and in a single one. -/
def parts : FileSystem where
  canonical? path := some path
  read path :=
    let texts := [
      ("m", partText ["<x:include schemaLocation=\"a\"/>", circularTexts.1,
        "<x:include schemaLocation=\"b\"/>"]),
      ("a", partText [circularTexts.2.1]),
      ("b", partText [circularTexts.2.2]),
      ("all", partText [circularTexts.1, circularTexts.2.1, circularTexts.2.2])]
    match texts.lookup path.text with
    | some text => .ok text
    | none => .error .notFound

/-- The location of one of the files. -/
def partAt (name : String) : Location := .file (.ofText name)

/-- What the files hold; the first of them is read. -/
theorem parts_facts :
    ((partAt "m").root? parts .standard =
        some (partOf [inclusionOf "a", circularParts.1, inclusionOf "b"]) ∧
      (partAt "a").root? parts .standard = some (partOf [circularParts.2.1]) ∧
      (partAt "b").root? parts .standard = some (partOf [circularParts.2.2]) ∧
      (partAt "all").root? parts .standard =
        some (partOf [circularParts.1, circularParts.2.1, circularParts.2.2])) ∧
      (parse parts .standard (partAt "m")).1.isOk = true := by
  decide +kernel

theorem includes_parts : Includes parts .standard (partAt "m")
    (partOf [inclusionOf "a", circularParts.1, inclusionOf "b"]) [partAt "a", partAt "b"]
    [partOf [circularParts.2.1], partOf [circularParts.2.2]] where
  holds := Location.holds_of_root? parts_facts.1.1
  included := .cons (Location.holds_of_root? parts_facts.1.2.1)
    (.cons (Location.holds_of_root? parts_facts.1.2.2.1) .nil)
  leads := ⟨["a", "b"], by decide, by decide +kernel⟩
  keys := by decide
  depth := .inr (by decide)
  settings := by decide
  others := by decide
  closed := by decide

theorem merges_parts :
    Merges (partOf [inclusionOf "a", circularParts.1, inclusionOf "b"])
      [partOf [circularParts.2.1], partOf [circularParts.2.2]]
      (partOf [circularParts.1, circularParts.2.1, circularParts.2.2]) where
  settings := by decide
  children := List.forall₂_same.mpr fun c _ => .refl c

theorem parse_merges_parts :
    (parse parts .standard (partAt "m")).1.isOk = true ∧
    (parse parts .standard (partAt "m")).1.toOption.map withoutSources =
      (parse parts .standard (partAt "all")).1.toOption.map withoutSources :=
  ⟨parts_facts.2, parse_merges includes_parts merges_parts
    (Location.holds_of_root? parts_facts.1.2.2.2)⟩

end SchemaSet

end Xsd

end SchemaBinding
