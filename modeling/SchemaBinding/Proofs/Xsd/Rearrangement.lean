import SchemaBinding.Proofs.AdjacentSwaps
import SchemaBinding.Proofs.Xsd.DeclaringOrder
import SchemaBinding.Proofs.Xsd.InheritedContent
import SchemaBinding.Proofs.Xsd.RenumberedCompletion

/-!
# The order of definitions

A document whose children stand in another order is read as a set of the same components, if its
elements, its attributes and its references to other documents stay in their order. Two children
that come one after the other may be declared in the other order; then what they declare is read in
the other order, too. By induction on the changes of places that lead from one order to another.

## Main definitions

* `Xml.Element.Rearranges`: the same children in another order
* `Draft.Reads`: some children of documents are declared, and then read
* `Location.Rearranges`: two locations, with the same document up to the order of its children

## Main results

* `Draft.Reads.swap`: two children in the other order
* `SchemaSet.exists_parse_of_rearranges`: the same components are read
-/

namespace SchemaBinding

open Relation (ReflTransGen)

/-! ## Children in another order -/

/-- An element has its children in another order, with elements, attributes and references to
documents in the order in which they were. -/
structure Xml.Element.Rearranges (root root' : Xml.Element) : Prop where
  front : root'.front = root.front
  children : root.children.Perm root'.children
  ordered : root'.children.filter (fun c => decide (c.localName ∈ Xsd.orderedTags)) =
    root.children.filter (fun c => decide (c.localName ∈ Xsd.orderedTags))

namespace Xml.Element.Rearranges

variable {root root' : Xml.Element}

theorem refl (root : Xml.Element) : root.Rearranges root := ⟨rfl, .refl _, rfl⟩

theorem symm (h : root.Rearranges root') : root'.Rearranges root :=
  ⟨h.front.symm, h.children.symm, h.ordered.symm⟩

/-- References are in their order. -/
theorem sameFront (h : root.Rearranges root') : root.SameFront root' where
  front := h.front
  referring := by
    have hfilter (children : List Xml.Element) :
        children.filter (fun c => decide (c.localName ∈ Xsd.referringTags)) =
          (children.filter fun c => decide (c.localName ∈ Xsd.orderedTags)).filter
            fun c => decide (c.localName ∈ Xsd.referringTags) := by
      rw [List.filter_filter]
      refine List.filter_congr fun c _ => ?_
      rw [← Bool.decide_and, decide_eq_decide, iff_self_and]
      exact fun hc => List.mem_cons_of_mem _ (List.mem_cons_of_mem _ hc)
    unfold referring
    rw [hfilter root'.children, hfilter root.children, h.ordered]

end Xml.Element.Rearranges

namespace Xsd

open Xml (Element)

/-- Two children of one document may change places, unless their order counts. -/
def SchemaDocument.FreeToSwap (item item' : Context × Element) : Prop :=
  item.1 = item'.1 ∧ ¬ (item.2.localName ∈ orderedTags ∧ item'.2.localName ∈ orderedTags)

/-- The children of documents, with those of each document in another order. -/
theorem SchemaDocument.reflTransGen_items {documents documents' : List SchemaDocument}
    (h : List.Forall₂ (fun d d' : SchemaDocument => d'.context = d.context ∧
      d.root.Rearranges d'.root) documents documents') :
    ReflTransGen (AdjacentSwap FreeToSwap) (items documents) (items documents') := by
  refine reflTransGen_flatMap h ?_
  rintro d d' ⟨hcontext, hroot⟩
  rw [hcontext]
  exact (reflTransGen_of_perm hroot.children hroot.ordered.symm).lift _ fun _ _ hswap =>
    hswap.map fun x y hfree => ⟨rfl, hfree⟩

namespace Draft

/-! ## Declaring and reading -/

/-- Some children of documents are declared, and then all components that they define are read. -/
def Reads (items : List (Context × Element)) (d e : Draft) : Prop :=
  ∃ gs d₁, AddsAll items d gs d₁ ∧
    ((gs.filterMap id).forM DraftM.readGlobal).run.run d₁ = (.ok ⟨⟩, e)

theorem run_readDocuments_eq_ok_iff {documents : List SchemaDocument} {d e : Draft} :
    (SchemaSet.readDocuments documents).run.run d = (.ok ⟨⟩, e) ↔
      d.Reads (SchemaDocument.items documents) e := by
  unfold SchemaSet.readDocuments
  rw [run_bind_eq_ok_iff]
  constructor
  · rintro ⟨globals, d₁, hdeclare, hread⟩
    obtain ⟨gs, hadds, rfl⟩ := DraftM.run_declareAll_eq_ok_iff.mp hdeclare
    exact ⟨gs, d₁, hadds, hread⟩
  · rintro ⟨gs, d₁, hadds, hread⟩
    exact ⟨_, d₁, DraftM.run_declareAll_eq_ok_iff.mpr ⟨gs, hadds, rfl⟩, hread⟩

/-- Which components are declared does not depend on where they are. -/
theorem filterMap_renumber (ρ : Renumbering) (gs : List (Option Global)) :
    (gs.map (Option.map (Global.renumber ρ))).filterMap id =
      (gs.filterMap id).map (Global.renumber ρ) := by
  rw [List.filterMap_map, List.map_filterMap]
  rfl

variable {items : List (Context × Element)} {ρ : Renumbering} {d d' e : Draft}

/-- The same is declared and read in drafts with the same components. -/
theorem Reads.renumbered (hreads : d.Reads items e) (hd : d.Sound) (h : d.Renumbered ρ d')
    (hρ : ρ.FixesBeyond d.set) : ∃ e', d'.Reads items e' ∧ e.Renumbered ρ e' := by
  obtain ⟨gs, d₁, hadds, hrun⟩ := hreads
  obtain ⟨d₁', hadds', h₁⟩ := hadds.renumbered h hρ
  have hdeclares := hadds.declares hd
  obtain ⟨e', hrun', he⟩ := h₁.exists_readGlobals hdeclares.sound
    (hρ.of_within hdeclares.grows.within) hrun
  rw [← filterMap_renumber] at hrun'
  exact ⟨e', ⟨_, d₁', hadds', hrun'⟩, he⟩

/-- What two children have declared may be read in the other order. -/
theorem exists_readGlobals_swap_toList {before after : List Global} {g g' : Option Global}
    {globals : List Global} {d₁ : Draft}
    (hglobals : globals = before ++ (g.toList ++ (g'.toList ++ after)))
    (hdeclares : Declares globals d d₁) (hclosed : d₁.set.Closed)
    (hrun : (globals.forM DraftM.readGlobal).run.run d₁ = (.ok ⟨⟩, e)) :
    ∃ ρ e', ((before ++ (g'.toList ++ (g.toList ++ after))).forM DraftM.readGlobal).run.run d₁ =
      (.ok ⟨⟩, e') ∧ e.Renumbered ρ e' := by
  subst hglobals
  cases g with
  | none => exact ⟨.refl, e, hrun, .refl e⟩
  | some g =>
    cases g' with
    | none => exact ⟨.refl, e, hrun, .refl e⟩
    | some g' =>
      exact exists_readGlobals_swap hdeclares.sound hclosed hdeclares.declared hdeclares.nodup hrun

/-- Two children that come one after the other may come in the other order. -/
theorem Reads.swap {before after : List (Context × Element)} {context : Context} {x y : Element}
    (hreads : d.Reads (before ++ (context, x) :: (context, y) :: after) e) (hd : d.Sound)
    (hclosed : d.set.Closed) (hfree : ¬ (x.localName ∈ orderedTags ∧ y.localName ∈ orderedTags)) :
    ∃ ρ e', d.Reads (before ++ (context, y) :: (context, x) :: after) e' ∧ e.Renumbered ρ e' := by
  obtain ⟨gs, d₃, hadds, hrun⟩ := hreads
  have hdeclares := hadds.declares hd
  have hclosed₃ := hadds.closed hd hclosed
  obtain ⟨d₀, gsBefore, gsRest, rfl, hbefore, hrest⟩ := hadds.exists_of_append
  have hdeclares₀ := hbefore.declares hd
  cases hrest with
  | @cons _ _ _ _ d₁ _ g _ hx hrest =>
    cases hrest with
    | @cons _ _ _ _ d₂ _ g' gsAfter hy hafter =>
      obtain ⟨ρ, d₁', d₂', hρ, hbeyond, hy', hx', h₂⟩ :=
        hx.swap hdeclares₀.sound (hbefore.closed hd hclosed) hy hfree
      obtain ⟨d₃', hafter', h₃⟩ := hafter.renumbered h₂ hbeyond
      have hsound₂ : d₂.Sound :=
        (hy.declares (hx.declares hdeclares₀.sound).sound).sound
      have hwithin : d₂.set.Within d₃.set := (hafter.declares hsound₂).grows.within
      have hglobals : (gsBefore ++ g :: g' :: gsAfter).filterMap id =
          gsBefore.filterMap id ++ (g.toList ++ (g'.toList ++ gsAfter.filterMap id)) := by
        cases g <;> cases g' <;> simp
      obtain ⟨σ, e₁, hrun₁, he₁⟩ := exists_readGlobals_swap_toList
        hglobals hdeclares hclosed₃ hrun
      obtain ⟨e', hrun', he'⟩ := h₃.exists_readGlobals hdeclares.sound
        (hbeyond.of_within hwithin) hrun₁
      have hfixed : (gsBefore.filterMap id).map (Global.renumber ρ) = gsBefore.filterMap id := by
        refine (List.map_congr_left fun g hg => ?_).trans (List.map_id _)
        exact Global.renumber_eq hρ (hdeclares₀.declared g hg).has
      refine ⟨_, e', ⟨_, d₃', hbefore.append (.cons hy' (.cons hx' hafter')), ?_⟩, he₁.trans he'⟩
      rw [← hrun']
      congr 3
      simp only [List.map_append, hfixed, List.filterMap_append, ← filterMap_renumber]
      cases g <;> cases g' <;> rfl

/-- The children of documents may come in all orders that are reached in this way. -/
theorem Reads.of_reflTransGen {items' : List (Context × Element)}
    (h : ReflTransGen (AdjacentSwap SchemaDocument.FreeToSwap) items items') (hd : d.Sound)
    (hclosed : d.set.Closed) (hreads : d.Reads items e) :
    ∃ ρ e', d.Reads items' e' ∧ e.Renumbered ρ e' := by
  induction h with
  | refl => exact ⟨.refl, e, hreads, .refl e⟩
  | tail _ hswap ih =>
    obtain ⟨ρ, e₁, hreads₁, h₁⟩ := ih
    obtain @⟨before, after, ⟨context, x⟩, ⟨_, y⟩, rfl, hfree⟩ := hswap
    obtain ⟨σ, e₂, hreads₂, h₂⟩ := hreads₁.swap hd hclosed hfree
    exact ⟨_, e₂, hreads₂, h₁.trans h₂⟩

/-- Before anything is declared, all components refer to components of the set. -/
theorem closed_ofDocuments (documents : List SchemaDocument) (log : Log) :
    (ofDocuments documents log).set.Closed := by
  have hstart := start_ofDocuments documents log
  obtain ⟨schemas, hset, -⟩ := set_ofDocuments documents log
  intro p c hc
  have hhas := has_of_component? hc
  cases p with
  | element id =>
    rw [hset] at hc
    cases hc
  | attr id => exact absurd hhas (hstart.attributes id)
  | type id =>
    rw [SchemaSet.component?_type hhas, Option.some.injEq] at hc
    subst hc
    by_cases hne : id = SchemaSet.anySimpleType
    · subst hne
      have htype : (ofDocuments documents log).set.type SchemaSet.anySimpleType =
          SchemaSet.builtinType Builtin.anySimpleType SchemaSet.anyType
            (.simple (.restriction .empty)) := hstart.type_eq _
      rw [htype]
      exact DefinesType.simple.closed hstart.sound.anyType _ _
    · exact (hstart.settled hhas hne).closed

end Draft

end Xsd

/-! ## Documents in another order -/

/-- What two locations hold is the same, but that the root of a document may have its children in
another order. -/
structure Location.Rearranges (files files' : FileSystem) (limits : Limits)
    (location location' : Location) : Prop where
  key : Source.key files' location' = Source.key files location
  resolve : ∀ place, location'.resolve place = location.resolve place
  holds : ∀ root, location.Holds files limits root →
    ∃ root', location'.Holds files' limits root' ∧ root.Rearranges root'
  holds' : ∀ root', location'.Holds files' limits root' →
    ∃ root, location.Holds files limits root ∧ root.Rearranges root'

/-- Two file systems in which all documents are the same, up to the order of their children. -/
def FileSystem.Rearranges (files files' : FileSystem) (limits : Limits) : Prop :=
  ∀ location : Location, location.Rearranges files files' limits location

namespace Location

variable {files files' : FileSystem} {limits : Limits} {location location' : Location}

theorem Rearranges.refl (files : FileSystem) (limits : Limits) (location : Location) :
    location.Rearranges files files limits location :=
  ⟨rfl, fun _ => rfl, fun root h => ⟨root, h, .refl root⟩, fun root h => ⟨root, h, .refl root⟩⟩

theorem Rearranges.symm (h : location.Rearranges files files' limits location') :
    location'.Rearranges files' files limits location where
  key := h.key.symm
  resolve place := (h.resolve place).symm
  holds root hroot := (h.holds' root hroot).imp fun _ h => ⟨h.1, h.2.symm⟩
  holds' root hroot := (h.holds root hroot).imp fun _ h => ⟨h.1, h.2.symm⟩

/-- Locations that both hold a document. -/
theorem rearranges_of_holds {root root' : Xml.Element}
    (hkey : Source.key files' location' = Source.key files location)
    (hresolve : ∀ place, location'.resolve place = location.resolve place)
    (h : location.Holds files limits root) (h' : location'.Holds files' limits root')
    (hroot : root.Rearranges root') : location.Rearranges files files' limits location' where
  key := hkey
  resolve := hresolve
  holds _ hr := ⟨root', h', h.unique hr ▸ hroot⟩
  holds' _ hr := ⟨root, h, h'.unique hr ▸ hroot⟩

/-- The document that has been read at one location is there at the other one, with its children in
another order. -/
theorem Rearranges.readFrom (h : location.Rearranges files files' limits location')
    {inclusion : Xsd.Inclusion} {document : Xsd.SchemaDocument}
    (hread : (⟨location, inclusion, document⟩ : Xsd.Loaded).ReadFrom files limits) :
    ∃ document', (⟨location', inclusion, document'⟩ : Xsd.Loaded).ReadFrom files' limits ∧
      document'.context = document.context ∧ document.root.Rearranges document'.root := by
  have hholds : location.Holds files limits document.root := by
    obtain ⟨content, hcontent, htext⟩ := hread
    exact (Xsd.Loading.of_ofText hcontent htext).2
  obtain ⟨root', hholds', hroot⟩ := h.holds _ hholds
  obtain ⟨-, hdocument⟩ :=
    Xsd.SchemaDocument.ofRoot_of_sameFront (hholds.ofRoot_of_readFrom hread) hroot.sameFront
  exact ⟨⟨root', document.context⟩, hholds'.readFrom (by rwa [h.key]), rfl, hroot⟩

end Location

namespace Xsd

variable {files files' : FileSystem} {limits : Limits} {start start' : Location}

/-- The documents at related locations are loaded with their children in another order. -/
theorem editions_of_rearranges (h : files.Rearranges files' limits) :
    Editions files files' limits (fun _ l l' _ => l.Rearranges files files' limits l')
      (fun d d' => d'.context = d.context ∧ d.root.Rearranges d'.root) where
  key _ _ _ _ hl := hl.key
  read _ _ _ _ _ hl _ hread := hl.readFrom hread
  references _ _ hdocument := Loading.references_eq_of_sameFront hdocument.1 hdocument.2.sameFront
  follows _ _ _ _ _ _ reference _ target hl _ _ htarget :=
    ⟨target, (hl.resolve reference.location).trans htarget, fun _ _ _ => h target⟩

/-- A set of the same components is read when documents have their children in another order. -/
theorem SchemaSet.exists_parse_of_rearranges (h : files.Rearranges files' limits)
    (hstart : start.Rearranges files files' limits start') {set : SchemaSet}
    (hset : (parse files limits start).1 = .ok set) :
    ∃ ρ set', (parse files' limits start').1 = .ok set' ∧ set.Renumbered ρ set' := by
  obtain ⟨documents, log, draft, hload, hread, hcomplete⟩ := exists_of_parse hset
  obtain ⟨documents', hload', hdocuments⟩ :=
    (editions_of_rearranges h).exists_loadAll hstart (congrArg Prod.fst hload)
  have hfresh := Draft.start_ofDocuments documents log
  have hfinished := Draft.finished_of_read hread
  obtain ⟨ρ, e, hreads, he⟩ := (Draft.run_readDocuments_eq_ok_iff.mp hread).of_reflTransGen
    (SchemaDocument.reflTransGen_items hdocuments) hfresh.sound (Draft.closed_ofDocuments _ _)
  have hsets : (Draft.ofDocuments documents' (SchemaDocument.loadAll files' limits start').2).set =
      (Draft.ofDocuments documents log).set :=
    ofDocuments_set_congr (hdocuments.imp fun d d' hd => by rw [hd.1]; exact ⟨rfl, rfl⟩)
  obtain ⟨e', hreads', he'⟩ := hreads.renumbered hfresh.sound
    (.of_set_eq hsets (fun _ => rfl) rfl (fun _ => rfl) rfl rfl) (Renumbering.fixesBeyond_refl _)
  obtain ⟨set', hset', hrenumbered⟩ :=
    (he.trans he').exists_complete hfinished.sound hfinished.nodup_waiting hcomplete
  exact ⟨_, set', (parse_eq_complete (Prod.ext hload' rfl)
    (Draft.run_readDocuments_eq_ok_iff.mpr hreads')).trans hset', hrenumbered⟩

end Xsd

end SchemaBinding
