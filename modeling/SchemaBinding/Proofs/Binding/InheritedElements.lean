import SchemaBinding.Proofs.Binding.Lineage
import SchemaBinding.Proofs.Xsd.InheritedContent

/-!
# Inherited elements

Where the elements in the content of a type are, what it inherits included. A type is made of what
it declares itself if it is an extension, and inherits the fields of its super type; so an element
is shown by a field of the type or of one above it, or it is left out with a diagnostic. But a type
that has no super type, as its base is a list or could not be built, is made of what it declares
itself as well: the elements that its base has are lost without a diagnostic.

## Main definitions

* `Shows`: an element has a field, directly or in the items of a list
* `LeftOut`: an element is left out of a type, with a diagnostic
* `MadeWhole`: a type that is made of all its content

## Main results

* `ParticleFields.shows`: the elements among the particles of which a type is made
* `Lineage.shows`: inherited elements
* `inherited_elements`: compiled schemas
* `not_forall_shows`: an extension of a type that has become a list
-/

namespace SchemaBinding.Binding

open Repository (ComplexId Field ListId Registered Store TypeRef)
open Xsd (Compositor ElementId Occurs Particle SchemaSet TypeId)
open Xsd.Particle (elementsAmong)

/-! ## Elements that are shown, or left out -/

/-- An element has a field among some: a field of its own, directly or with a list, or one among
those of the items of a repeated group, whose items may also be the values of the element. -/
inductive Shows (set : SchemaSet) (store : Store) (occurs : Occurs) (e : ElementId) :
    List Field → Prop
  | field {fs : List Field} {f : Field} {t : TypeRef} : f ∈ fs →
      ElementField set store occurs e f t → Shows set store occurs e fs
  | items {fs : List Field} {f : Field} {l : ListId} {c : ComplexId} {owner : String} : f ∈ fs →
      f.type = .list l → Naming.IsList (store.list l).name → (store.list l).item = .complex c →
      (store.complex c).name = Naming.anonymousListItem owner →
      Shows set store occurs e (store.complex c).fields → Shows set store occurs e fs
  | itemLists {fs : List Field} {f : Field} {l l' : ListId} : f ∈ fs → f.type = .list l →
      Naming.IsList (store.list l).name → (store.list l).item = .list l' →
      Promoted set store [.element occurs e] l' → Shows set store occurs e fs

/-- An element among the particles of a type is left out: there is a diagnostic that names it in the
type, or in the items of the repeated group that it is in, or one that names the list of that group.
-/
inductive LeftOut (set : SchemaSet) (diagnostics : List Diagnostic) (occurs : Occurs)
    (e : ElementId) : String → List Particle → Prop
  | element {owner : String} {ps : List Particle} {failure : Failure} : .element occurs e ∈ ps →
      ⟨s!"{owner}/{(set.element e).name}", failure⟩ ∈ diagnostics →
      LeftOut set diagnostics occurs e owner ps
  | group {owner : String} {ps children : List Particle} {bounds : Occurs}
      {compositor : Compositor} : .group bounds compositor children ∈ ps →
      bounds.isMultiple = false → LeftOut set diagnostics occurs e owner children →
      LeftOut set diagnostics occurs e owner ps
  | items {owner : String} {ps children : List Particle} {bounds : Occurs}
      {compositor : Compositor} : .group bounds compositor children ∈ ps →
      bounds.isMultiple = true →
      LeftOut set diagnostics occurs e (Naming.anonymousListItem owner) children →
      LeftOut set diagnostics occurs e owner ps
  | list {owner : String} {ps children : List Particle} {bounds : Occurs} {compositor : Compositor}
      {failure : Failure} : .group bounds compositor children ∈ ps → bounds.isMultiple = true →
      (occurs, e) ∈ elementsAmong children →
      ⟨s!"{owner}/{Naming.anonymousList owner}", failure⟩ ∈ diagnostics →
      LeftOut set diagnostics occurs e owner ps

section Particles

variable {set : SchemaSet} {store : Store} {diagnostics : List Diagnostic} {occurs : Occurs}
  {e : ElementId} {owner : String}

theorem Shows.mono {fs fs' : List Field} (h : Shows set store occurs e fs) (hfs : fs ⊆ fs') :
    Shows set store occurs e fs' := by
  cases h with
  | field hf hfield => exact .field (hfs hf) hfield
  | items hf htype hlist hitem hname hinner => exact .items (hfs hf) htype hlist hitem hname hinner
  | itemLists hf htype hlist hitem hp => exact .itemLists (hfs hf) htype hlist hitem hp

theorem LeftOut.mono {ps ps' : List Particle} (h : LeftOut set diagnostics occurs e owner ps)
    (hps : ps ⊆ ps') : LeftOut set diagnostics occurs e owner ps' := by
  cases h with
  | element hm hd => exact .element (hps hm) hd
  | group hm hbounds hinner => exact .group (hps hm) hbounds hinner
  | items hm hbounds hinner => exact .items (hps hm) hbounds hinner
  | list hm hbounds he hd => exact .list (hps hm) hbounds he hd

/-- An element is not shown by fields of other names that are of no lists. -/
theorem not_shows {fs : List Field}
    (hfs : ∀ f ∈ fs, f.name ≠ (set.element e).name ∧ ∀ l, f.type ≠ .list l) :
    ¬ Shows set store occurs e fs := by
  rintro (⟨hf, hfield⟩ | ⟨hf, htype⟩ | ⟨hf, htype⟩)
  · cases hfield with
    | single => exact (hfs _ hf).1 rfl
    | repeated => exact (hfs _ hf).1 rfl
  · exact (hfs _ hf).2 _ htype
  · exact (hfs _ hf).2 _ htype

theorem LeftOut.diagnostics_ne_nil {ps : List Particle}
    (h : LeftOut set diagnostics occurs e owner ps) : diagnostics ≠ [] := by
  induction h with
  | element _ hd => exact List.ne_nil_of_mem hd
  | group _ _ _ ih => exact ih
  | items _ _ _ ih => exact ih
  | list _ _ _ hd => exact List.ne_nil_of_mem hd

/-- Each element among the particles of which a type is made is shown or left out. By induction on
how the fields have been made. -/
theorem ParticleFields.shows {v : View} {ps : List Particle} {fs : List Field}
    (h : ParticleFields set v owner ps fs) (he : (occurs, e) ∈ elementsAmong ps) :
    Shows set v.store occurs e fs ∨ LeftOut set v.diagnostics occurs e owner ps := by
  induction h with
  | nil => cases he
  | @cons _ p ps _ _ _ _ ih ih' =>
    rw [elementsAmong, List.mem_append] at he
    rcases he with he | he
    · have he : (occurs, e) ∈ elementsAmong [p] := List.mem_append_left _ he
      refine (ih he).imp (·.mono (List.subset_append_left _ _)) (·.mono ?_)
      exact List.cons_subset_cons p (List.nil_subset ps)
    · refine (ih' he).imp (·.mono (List.subset_append_right _ _)) (·.mono ?_)
      exact List.subset_cons_self p ps
  | element hf =>
    cases List.mem_singleton.mp he
    exact .inl (.field List.mem_cons_self hf)
  | elementLeftOut hd =>
    cases List.mem_singleton.mp he
    exact .inr (.element List.mem_cons_self hd)
  | @group owner bounds compositor children fs hm _ ih =>
    rw [elementsAmong, elementsAmong, List.append_nil] at he
    exact (ih he).imp_right (.group List.mem_cons_self hm)
  | @items owner schema bounds compositor children l c hm _ hl _ hname _ ih =>
    rw [elementsAmong, elementsAmong, List.append_nil] at he
    obtain ⟨hitem, hlist⟩ := item_and_isList_of_list_eq hl
    rcases ih he with hshows | hleft
    · exact .inl (.items List.mem_cons_self rfl hlist hitem hname hshows)
    · exact .inr (.items List.mem_cons_self hm (hname ▸ hleft))
  | @itemLists owner schema bounds compositor children l l' hm _ hl hp =>
    rw [elementsAmong, elementsAmong, List.append_nil] at he
    obtain ⟨occurs', e', hsole, -⟩ := hp.sole
    obtain ⟨rfl, -⟩ := soleRepeated?_eq_some_iff.mp hsole
    cases List.mem_singleton.mp he
    obtain ⟨hitem, hlist⟩ := item_and_isList_of_list_eq hl
    exact .inl (.itemLists List.mem_cons_self rfl hlist hitem hp)
  | groupLeftOut hm hd =>
    rw [elementsAmong, elementsAmong, List.append_nil] at he
    -- All that is in a group is left out with it.
    exact .inr (.list List.mem_cons_self hm he hd)
  | wildcard => cases he

end Particles

/-! ## Elements along a lineage -/

/-- What is bound under a name is made of all its content, though it may inherit some of it. -/
def MadeWhole (set : SchemaSet) (source : Xsd.Schema) (n : String) : Prop :=
  ∀ id fieldName definition, Asked set source id fieldName →
    typeName set (set.type id) fieldName = .ok n →
    (set.type id).kind = .complex definition →
    ∀ x ∈ (set.contentOf id).elements, x ∈ (contentFor definition).elements

/-- What is no extension is made of all its content. -/
theorem madeWhole_of_plain {set : SchemaSet} {source : Xsd.Schema} {n : String}
    (h : ∀ id fieldName, Asked set source id fieldName →
      typeName set (set.type id) fieldName = .ok n → set.explicit? id = none) :
    MadeWhole set source n := by
  intro id fieldName definition hasked htype hkind x hx
  have hexplicit := h id fieldName hasked htype
  unfold SchemaSet.explicit? Xsd.TypeDefinition.complex? at hexplicit
  unfold SchemaSet.contentOf Xsd.TypeDefinition.complex? at hx
  rw [hkind] at hexplicit hx
  have hexplicit : definition.explicitContent = none := hexplicit
  unfold contentFor
  rwa [hexplicit, Option.getD_none]

section Lineages

variable {set : SchemaSet} {source : Xsd.Schema} {v : View} {id : TypeId} {c : ComplexId}
  {occurs : Occurs} {e : ElementId}

/-- The elements that a type is made of are shown by its own fields, or left out of it. -/
theorem Made.shows (hset : set.WellFormed) (h : Made set v id (.complex c))
    {definition : Xsd.ComplexType} (hkind : (set.type id).kind = .complex definition)
    (he : (occurs, e) ∈ (contentFor definition).elements) :
    Shows set v.store occurs e (v.store.complex c).fields ∨
      LeftOut set v.diagnostics occurs e (v.store.complex c).name (particlesOf definition) := by
  obtain ⟨definition', hkind', -, hfilled⟩ := h.filled
  cases hkind.symm.trans hkind'
  rw [elements_contentFor (hset.complex id definition hkind)] at he
  cases hfilled with
  | fields hfields hps _ =>
    refine (hps.shows he).imp_left (·.mono ?_)
    rw [hfields]
    exact List.subset_append_left _ _

/-- An element is left out of a type or of one above it. -/
def LeftOutAbove (set : SchemaSet) (source : Xsd.Schema) (v : View) (occurs : Occurs)
    (e : ElementId) (c : ComplexId) : Prop :=
  ∃ a id definition, v.store.Above c a ∧ MadeOf set source v id a ∧
    (set.type id).kind = .complex definition ∧
    LeftOut set v.diagnostics occurs e (v.store.complex a).name (particlesOf definition)

/-- What a type itself is made of is shown by its own fields. -/
theorem MadeOf.shows (hset : set.WellFormed) (h : MadeOf set source v id c)
    {definition : Xsd.ComplexType} (hkind : (set.type id).kind = .complex definition)
    (hsub : (v.store.complex c).fields ⊆ v.store.allFields c)
    (he : (occurs, e) ∈ (contentFor definition).elements) :
    Shows set v.store occurs e (v.store.allFields c) ∨ LeftOutAbove set source v occurs e c := by
  rcases h.made.shows hset hkind he with hshows | hleft
  · exact .inl (hshows.mono hsub)
  · exact .inr ⟨c, id, definition, .refl, h, hkind, hleft⟩

/-- What a super type shows or leaves out is shown or left out. -/
theorem shows_of_super {above : ComplexId} (hsuper : (v.store.complex c).super = some above)
    (hsub : v.store.allFields above ⊆ v.store.allFields c)
    (h : Shows set v.store occurs e (v.store.allFields above) ∨
      LeftOutAbove set source v occurs e above) :
    Shows set v.store occurs e (v.store.allFields c) ∨ LeftOutAbove set source v occurs e c := by
  rcases h with hshows | ⟨a, id, definition, habove, hleft⟩
  · exact .inl (hshows.mono hsub)
  · exact .inr ⟨a, id, definition, .head hsuper habove, hleft⟩

/-- All elements of a type, those that it inherits included, are shown by its fields or by those of
the types above it, or are left out, if the topmost one of these is made of all its content. By
induction on the lineage. -/
theorem Lineage.shows (hset : set.Accepted) (h : Lineage set source v id c)
    (hwhole : ∀ top, v.store.Above c top → (v.store.complex top).super = none →
      MadeWhole set source (v.store.complex top).name)
    (he : (occurs, e) ∈ (set.contentOf id).elements) :
    Shows set v.store occurs e (v.store.allFields c) ∨ LeftOutAbove set source v occurs e c := by
  induction h with
  | @top id c hmade hsuper =>
    obtain ⟨definition, hkind, hnew, -⟩ := hmade.made.filled
    obtain ⟨fieldName, hasked, htype⟩ := hmade.asked
    have he := hwhole c .refl hsuper id fieldName definition hasked htype hkind _ he
    refine hmade.shows hset.wellFormed hkind ?_ he
    rw [allFields_of_top hnew.has hsuper]
    exact List.Subset.refl _
  | @derived id c above hmade hsuper hlt hne hlineage ih =>
    obtain ⟨definition, hkind, hnew, -⟩ := hmade.made.filled
    have hall := hlineage.allFields_of_super hnew hsuper hlt
    have hsub : (v.store.complex c).fields ⊆ v.store.allFields c := by
      rw [hall]
      exact List.subset_append_right _ _
    have hexplicit : set.explicit? id = definition.explicitContent := by
      unfold SchemaSet.explicit? Xsd.TypeDefinition.complex?
      rw [hkind]
      rfl
    have hcontent : set.contentOf id = definition.content := by
      unfold SchemaSet.contentOf Xsd.TypeDefinition.complex?
      rw [hkind]
    cases hown : definition.explicitContent with
    | none =>
      refine hmade.shows hset.wellFormed hkind hsub ?_
      unfold contentFor
      rwa [hown, Option.getD_none, ← hcontent]
    | some own =>
      -- An extension has what its base has, and then what it is made of itself.
      rw [hset.elements_extension (hexplicit.trans hown) hne, List.mem_append] at he
      rcases he with he | he
      · refine shows_of_super hsuper ?_ (ih (fun top htop => hwhole top (.head hsuper htop)) he)
        rw [hall]
        exact List.subset_append_left _ _
      · refine hmade.shows hset.wellFormed hkind hsub ?_
        unfold contentFor
        rwa [hown, Option.getD_some]

end Lineages

/-! ## Compiled schemas -/

/-- **No inherited element is lost.** A set is compiled while no schema is registered. A complex
type of the schema, under whose name and under those of the types above it one definition each is
bound, none of which has given way to a list, has been made of a definition, and each element in the
content of this definition, what it inherits included, is shown by a field of the type or of one
above it, or is left out with a diagnostic of the type that declares it; this holds if the topmost
one of the types is made of all its content. -/
theorem inherited_elements {r : Repository} (hv : r.registry.Vacant) {set : SchemaSet}
    (hset : set.Accepted) (limits : Limits) (request : Request) (log : Log) {reg : Registered}
    {diagnostics : List Diagnostic}
    (h : (compile r limits request set log).1 = .ok ⟨some reg, diagnostics⟩) {source : Xsd.Schema}
    (hmain : mainSchema? set = some source) :
    let store := (compile r limits request set log).2.1.store
    let v : View := ⟨r.store, store, diagnostics⟩
    ∀ c, Intact set source store reg.schema.types c →
      (∀ owner, (store.complex c).name ≠ Naming.anonymousListItem owner) →
      (∀ top, store.Above c top → (store.complex top).super = none →
        MadeWhole set source (store.complex top).name) →
      ∃ id, MadeOf set source v id c ∧ ∀ occurs e, (occurs, e) ∈ (set.contentOf id).elements →
        Shows set store occurs e (store.allFields c) ∨ LeftOutAbove set source v occurs e c := by
  intro store v c hintact hitem hwhole
  obtain ⟨id, -, hlineage⟩ := exists_lineage_of_compile hv hset h hmain hintact hitem
  exact ⟨id, hlineage.madeOf, fun occurs e he => hlineage.shows hset hwhole he⟩

/-! ## An extension of a type that has become a list -/

/-- A schema with a type of one element, whose bounds are given, and of one attribute, and an
extension of that type by another element and another attribute. -/
def extendingText (bounds : String) : String :=
  "<schema xmlns=\"http://www.w3.org/2001/XMLSchema\" xmlns:t=\"t\" targetNamespace=\"t\">" ++
  "<complexType name=\"B\"><sequence><element name=\"c\" type=\"string\"" ++ bounds ++
  "/></sequence><attribute name=\"a\" type=\"string\"/></complexType>" ++
  "<complexType name=\"D\"><complexContent><extension base=\"t:B\">" ++
  "<sequence><element name=\"d\" type=\"string\"/></sequence>" ++
  "<attribute name=\"b\" type=\"string\"/></extension></complexContent></complexType>" ++
  "<element name=\"r\" type=\"t:D\"/></schema>"

/-- The set of the schema in which the element occurs once. -/
def plainSet : SchemaSet := .ofText (extendingText "")

/-- The set of the schema in which the element may be repeated, which makes the base a list. -/
def listSet : SchemaSet := .ofText (extendingText " maxOccurs=\"unbounded\"")

section Extending

set_option maxRecDepth 100000

/-- The extension has the base as its super type, and both are under their names. -/
def Extended (store : Store) (types : OrderedMap String TypeRef) : Prop :=
  types.get? "B" = some (.complex ⟨0⟩) ∧ types.get? "D" = some (.complex ⟨1⟩) ∧
    (store.complex ⟨0⟩).name = "B" ∧ (store.complex ⟨1⟩).name = "D" ∧
    (store.complex ⟨0⟩).super = none ∧ (store.complex ⟨1⟩).super = some ⟨0⟩

instance (store : Store) (types : OrderedMap String TypeRef) : Decidable (Extended store types) :=
  inferInstanceAs (Decidable (_ ∧ _))

theorem Extended.above {store : Store} {types : OrderedMap String TypeRef}
    (h : Extended store types) {a : ComplexId} (ha : store.Above ⟨1⟩ a) : a = ⟨1⟩ ∨ a = ⟨0⟩ := by
  obtain ⟨-, -, -, -, htop, hsuper⟩ := h
  rcases Relation.ReflTransGen.cases_head ha with rfl | ⟨above, hs, ha⟩
  · exact .inl rfl
  · cases hsuper.symm.trans hs
    rcases Relation.ReflTransGen.cases_head ha with rfl | ⟨above, hs, -⟩
    · exact .inr rfl
    · cases htop.symm.trans hs

/-- Where the base stays a complex type, it is the super type of the extension. -/
theorem plain_facts :
    (SchemaSet.readText (extendingText "")).isOk = true ∧ CompilesWhole plainSet ∧
    Extended (compilationOf plainSet).2.1.store (schemaOf plainSet).schema.types ∧
    plainSet.explicit? ⟨46⟩ = none ∧
    (∀ i < plainSet.types.size, (plainSet.type ⟨i⟩).name = some "B" → i = 46) ∧
    ∀ i < plainSet.types.size, (plainSet.type ⟨i⟩).name = some "D" → i = 47 := by
  decide +kernel

theorem accepted_plain : plainSet.Accepted := SchemaSet.accepted_ofText plain_facts.1

/-- Under the name of the base, no other definition is bound. -/
theorem Asked.eq_base {id : TypeId} {fieldName : String}
    (h : Asked plainSet (sourceOf plainSet) id fieldName)
    (htype : typeName plainSet (plainSet.type id) fieldName = .ok "B") : id = ⟨46⟩ := by
  obtain ⟨-, hwhole, -, -, honly, -⟩ := plain_facts
  exact h.eq_of_name accepted_plain.wellFormed (mem_schemas_of_mainSchema? hwhole.main_eq) (by decide)
    (fun id hid hn => congrArg TypeId.mk (honly id.index hid hn)) htype

/-- Nor is any under the name of the extension. -/
theorem Asked.eq_extension {id : TypeId} {fieldName : String}
    (h : Asked plainSet (sourceOf plainSet) id fieldName)
    (htype : typeName plainSet (plainSet.type id) fieldName = .ok "D") : id = ⟨47⟩ := by
  obtain ⟨-, hwhole, -, -, -, honly⟩ := plain_facts
  exact h.eq_of_name accepted_plain.wellFormed (mem_schemas_of_mainSchema? hwhole.main_eq) (by decide)
    (fun id hid hn => congrArg TypeId.mk (honly id.index hid hn)) htype

theorem Extended.intact {store : Store} {types : OrderedMap String TypeRef}
    (h : Extended store types) : Intact plainSet (sourceOf plainSet) store types ⟨1⟩ := by
  intro a ha
  obtain ⟨hB, hD, hnameB, hnameD, -⟩ := id h
  rcases h.above ha with rfl | rfl
  · rw [hnameD]
    exact ⟨hD, fun id _ id' _ h h' ht ht' => (h.eq_extension ht).trans (h'.eq_extension ht').symm⟩
  · rw [hnameB]
    exact ⟨hB, fun id _ id' _ h h' ht ht' => (h.eq_base ht).trans (h'.eq_base ht').symm⟩

/-- Where the base becomes a list, the extension has fields of its own element and of attributes. -/
theorem list_facts :
    (SchemaSet.readText (extendingText " maxOccurs=\"unbounded\"")).isOk = true ∧
    CompilesWhole listSet ∧ (sourceOf listSet).elements.entries = [("r", ⟨0⟩)] ∧
    (listSet.element ⟨0⟩).type = ⟨47⟩ ∧ (listSet.element ⟨1⟩).name = "c" ∧
    typeName listSet (listSet.type ⟨47⟩) (listSet.element ⟨0⟩).name = .ok "D" ∧
    (listSet.explicit? ⟨47⟩).isSome = true ∧
    (⟨1, none⟩, ⟨1⟩) ∈ (listSet.contentOf ⟨47⟩).elements ∧
    (schemaOf listSet).schema.types.get? "D" = some (.complex ⟨1⟩) ∧
    ((compilationOf listSet).2.1.store.complex ⟨1⟩).name = "D" ∧
    ∀ f ∈ (compilationOf listSet).2.1.store.allFields ⟨1⟩,
      f.name ∈ ["d", "a", "b"] ∧ f.type = .primitive .string := by
  decide +kernel

/-- The extension shows the element of its base and its own. -/
theorem inherited_elements_plain :
    let store := (compile .empty .standard ⟨"s", "p", false⟩ plainSet #[]).2.1.store
    let v : View := ⟨.empty, store, []⟩
    ∃ id, MadeOf plainSet (sourceOf plainSet) v id ⟨1⟩ ∧
      ∀ occurs e, (occurs, e) ∈ (plainSet.contentOf id).elements →
        Shows plainSet store occurs e (store.allFields ⟨1⟩) ∨
          LeftOutAbove plainSet (sourceOf plainSet) v occurs e ⟨1⟩ := by
  obtain ⟨-, hwhole, hextended, hplain, -⟩ := plain_facts
  obtain ⟨-, -, hnameB, hnameD, -, hsuper⟩ := id hextended
  refine inherited_elements ⟨rfl, rfl⟩ accepted_plain .standard ⟨"s", "p", false⟩ #[]
    hwhole.compile_eq hwhole.main_eq ⟨1⟩ hextended.intact (fun owner hitem => ?_)
    fun top habove htop => ?_
  · exact Naming.ne_anonymousListItem (by decide) owner (hnameD.symm.trans hitem)
  · rcases hextended.above habove with rfl | rfl
    · cases hsuper.symm.trans htop
    · refine madeWhole_of_plain fun id fieldName hasked htype => ?_
      rw [hasked.eq_base (htype.trans (congrArg Except.ok hnameB))]
      exact hplain

/-- An inherited element may be lost: that of a base which has become a list. -/
theorem not_forall_shows :
    ¬ ∀ r : Repository, r.registry.Vacant → ∀ set, SchemaSet.Accepted set →
      ∀ limits request log reg diagnostics,
      (compile r limits request set log).1 = .ok ⟨some reg, diagnostics⟩ →
      ∀ source, mainSchema? set = some source → ∀ c id fieldName,
      let store := (compile r limits request set log).2.1.store
      reg.schema.types.get? (store.complex c).name = some (.complex c) →
      Asked set source id fieldName →
      typeName set (set.type id) fieldName = .ok (store.complex c).name →
      (set.explicit? id).isSome = true →
      ∀ occurs e, (occurs, e) ∈ (set.contentOf id).elements →
        Shows set store occurs e (store.allFields c) ∨
          ∃ owner ps, LeftOut set diagnostics occurs e owner ps := by
  intro h
  obtain ⟨hread, hwhole, hentries, htype, hc, hname, hexplicit, he, hD, hnameD, hfields⟩ :=
    list_facts
  have hasked : Asked listSet (sourceOf listSet) ⟨47⟩ (listSet.element ⟨0⟩).name :=
    htype ▸ asked_of_entries hentries
  rcases h .empty ⟨rfl, rfl⟩ listSet (SchemaSet.accepted_ofText hread) .standard
    ⟨"s", "p", false⟩ #[] _ _ hwhole.compile_eq _ hwhole.main_eq ⟨1⟩ ⟨47⟩ _ (hnameD.symm ▸ hD)
    hasked (hnameD.symm ▸ hname) hexplicit _ _ he with hshows | ⟨owner, ps, hleft⟩
  · refine not_shows (fun f hf => ?_) hshows
    obtain ⟨hname, hstring⟩ := hfields f hf
    rw [hc, hstring]
    refine ⟨fun heq => ?_, fun l => nofun⟩
    rw [heq] at hname
    exact absurd hname (by decide)
  · exact hleft.diagnostics_ne_nil rfl

end Extending

end SchemaBinding.Binding
