import SchemaBinding.Proofs.Xsd.Completion
import SchemaBinding.Proofs.Xsd.Finished

/-!
# Well-formed schema sets

What the components of a set that has been read refer to is there, and is simple where only a simple
type makes sense. Declared components start with `anyType` in place of what is not known yet, and
groups are expanded where they are used; when everything has been read none of that is left. What is
inherited is content of the same set.

## Main definitions

* `SchemaSet.WellFormed`: all references lead to components of the right kind

## Main results

* `Content.Closed.extend`: content after that of a base
* `Draft.Finished.wellFormed`: sets whose components have been read
* `SchemaSet.WellFormed.inherit`: inheriting content
* `SchemaSet.Accepted.wellFormed`: accepted sets
-/

namespace SchemaBinding.Xsd

namespace SchemaSet

/-- All references between the components of a set lead to components of the right kind, and its
schemas have different namespaces and list components under their names. -/
structure WellFormed (set : SchemaSet) : Prop where
  base : ∀ id, set.HasType id → set.HasType (set.baseOf id)
  simpleBase : ∀ id, set.IsSimple id → id ≠ anySimpleType → set.IsSimple (set.baseOf id)
  simple : ∀ id definition, (set.type id).kind = .simple definition → definition.Closed set
  complex : ∀ id definition, (set.type id).kind = .complex definition → definition.Closed set
  elements : ∀ id, set.HasElement id → set.HasType (set.element id).type
  attributes : ∀ id, set.HasAttribute id → set.IsSimple (set.attr id).type
  separate : set.Separate
  listed : set.Listed

end SchemaSet

/-! ## Content -/

/-- Content that follows that of a base refers to what the two refer to. -/
theorem Content.Closed.extend {set : SchemaSet} {base own : Content} (hbase : base.Closed set)
    (hown : own.Closed set) : (base.extend own).Closed set := by
  unfold Content.extend
  split
  · next p q =>
    refine ⟨rfl, fun occurs e he => ?_⟩
    rw [Particle.elements, Particle.elementsAmong, Particle.elementsAmong, Particle.elementsAmong,
      List.append_nil, List.mem_append] at he
    exact he.elim (hbase.2 occurs e) (hown.2 occurs e)
  · exact hbase
  · exact hown

/-- A complex type with other content. -/
theorem ComplexType.Closed.withContent {set : SchemaSet} {definition : ComplexType}
    {content : Content} (h : definition.Closed set) (hcontent : content.Closed set) :
    ComplexType.Closed set { definition with content := content } :=
  ⟨h.scope, hcontent, h.explicitContent, h.attributes⟩

namespace SchemaSet.WellFormed

variable {set set' : SchemaSet} (h : set.WellFormed) {id : TypeId} {content : Content}
include h

/-- All content is closed. -/
theorem contentOf (id : TypeId) : (set.contentOf id).Closed set := by
  unfold SchemaSet.contentOf TypeDefinition.complex?
  cases hk : (set.type id).kind with
  | simple => trivial
  | complex definition => exact (h.complex id definition hk).content

theorem explicitContentOf (id : TypeId) : (set.explicitContentOf id).Closed set := by
  unfold SchemaSet.explicitContentOf TypeDefinition.complex?
  cases hk : (set.type id).kind with
  | simple => trivial
  | complex definition =>
    cases hexplicit : definition.explicitContent with
    | none => simp [hexplicit, Content.Closed]
    | some content =>
      simpa [hexplicit] using (h.complex id definition hk).explicitContent content hexplicit

/-! ## Inheriting -/

theorem setContent (hid : set.HasType id) (hcontent : content.Closed set) :
    (set.setContent id content).WellFormed := by
  have hgrows := grows_setContent set id content
  have hbase := baseOf_setContent set id content
  have hsimple : ∀ i, (set.setContent id content).IsSimple i ↔ set.IsSimple i := by
    intro i
    refine ⟨fun hi => ?_, hgrows.isSimple⟩
    exact (hgrows.isSimple_eq (hasType_setContent.mp hi.hasType)).symm.trans hi
  have hkind : ∀ i, (set.setContent id content).type i = set.type i ∨
      i = id ∧ (set.setContent id content).type i = (set.type i).withContent content := by
    intro i
    by_cases hi : i = id
    · subst hi
      exact .inr ⟨rfl, type_setContent_self hid⟩
    · exact .inl (type_setContent_of_ne hi)
  refine ⟨fun i hi => ?_, fun i hi hne => ?_, fun i definition hk => ?_, fun i definition hk => ?_,
    fun i hi => ?_, fun i hi => ?_, h.separate, hgrows.listed rfl h.listed⟩
  · rw [hbase]
    exact hgrows.hasType _ (h.base i (hasType_setContent.mp hi))
  · rw [hbase]
    exact hgrows.isSimple (h.simpleBase i ((hsimple i).mp hi) hne)
  · refine SimpleType.Closed.mono hgrows (h.simple i definition ?_)
    rcases hkind i with htype | ⟨-, htype⟩
    · rwa [← htype]
    · rw [htype] at hk
      cases hk' : (set.type i).kind with
      | simple definition' =>
        rwa [TypeDefinition.withContent_of_simple content _ hk', hk'] at hk
      | complex definition' =>
        rw [TypeDefinition.kind_withContent_of_complex content _ hk'] at hk
        cases hk
  · rcases hkind i with htype | ⟨-, htype⟩
    · exact (h.complex i definition (htype ▸ hk)).mono hgrows
    · rw [htype] at hk
      cases hk' : (set.type i).kind with
      | simple definition' =>
        rw [TypeDefinition.withContent_of_simple content _ hk', hk'] at hk
        cases hk
      | complex definition' =>
        rw [TypeDefinition.kind_withContent_of_complex content _ hk'] at hk
        cases hk
        exact ((h.complex i definition' hk').withContent hcontent).mono hgrows
  · exact hgrows.hasType _ (h.elements i hi)
  · exact hgrows.isSimple (h.attributes i hi)

/-- A type that inherits gets closed content. -/
theorem inherit {inheritance : Inheritance} (hid : set.HasType id)
    (hs : set.inherit (id, inheritance) = .ok set') : set'.WellFormed := by
  have hbase := h.contentOf (set.baseOf id)
  cases inheritance with
  | extension =>
    simp only [SchemaSet.inherit] at hs
    split at hs
    · cases hs
      exact h
    · cases hs
      exact h.setContent hid (hbase.extend (h.explicitContentOf id))
  | simpleContent =>
    simp only [SchemaSet.inherit] at hs
    split at hs
    · next type hcontent =>
      cases hs
      rw [hcontent] at hbase
      exact h.setContent hid hbase
    · cases hs

theorem inheritAll {waiting : List (TypeId × Inheritance)}
    (hwaiting : ∀ w ∈ waiting, set.HasType w.1) (hs : set.inheritAll waiting = .ok set') :
    set'.WellFormed := by
  have hkept : set'.WellFormed ∧ ∀ w ∈ waiting, set'.HasType w.1 := by
    refine of_foldlM (P := fun s => s.WellFormed ∧ ∀ w ∈ waiting, s.HasType w.1) ⟨h, hwaiting⟩ ?_ hs
    rintro ⟨id, inheritance⟩ hw mid next ⟨hmid, hhas⟩ hstep
    refine ⟨hmid.inherit (hhas _ (List.mem_mergeSort.mp hw)) hstep, fun w hw => ?_⟩
    exact of_inherit (P := fun s => s.HasType w.1)
      (fun _ _ _ hs => hasType_setContent.mpr hs) (hhas w hw) hstep
  exact hkept.1

end SchemaSet.WellFormed

/-! ## Sets that have been read -/

namespace SchemaSet.Says

variable {set : SchemaSet} {base : TypeId} {waiting : List Inheritance}

theorem hasType {kind : TypeKind} (h : set.Says base kind waiting) : set.HasType base := by
  cases h with
  | simple hb | simpleBase hb => exact hb.hasType
  | content hb | simpleContent hb | extension hb => exact hb

theorem isSimple {kind : TypeKind} (h : set.Says base kind waiting) (hk : kind.isSimple = true) :
    set.IsSimple base := by
  cases h with
  | simple hb => exact hb
  | content | simpleBase | simpleContent | extension => cases hk

theorem closed_simple {definition : SimpleType} (h : set.Says base (.simple definition) waiting) :
    definition.Closed set := by
  cases h with
  | simple _ hd => exact hd

theorem closed_complex {definition : ComplexType}
    (h : set.Says base (.complex definition) waiting) : definition.Closed set := by
  cases h with
  | content _ hd | simpleBase _ hd | simpleContent _ _ hd | extension _ _ hd => exact hd

end SchemaSet.Says

namespace Draft.Finished

variable {documents : List SchemaDocument} {d : Draft} (h : d.Finished documents)
include h

theorem settled_kind {id : TypeId} {kind : TypeKind} (hid : d.set.HasType id)
    (hne : id ≠ SchemaSet.anySimpleType) (hk : (d.set.type id).kind = kind) :
    d.set.Says (d.set.baseOf id) kind (d.waitingOf id) :=
  hk ▸ h.settled id hid hne

/-- When everything has been read, all references lead to components of the right kind. -/
theorem wellFormed : d.set.WellFormed := by
  refine ⟨fun id hid => ?_, fun id hid hne => ?_, fun id definition hk => ?_,
    fun id definition hk => ?_, h.sound.elements, h.attributes, h.separate, h.sound.listed⟩
  · by_cases hne : id = SchemaSet.anySimpleType
    · rw [hne]
      unfold SchemaSet.baseOf
      rw [h.anySimpleType]
      exact h.sound.anyType
    · exact (h.settled_kind hid hne rfl).hasType
  · refine (h.settled_kind hid.hasType hne rfl).isSimple ?_
    rw [← TypeDefinition.isSimple_eq]
    exact hid
  · have hid : d.set.HasType id := by
      refine Classical.byContradiction fun hid => ?_
      rw [SchemaSet.type_of_not_hasType hid] at hk
      cases hk
    by_cases hne : id = SchemaSet.anySimpleType
    · rw [hne, h.anySimpleType] at hk
      cases hk
      trivial
    · exact (h.settled_kind hid hne hk).closed_simple
  · by_cases hid : d.set.HasType id
    · by_cases hne : id = SchemaSet.anySimpleType
      · rw [hne, h.anySimpleType] at hk
        cases hk
      · exact (h.settled_kind hid hne hk).closed_complex
    · rw [SchemaSet.type_of_not_hasType hid] at hk
      cases hk
      exact ⟨nofun, ⟨rfl, nofun⟩, nofun, nofun⟩

end Draft.Finished

/-- In a set that is read, all references lead to components of the right kind. -/
theorem SchemaSet.Accepted.wellFormed {set : SchemaSet} (h : set.Accepted) : set.WellFormed := by
  obtain ⟨files, limits, location, h⟩ := h
  obtain ⟨documents, log, draft, -, hread, hs⟩ := exists_of_parse h
  have hfinished := Draft.finished_of_read hread
  exact hfinished.wellFormed.inheritAll hfinished.sound.waiting (inheritAll_of_complete hs).2

end SchemaBinding.Xsd
