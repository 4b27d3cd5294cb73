import Mathlib.Data.List.Forall2
import Mathlib.Data.Fintype.EquivFin
import SchemaBinding.Proofs.MapValues
import SchemaBinding.Proofs.Xsd.Exchange
import SchemaBinding.Proofs.Xsd.RereadContent

/-!
# Drafts with the same components

Two drafts that have the same components, though at different places, and use the same names for
them. What is read into a component of the one can be read into the same component of the other, and
then they have the same components again.

## Main definitions

* `Component`, `SchemaSet.component?`: what stands at a place
* `SchemaSet.Shows`: what stands at some places of a set stands at other places of another one
* `SchemaSet.Renumbered`, `Draft.Renumbered`: the same components at different places
* `Draft.NamesAlike`: the same names for components that may be at different places

## Main results

* `SchemaSet.Renumbered.type_renumber`, …: components of both sets
* `Draft.Renumbered.exists_readGlobals`: the same is read from both drafts
-/

namespace SchemaBinding.Xsd

open Xml (Element QName)

/-! ## Components by place -/

/-- What stands at a place of a set. -/
inductive Component where
  | element (e : ElementDeclaration)
  | attr (a : AttributeDeclaration)
  | type (t : TypeDefinition)

/-- The component with what it refers to at its other places. -/
def Component.renumber (ρ : Renumbering) : Component → Component
  | .element e => .element (e.renumber ρ)
  | .attr a => .attr (a.renumber ρ)
  | .type t => .type (t.renumber ρ)

/-- The other place of a component. -/
def Part.renumber (ρ : Renumbering) : Part → Part
  | .element id => .element (id.renumber ρ)
  | .attr id => .attr (id.renumber ρ)
  | .type id => .type (id.renumber ρ)

/-- Different components are at different other places. -/
theorem Part.renumber_injective (ρ : Renumbering) : Function.Injective (Part.renumber ρ) := by
  intro p p' h
  cases p <;> cases p' <;> simp_all [renumber]

namespace SchemaSet

/-- What stands at a place. -/
def component? (set : SchemaSet) : Part → Option Component
  | .element id => set.elements[id.index]?.map .element
  | .attr id => set.attributes[id.index]?.map .attr
  | .type id => set.types[id.index]?.map .type

/-- What stands at the tracked places of a set stands at their other places in another one. -/
def Shows (tracked : Part → Prop) (ρ : Renumbering) (set set' : SchemaSet) : Prop :=
  ∀ p c, tracked p → set.component? p = some c →
    set'.component? (p.renumber ρ) = some (c.renumber ρ)

variable {tracked : Part → Prop} {ρ : Renumbering} {set set' : SchemaSet}

/-- What is shown of a set is shown of its types, elements and attributes by themselves. -/
theorem shows_iff : set.Shows tracked ρ set' ↔
    Tracks (fun i => tracked (.type ⟨i⟩)) ρ.type (TypeDefinition.renumber ρ) set.types
      set'.types ∧
    Tracks (fun i => tracked (.element ⟨i⟩)) ρ.element (ElementDeclaration.renumber ρ)
      set.elements set'.elements ∧
    Tracks (fun i => tracked (.attr ⟨i⟩)) ρ.attr (AttributeDeclaration.renumber ρ)
      set.attributes set'.attributes := by
  constructor
  · intro h
    refine ⟨fun i t hi ht => ?_, fun i e hi he => ?_, fun i a hi ha => ?_⟩
    · have hc := h (.type ⟨i⟩) (.type t) hi (by simp [component?, ht])
      simpa [component?, Part.renumber, Component.renumber] using hc
    · have hc := h (.element ⟨i⟩) (.element e) hi (by simp [component?, he])
      simpa [component?, Part.renumber, Component.renumber] using hc
    · have hc := h (.attr ⟨i⟩) (.attr a) hi (by simp [component?, ha])
      simpa [component?, Part.renumber, Component.renumber] using hc
  · rintro ⟨htypes, helements, hattributes⟩ p c hp hc
    cases p with
    | element id =>
      obtain ⟨e, he, rfl⟩ := Option.map_eq_some_iff.mp hc
      exact congrArg (Option.map Component.element) (helements id.index e hp he)
    | attr id =>
      obtain ⟨a, ha, rfl⟩ := Option.map_eq_some_iff.mp hc
      exact congrArg (Option.map Component.attr) (hattributes id.index a hp ha)
    | type id =>
      obtain ⟨t, ht, rfl⟩ := Option.map_eq_some_iff.mp hc
      exact congrArg (Option.map Component.type) (htypes id.index t hp ht)

end SchemaSet

/-- If every place of an array has its other place in an array of the same size, then no further
place has. -/
theorem Tracks.lt_iff {α β : Type} {f : Nat → Nat} {g : α → β} {xs : Array α} {ys : Array β}
    (h : Tracks (fun _ => True) f g xs ys) (hf : Function.Injective f) (hsize : ys.size = xs.size)
    (i : Nat) : f i < xs.size ↔ i < xs.size := by
  have hlt : ∀ j, j < xs.size → f j < xs.size := by
    intro j hj
    rw [← hsize]
    exact (Array.getElem?_eq_some_iff.mp (h j _ trivial (Array.getElem?_eq_getElem hj))).1
  refine ⟨fun hi => ?_, hlt i⟩
  let restricted (j : Fin xs.size) : Fin xs.size := ⟨f j, hlt j j.isLt⟩
  have hinjective : Function.Injective restricted := fun j k hjk =>
    Fin.ext (hf (congrArg Fin.val hjk))
  obtain ⟨j, hj⟩ := Finite.surjective_of_injective hinjective ⟨f i, hi⟩
  exact hf (congrArg Fin.val hj) ▸ j.isLt

/-! ## The same components -/

/-- Schemas with the same components under the same names. The types may have been declared in
another order. -/
structure Schema.Renumbered (ρ : Renumbering) (s s' : Schema) : Prop where
  namespaceUri : s'.namespaceUri = s.namespaceUri
  sources : s'.sources = s.sources
  elements : s'.elements = s.elements.mapValues (ElementId.renumber ρ)
  attributes : s'.attributes = s.attributes.mapValues (AttributeId.renumber ρ)
  types : ∀ name, s'.types.get? name = (s.types.get? name).map (TypeId.renumber ρ)

/-- Sets with the same components at different places. -/
structure SchemaSet.Renumbered (ρ : Renumbering) (set set' : SchemaSet) : Prop where
  types_size : set'.types.size = set.types.size
  elements_size : set'.elements.size = set.elements.size
  attributes_size : set'.attributes.size = set.attributes.size
  components : set.Shows (fun _ => True) ρ set'
  schemas : List.Forall₂ (Schema.Renumbered ρ) set.schemas set'.schemas

namespace SchemaSet

variable {ρ : Renumbering} {set set' : SchemaSet}

/-- A name means the same type, at its other place. -/
theorem findType?_renumber (h : List.Forall₂ (Schema.Renumbered ρ) set.schemas set'.schemas)
    (name : QName) : set'.findType? name = (set.findType? name).map (TypeId.renumber ρ) :=
  bind_schemaOf?_eq_map (fun _ _ hs => hs.namespaceUri) (fun _ _ hs => hs.types name.localName) h
    name

theorem findElement?_renumber (h : List.Forall₂ (Schema.Renumbered ρ) set.schemas set'.schemas)
    (name : QName) :
    set'.findElement? name = (set.findElement? name).map (ElementId.renumber ρ) :=
  bind_schemaOf?_eq_map (fun _ _ hs => hs.namespaceUri)
    (fun _ _ hs => by rw [hs.elements, OrderedMap.get?_mapValues]) h name

theorem findAttribute?_renumber (h : List.Forall₂ (Schema.Renumbered ρ) set.schemas set'.schemas)
    (name : QName) :
    set'.findAttribute? name = (set.findAttribute? name).map (AttributeId.renumber ρ) :=
  bind_schemaOf?_eq_map (fun _ _ hs => hs.namespaceUri)
    (fun _ _ hs => by rw [hs.attributes, OrderedMap.get?_mapValues]) h name

namespace Renumbered

variable (h : set.Renumbered ρ set')
include h

theorem hasType_iff (id : TypeId) : set'.HasType (id.renumber ρ) ↔ set.HasType id := by
  unfold HasType
  rw [h.types_size]
  exact (shows_iff.mp h.components).1.lt_iff ρ.type.injective h.types_size id.index

/-- A type of the one set is that of the other one. -/
theorem type_renumber (id : TypeId) : set'.type (id.renumber ρ) = (set.type id).renumber ρ := by
  obtain ⟨i⟩ := id
  have htracks := (shows_iff.mp h.components).1
  unfold type
  cases ht : set.types[i]? with
  | some t =>
    show set'.types[ρ.type i]?.getD default = t.renumber ρ
    rw [htracks i t trivial ht]
    rfl
  | none =>
    have hle : ¬ ρ.type i < set.types.size := by
      rw [htracks.lt_iff ρ.type.injective h.types_size]
      exact Nat.not_lt.mpr (Array.getElem?_eq_none_iff.mp ht)
    show set'.types[ρ.type i]?.getD default = anyTypeDefinition.renumber ρ
    rw [Array.getElem?_eq_none (by rw [h.types_size]; exact Nat.le_of_not_lt hle)]
    simp only [TypeDefinition.renumber, anyTypeDefinition, builtinType, renumber_anyType,
      TypeKind.renumber, ComplexType.renumber, ComplexType.empty, Content.renumber,
      Particle.renumber, Particle.renumberAll]
    rfl

/-- The element at the other place is the same, and refers to the other places. -/
theorem element_renumber (id : ElementId) :
    set'.element (id.renumber ρ) = (set.element id).renumber ρ := by
  obtain ⟨i⟩ := id
  have htracks := (shows_iff.mp h.components).2.1
  unfold element
  cases he : set.elements[i]? with
  | some e =>
    show set'.elements[ρ.element i]?.getD default = e.renumber ρ
    rw [htracks i e trivial he]
    rfl
  | none =>
    have hle : ¬ ρ.element i < set.elements.size := by
      rw [htracks.lt_iff ρ.element.injective h.elements_size]
      exact Nat.not_lt.mpr (Array.getElem?_eq_none_iff.mp he)
    show set'.elements[ρ.element i]?.getD default = (default : ElementDeclaration).renumber ρ
    rw [Array.getElem?_eq_none (by rw [h.elements_size]; exact Nat.le_of_not_lt hle)]
    exact congrArg (fun type => { (default : ElementDeclaration) with type := type })
      (renumber_anyType ρ).symm

theorem attr_renumber (id : AttributeId) :
    set'.attr (id.renumber ρ) = (set.attr id).renumber ρ := by
  obtain ⟨i⟩ := id
  have htracks := (shows_iff.mp h.components).2.2
  unfold attr
  cases ha : set.attributes[i]? with
  | some a =>
    show set'.attributes[ρ.attr i]?.getD default = a.renumber ρ
    rw [htracks i a trivial ha]
    rfl
  | none =>
    have hle : ¬ ρ.attr i < set.attributes.size := by
      rw [htracks.lt_iff ρ.attr.injective h.attributes_size]
      exact Nat.not_lt.mpr (Array.getElem?_eq_none_iff.mp ha)
    show set'.attributes[ρ.attr i]?.getD default = (default : AttributeDeclaration).renumber ρ
    rw [Array.getElem?_eq_none (by rw [h.attributes_size]; exact Nat.le_of_not_lt hle)]
    exact congrArg (fun type => { (default : AttributeDeclaration) with type := type })
      (renumber_anyType ρ).symm

/-- Both sets have as many components. -/
theorem componentCount_eq : set'.componentCount = set.componentCount := by
  unfold componentCount
  rw [h.types_size, h.elements_size, h.attributes_size]

end Renumbered

end SchemaSet

/-! ### The same places, and one renumbering after another -/

theorem Component.renumber_refl (c : Component) : c.renumber .refl = c := by
  cases c with
  | element | attr => rfl
  | type t => exact congrArg Component.type t.renumber_refl

theorem Component.renumber_trans (ρ σ : Renumbering) (c : Component) :
    c.renumber (ρ.trans σ) = (c.renumber ρ).renumber σ := by
  cases c with
  | element | attr => rfl
  | type t => exact congrArg Component.type (t.renumber_trans ρ σ)

theorem Part.renumber_refl (p : Part) : p.renumber .refl = p := by
  cases p <;> rfl

theorem Part.renumber_trans (ρ σ : Renumbering) (p : Part) :
    p.renumber (ρ.trans σ) = (p.renumber ρ).renumber σ := by
  cases p <;> rfl

theorem Schema.Renumbered.trans {ρ σ : Renumbering} {s s' s'' : Schema} (h : s.Renumbered ρ s')
    (h' : s'.Renumbered σ s'') : s.Renumbered (ρ.trans σ) s'' where
  namespaceUri := h'.namespaceUri.trans h.namespaceUri
  sources := h'.sources.trans h.sources
  elements := by
    rw [h'.elements, h.elements]
    exact OrderedMap.ext_entries (List.map_map ..)
  attributes := by
    rw [h'.attributes, h.attributes]
    exact OrderedMap.ext_entries (List.map_map ..)
  types name := by
    rw [h'.types, h.types, Option.map_map]
    rfl

namespace SchemaSet.Renumbered

theorem refl (set : SchemaSet) : set.Renumbered .refl set where
  types_size := rfl
  elements_size := rfl
  attributes_size := rfl
  components p c _ hc := by
    rw [p.renumber_refl, c.renumber_refl]
    exact hc
  schemas := List.forall₂_same.mpr fun s _ =>
    ⟨rfl, rfl, s.elements.mapValues_id.symm, s.attributes.mapValues_id.symm,
      fun _ => (congrFun Option.map_id _).symm⟩

theorem trans {ρ σ : Renumbering} {set set' set'' : SchemaSet} (h : set.Renumbered ρ set')
    (h' : set'.Renumbered σ set'') : set.Renumbered (ρ.trans σ) set'' where
  types_size := h'.types_size.trans h.types_size
  elements_size := h'.elements_size.trans h.elements_size
  attributes_size := h'.attributes_size.trans h.attributes_size
  components p c _ hc := by
    rw [p.renumber_trans, c.renumber_trans]
    exact h'.components _ _ trivial (h.components p c trivial hc)
  schemas := by
    have hschemas := h.schemas
    have hschemas' := h'.schemas
    generalize set.schemas = ss at hschemas
    generalize set'.schemas = ss' at hschemas hschemas'
    generalize set''.schemas = ss'' at hschemas'
    induction hschemas generalizing ss'' with
    | nil =>
      cases hschemas'
      exact .nil
    | cons hs _ ih =>
      cases hschemas' with
      | cons hs' hrest' => exact .cons (hs.trans hs') (ih _ hrest')

end SchemaSet.Renumbered

/-! ## Reading the same -/

/-- The component at its other place, still to be read. -/
def Global.renumber (ρ : Renumbering) (g : Global) : Global :=
  { g with target := g.target.renumber ρ }

/-- Where components are added after those of either set, their places go together. -/
structure Renumbering.Shifts (ρ : Renumbering) (set set' last : SchemaSet) : Prop where
  type : ∀ i, set.types.size ≤ i → i < last.types.size →
    ρ.type i + set.types.size = i + set'.types.size
  element : ∀ i, set.elements.size ≤ i → i < last.elements.size →
    ρ.element i + set.elements.size = i + set'.elements.size
  attr : ∀ i, set.attributes.size ≤ i → i < last.attributes.size →
    ρ.attr i + set.attributes.size = i + set'.attributes.size

namespace Draft

/-- Two drafts use the same names for components that may be at different places, and for the same
groups. What is a simple type in the one is simple in the other. -/
structure NamesAlike (ρ : Renumbering) (d d' : Draft) : Prop where
  groups : ∀ name, d'.groups.get? name = d.groups.get? name
  groups_size : d'.groups.size = d.groups.size
  attributeGroups : ∀ name, d'.attributeGroups.get? name = d.attributeGroups.get? name
  attributeGroups_size : d'.attributeGroups.size = d.attributeGroups.size
  schemas : List.Forall₂ (Schema.Renumbered ρ) d.set.schemas d'.set.schemas
  type : ∀ name id, d.set.findType? name = some id → d.set.HasType id ∧
    d'.set.HasType (id.renumber ρ) ∧
    (d'.set.type (id.renumber ρ)).isSimple = (d.set.type id).isSimple

variable {ρ : Renumbering} {d d' : Draft}

/-- Groups are defined alike if the same definitions are found. -/
theorem defines_of_get? (hgroups : ∀ name, d'.groups.get? name = d.groups.get? name)
    (hsize : d'.groups.size = d.groups.size)
    (hattributes : ∀ name, d'.attributeGroups.get? name = d.attributeGroups.get? name)
    (hsize' : d'.attributeGroups.size = d.attributeGroups.size) : d.Defines d' where
  groups name definition hfound := by
    refine ⟨definition, (hgroups name).trans hfound, ⟨.refl _, .refl _ _⟩, fun m hm => ?_⟩
    exact ⟨m, hm, .refl _ m⟩
  attributeGroups name definition hfound :=
    ⟨definition, (hattributes name).trans hfound, ⟨.refl _, .refl _ _⟩⟩
  groups_size := Nat.le_of_eq hsize.symm
  attributeGroups_size := Nat.le_of_eq hsize'.symm

namespace NamesAlike

variable (h : d.NamesAlike ρ d')

/-- The same is read from both drafts. -/
def rereading (last : SchemaSet) (tracked : Part → Prop) (hshifts : ρ.Shifts d.set d'.set last) :
    Rereading where
  renumbering := ρ
  first := d
  first' := d'
  last := last
  tracked := tracked
  defines := defines_of_get? h.groups h.groups_size h.attributeGroups h.attributeGroups_size
  types := hshifts.type
  elements := hshifts.element
  attributes := hshifts.attr
  findType? name id hid := by
    refine ⟨?_, (h.type name id hid).1, (h.type name id hid).2.1⟩
    rw [SchemaSet.findType?_renumber h.schemas, hid, Option.map_some]
  findElement? name id hid := by
    rw [SchemaSet.findElement?_renumber h.schemas, hid, Option.map_some]
  findAttribute? name id hid := by
    rw [SchemaSet.findAttribute?_renumber h.schemas, hid, Option.map_some]

/-- Drafts that are the same but for places are where the reading of both begins. -/
theorem mirrors_rereading {last : SchemaSet} {tracked : Part → Prop}
    (hshifts : ρ.Shifts d.set d'.set last) (hshows : d.set.Shows tracked ρ d'.set) :
    (h.rereading last tracked hshifts).Mirrors d d' where
  within := .refl _
  types_pace := Nat.add_comm _ _
  elements_pace := Nat.add_comm _ _
  attributes_pace := Nat.add_comm _ _
  schemas := rfl
  schemas' := rfl
  groups := rfl
  groups' := rfl
  attributeGroups := rfl
  attributeGroups' := rfl
  types := (SchemaSet.shows_iff.mp hshows).1
  elements := (SchemaSet.shows_iff.mp hshows).2.1
  attributes := (SchemaSet.shows_iff.mp hshows).2.2
  isSimple name id hid := (h.type name id hid).2.2
  waiting := ⟨[], (List.append_nil _).symm, (List.append_nil _).symm⟩

/-- A component that has been declared is read from the same element in both drafts. -/
theorem sameGlobal {last : SchemaSet} {tracked : Part → Prop}
    (hshifts : ρ.Shifts d.set d'.set last) (g : Global) :
    (h.rereading last tracked hshifts).SameGlobal g (g.renumber ρ) :=
  ⟨rfl, .refl _, .refl _ _⟩

end NamesAlike

/-- Drafts with the same components at different places. The types may have been read in another
order. -/
structure Renumbered (ρ : Renumbering) (d d' : Draft) : Prop where
  groups : ∀ name, d'.groups.get? name = d.groups.get? name
  groups_size : d'.groups.size = d.groups.size
  attributeGroups : ∀ name, d'.attributeGroups.get? name = d.attributeGroups.get? name
  attributeGroups_size : d'.attributeGroups.size = d.attributeGroups.size
  set : d.set.Renumbered ρ d'.set
  waiting : d'.waiting.Perm (d.waiting.map fun w => (w.1.renumber ρ, w.2))

namespace Renumbered

/-- A draft with the same set, and with the same groups under the same names. -/
theorem of_set_eq (hset : d'.set = d.set)
    (hgroups : ∀ name, d'.groups.get? name = d.groups.get? name)
    (hgroups_size : d'.groups.size = d.groups.size)
    (hattributes : ∀ name, d'.attributeGroups.get? name = d.attributeGroups.get? name)
    (hattributes_size : d'.attributeGroups.size = d.attributeGroups.size)
    (hwaiting : d'.waiting = d.waiting) : d.Renumbered .refl d' where
  groups := hgroups
  groups_size := hgroups_size
  attributeGroups := hattributes
  attributeGroups_size := hattributes_size
  set := hset ▸ .refl _
  waiting := by
    rw [hwaiting]
    exact .of_eq (List.map_id _).symm

theorem refl (d : Draft) : d.Renumbered .refl d :=
  .of_set_eq rfl (fun _ => rfl) rfl (fun _ => rfl) rfl rfl

theorem trans {σ : Renumbering} {d'' : Draft} (h : d.Renumbered ρ d') (h' : d'.Renumbered σ d'') :
    d.Renumbered (ρ.trans σ) d'' where
  groups name := (h'.groups name).trans (h.groups name)
  groups_size := h'.groups_size.trans h.groups_size
  attributeGroups name := (h'.attributeGroups name).trans (h.attributeGroups name)
  attributeGroups_size := h'.attributeGroups_size.trans h.attributeGroups_size
  set := h.set.trans h'.set
  waiting := by
    have hwaiting := h.waiting.map fun w => (w.1.renumber σ, w.2)
    rw [List.map_map] at hwaiting
    exact h'.waiting.trans hwaiting

variable (h : d.Renumbered ρ d')
include h

/-- Names mean the same in both drafts, whether of components or of groups. -/
theorem namesAlike (hd : d.Sound) : d.NamesAlike ρ d' where
  groups := h.groups
  groups_size := h.groups_size
  attributeGroups := h.attributeGroups
  attributeGroups_size := h.attributeGroups_size
  schemas := h.set.schemas
  type name id hid := by
    have hhas := (hd.listed.findType? hid).1
    refine ⟨hhas, (h.set.hasType_iff id).mpr hhas, ?_⟩
    rw [h.set.type_renumber, TypeDefinition.isSimple_renumber]

/-- What is read later is at the same place behind both drafts, which have as many components. -/
theorem shifts (hρ : ρ.FixesBeyond d.set) (last : SchemaSet) : ρ.Shifts d.set d'.set last where
  type i hi _ := by rw [hρ.type i hi, h.set.types_size]
  element i hi _ := by rw [hρ.element i hi, h.set.elements_size]
  attr i hi _ := by rw [hρ.attr i hi, h.set.attributes_size]

/-- The same is read from both drafts, and then they have the same components again. -/
theorem exists_readGlobals (hd : d.Sound) (hρ : ρ.FixesBeyond d.set) {gs : List Global} {e : Draft}
    (hrun : (gs.forM DraftM.readGlobal).run.run d = (.ok ⟨⟩, e)) :
    ∃ e', ((gs.map (Global.renumber ρ)).forM DraftM.readGlobal).run.run d' = (.ok ⟨⟩, e') ∧
      e.Renumbered ρ e' := by
  have hnames := h.namesAlike hd
  have hshifts := h.shifts hρ e.set
  have hglobals : List.Forall₂ (hnames.rereading e.set (fun _ => True) hshifts).SameGlobal gs
      (gs.map (Global.renumber ρ)) :=
    List.forall₂_map_right_iff.mpr (List.forall₂_same.mpr fun g _ => hnames.sameGlobal hshifts g)
  obtain ⟨e', hrun', hm⟩ := (Rereading.follows_readGlobals hglobals).follows d d' ⟨⟩ e
    (hnames.mirrors_rereading hshifts h.set.components) hrun (.refl _)
  have htypes := hm.types_pace
  have helements := hm.elements_pace
  have hattributes := hm.attributes_pace
  simp only [NamesAlike.rereading, h.set.types_size, h.set.elements_size,
    h.set.attributes_size] at htypes helements hattributes
  obtain ⟨ws, hws, hws'⟩ := hm.waiting
  refine ⟨e', hrun', fun name => ?_, ?_, fun name => ?_, ?_, ?_, ?_⟩
  · rw [hm.groups, hm.groups']
    exact h.groups name
  · rw [hm.groups, hm.groups']
    exact h.groups_size
  · rw [hm.attributeGroups, hm.attributeGroups']
    exact h.attributeGroups name
  · rw [hm.attributeGroups, hm.attributeGroups']
    exact h.attributeGroups_size
  · refine ⟨by omega, by omega, by omega, ?_, ?_⟩
    · exact SchemaSet.shows_iff.mpr ⟨hm.types, hm.elements, hm.attributes⟩
    · rw [hm.schemas, hm.schemas']
      exact h.set.schemas
  · rw [hws, hws', List.map_append]
    exact h.waiting.append_right _

end Renumbered

end Draft

end SchemaBinding.Xsd
