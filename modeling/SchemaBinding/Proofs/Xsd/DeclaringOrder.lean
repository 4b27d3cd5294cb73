import SchemaBinding.Proofs.Xsd.Finished
import SchemaBinding.Proofs.Xsd.Merging
import SchemaBinding.Proofs.Xsd.ReadingOrder

/-!
# The order of declaring

What a child of a schema adds depends on whether its name is free among the components or groups of
its kind. So two children that come one after the other add the same in the other order, but that
types get each other's places. Elements and attributes are listed in the order in which they are
declared; they do not change places with each other.

## Main definitions

* `orderedTags`: the children whose order counts
* `SchemaSet.Gains`: a component that a child adds to a set

## Main results

* `Draft.Adds.renumbered`, `Draft.AddsAll.renumbered`: the same is added to drafts with the same
  components
* `SchemaSet.Gains.swap`, `Draft.Adds.swap`: two children in the other order
-/

namespace SchemaBinding

/-! ## Two entries -/

namespace OrderedMap

variable {κ α : Type} [DecidableEq κ]

theorem size_insert_of_get?_eq_none {m : OrderedMap κ α} {k : κ} (v : α) (h : m.get? k = none) :
    (m.insert k v).size = m.size + 1 := by
  unfold size
  rw [entries_insert_of_not_mem v (get?_eq_none_iff.mp h), List.length_append]
  rfl

/-- Two new keys may be put in in either order. -/
theorem get?_insert_insert (m : OrderedMap κ α) {k k' : κ} (hne : k ≠ k') (v v' : α) (x : κ) :
    ((m.insert k' v').insert k v).get? x = ((m.insert k v).insert k' v').get? x := by
  simp only [get?_insert]
  by_cases hk : x = k
  · rw [if_pos hk, if_neg (hk ▸ hne), if_pos hk]
  · rw [if_neg hk, if_neg hk]

/-- A key that is new after another one has been put in is another one, and was new before. -/
theorem of_get?_insert_eq_none {m : OrderedMap κ α} {k x : κ} {v : α}
    (h : (m.insert k v).get? x = none) : x ≠ k ∧ m.get? x = none := by
  rw [get?_insert] at h
  split at h
  · cases h
  · next hne => exact ⟨hne, h⟩

theorem size_insert_insert {m : OrderedMap κ α} {k k' : κ} {v v' : α} (h : m.get? k = none)
    (h' : (m.insert k v).get? k' = none) :
    ((m.insert k' v').insert k v).size = ((m.insert k v).insert k' v').size := by
  obtain ⟨hne, hnew⟩ := of_get?_insert_eq_none h'
  have hold : (m.insert k' v').get? k = none := by
    rwa [get?_insert, if_neg hne.symm]
  rw [size_insert_of_get?_eq_none v hold, size_insert_of_get?_eq_none v' hnew,
    size_insert_of_get?_eq_none v' h', size_insert_of_get?_eq_none v h]

end OrderedMap

namespace Xsd

open Xml (Element QName)

/-! ## The same places -/

namespace Renumbering

theorem fixes_refl (set : SchemaSet) : Renumbering.refl.Fixes set :=
  ⟨fun _ _ => rfl, fun _ _ => rfl, fun _ _ => rfl⟩

theorem fixesBeyond_refl (set : SchemaSet) : Renumbering.refl.FixesBeyond set :=
  ⟨fun _ _ => rfl, fun _ _ => rfl, fun _ _ => rfl⟩

/-- Two types that are added to a set, one after the other, get each other's places. -/
def swapTypes (set : SchemaSet) (h : 2 ≤ set.types.size) : Renumbering where
  type := Xsd.exchange set.types.size 1 1
  element := Equiv.refl _
  attr := Equiv.refl _
  type_zero := exchange_of_lt (Nat.lt_of_lt_of_le Nat.two_pos h)
  type_one := exchange_of_lt h

variable {set : SchemaSet} (h : 2 ≤ set.types.size)

/-- What is there before the two types keeps its place. -/
theorem fixes_swapTypes : (swapTypes set h).Fixes set :=
  ⟨fun _ hid => congrArg TypeId.mk (exchange_of_lt hid), fun _ _ => rfl, fun _ _ => rfl⟩

theorem swapTypes_first : (swapTypes set h).type set.types.size = set.types.size + 1 :=
  exchange_of_left (Nat.le_refl _) (Nat.lt_succ_self _)

theorem swapTypes_second : (swapTypes set h).type (set.types.size + 1) = set.types.size :=
  Nat.add_right_cancel (exchange_of_right (Nat.le_refl (set.types.size + 1)) (Nat.lt_succ_self _))

end Renumbering

theorem Global.renumber_refl (g : Global) : g.renumber .refl = g := by
  obtain ⟨target, e, context⟩ := g
  cases target <;> rfl

/-! ## Changes of schemas -/

namespace SchemaSet

variable {ρ : Renumbering} {set set' : SchemaSet}

theorem grows_modifySchema (set : SchemaSet) (uri : String) (f : Schema → Schema) :
    set.Grows (set.modifySchema uri f) :=
  ⟨fun _ h => h, fun _ h => h, fun _ h => h, fun _ _ => rfl, fun _ _ => rfl, fun _ _ => rfl⟩

/-- The schemas of a namespace are changed alike. -/
theorem forall₂_renumbered_modifySchemas {uri : String} {f f' : Schema → Schema}
    (hf : ∀ s s', s.Renumbered ρ s' → (f s).Renumbered ρ (f' s')) {ss ss' : List Schema}
    (h : List.Forall₂ (Schema.Renumbered ρ) ss ss') :
    List.Forall₂ (Schema.Renumbered ρ) (modifySchemas uri f ss) (modifySchemas uri f' ss') :=
  forall₂_modifySchemas (fun _ _ hs => hs.namespaceUri) ⟨rfl, rfl, rfl, rfl, fun _ => rfl⟩ hf h

/-- What is not changed in a schema is found as before. -/
theorem bind_schemaOf?_modifySchema {α : Type} {uri : String} {f : Schema → Schema}
    (view : Schema → Option α) (huri : ∀ s, (f s).namespaceUri = s.namespaceUri)
    (hview : ∀ s, view (f s) = view s) (hempty : view (.empty uri) = none) (name : QName) :
    ((set.modifySchema uri f).schemaOf? name).bind view = (set.schemaOf? name).bind view := by
  unfold schemaOf?
  cases lookupNamespace? name with
  | none => rfl
  | some found =>
    rw [Option.bind_some, Option.bind_some, schema?_modifySchema _ _ huri]
    by_cases h : found = uri
    · subst h
      rw [if_pos rfl, Option.bind_some, hview]
      cases set.schema? found with
      | none => exact hempty
      | some s => rfl
    · rw [if_neg h]

theorem findElement?_withType (set : SchemaSet) (context : Context) (name : String)
    (kind : TypeKind) : (set.withType context name kind).findElement? = set.findElement? := by
  funext q
  unfold findElement? withType
  refine bind_schemaOf?_modifySchema (fun s => s.elements.get? q.localName) ?_ ?_ rfl q
  · exact fun _ => rfl
  · exact fun _ => rfl

theorem findAttribute?_withType (set : SchemaSet) (context : Context) (name : String)
    (kind : TypeKind) : (set.withType context name kind).findAttribute? = set.findAttribute? := by
  funext q
  unfold findAttribute? withType
  refine bind_schemaOf?_modifySchema (fun s => s.attributes.get? q.localName) ?_ ?_ rfl q
  · exact fun _ => rfl
  · exact fun _ => rfl

theorem findType?_withElement (set : SchemaSet) (context : Context) (name : String) :
    (set.withElement context name).findType? = set.findType? := by
  unfold withElement
  exact findType?_modifySchema (fun _ => rfl) fun _ => rfl

theorem findType?_withAttribute (set : SchemaSet) (context : Context) (name : String) :
    (set.withAttribute context name).findType? = set.findType? := by
  unfold withAttribute
  exact findType?_modifySchema (fun _ => rfl) fun _ => rfl

/-- A type that is declared last is found under its name, and the other names mean what they have
meant. -/
theorem findType?_withType (set : SchemaSet) (context : Context) (name name' : String)
    (kind : TypeKind) : (set.withType context name kind).findType? (context.nameOf name') =
      if name' = name then some ⟨set.types.size⟩ else set.findType? (context.nameOf name') := by
  unfold withType
  rw [findType?_insertType, context.lookupNamespace?_nameOf, context.localName_nameOf]
  simp only [true_and]
  rfl

end SchemaSet

/-! ## Further components -/

/-- The tags of the children of a schema whose order counts: elements and attributes, which are
listed in their order, and references to other documents. -/
def orderedTags : List String := "element" :: "attribute" :: referringTags

/-- A component that a child of a document adds to a set. -/
inductive SchemaSet.Gains (context : Context) (e : Element) (set : SchemaSet) :
    Global → SchemaSet → Prop
  | element {name : String} : e.localName = "element" → context.requiredName e = .ok name →
      set.findElement? (context.nameOf name) = none →
      Gains context e set ⟨.element ⟨set.elements.size⟩, e, context⟩ (set.withElement context name)
  | attr {name : String} : e.localName = "attribute" → context.requiredName e = .ok name →
      set.findAttribute? (context.nameOf name) = none →
      Gains context e set ⟨.attr ⟨set.attributes.size⟩, e, context⟩ (set.withAttribute context name)
  | type {name : String} {kind : TypeKind} {target : TypeId → Global.Target} :
      DefinesType e.localName kind target → context.requiredName e = .ok name →
      set.findType? (context.nameOf name) = none →
      Gains context e set ⟨target ⟨set.types.size⟩, e, context⟩ (set.withType context name kind)

variable {context : Context} {ρ : Renumbering}

/-- A type that has just been declared refers to the roots of the types. -/
theorem DefinesType.renumber_eq {tag : String} {kind : TypeKind}
    {target : TypeId → Global.Target} (h : DefinesType tag kind target) (ρ : Renumbering)
    (name : Option String) (uri : String) :
    (⟨name, uri, SchemaSet.anyType, kind⟩ : TypeDefinition).renumber ρ =
      ⟨name, uri, SchemaSet.anyType, kind⟩ := by
  cases h with
  | complex | simple =>
    unfold TypeDefinition.renumber
    rw [renumber_anyType]
    rfl

theorem DefinesType.renumber_target {tag : String} {kind : TypeKind}
    {target : TypeId → Global.Target} (h : DefinesType tag kind target) (ρ : Renumbering)
    (id : TypeId) : (target id).renumber ρ = target (id.renumber ρ) := by
  cases h with
  | complex | simple => rfl

/-- A type that has just been declared refers to the root of the types only. -/
theorem DefinesType.closed {tag : String} {kind : TypeKind} {target : TypeId → Global.Target}
    (h : DefinesType tag kind target) {set : SchemaSet} (hset : set.HasType SchemaSet.anyType)
    (name : Option String) (uri : String) :
    (⟨name, uri, SchemaSet.anyType, kind⟩ : TypeDefinition).Closed set := by
  cases h with
  | complex =>
    refine ⟨hset, by rintro _ ⟨⟩, ?_⟩
    rintro _ ⟨⟩
    exact ⟨nofun, trivial, nofun, nofun⟩
  | simple =>
    refine ⟨hset, ?_, by rintro _ ⟨⟩⟩
    rintro _ ⟨⟩
    exact trivial

namespace SchemaSet

variable {e : Element} {g : Global} {set set' set₁ : SchemaSet}

namespace Renumbered

variable (h : set.Renumbered ρ set') (hρ : ρ.FixesBeyond set) (context : Context) (name : String)
include h hρ

/-- The same element is declared in both sets. -/
theorem withElement :
    (set.withElement context name).Renumbered ρ (set'.withElement context name) := by
  obtain ⟨htypes, helements, hattributes⟩ := shows_iff.mp h.components
  have hplace := hρ.element _ (Nat.le_refl _)
  refine ⟨h.types_size, by simp [SchemaSet.withElement, modifySchema, addElement, h.elements_size],
    h.attributes_size, shows_iff.mpr ⟨htypes, ?_, hattributes⟩, ?_⟩
  · have hnew := helements.push (hplace.trans h.elements_size.symm)
      ⟨name, context.targetNamespace, anyType, none, none, false, true⟩
    rwa [ElementDeclaration.renumber, renumber_anyType] at hnew
  · unfold SchemaSet.withElement
    refine forall₂_renumbered_modifySchemas ?_ h.schemas
    refine fun s s' hs => { hs with elements := ?_ }
    dsimp only
    rw [hs.elements, h.elements_size, ← OrderedMap.insert_mapValues]
    exact congrArg (fun id => OrderedMap.insert _ name id) (congrArg ElementId.mk hplace).symm

theorem withAttribute :
    (set.withAttribute context name).Renumbered ρ (set'.withAttribute context name) := by
  obtain ⟨htypes, helements, hattributes⟩ := shows_iff.mp h.components
  have hplace := hρ.attr _ (Nat.le_refl _)
  refine ⟨h.types_size, h.elements_size,
    by simp [SchemaSet.withAttribute, modifySchema, addAttribute, h.attributes_size],
    shows_iff.mpr ⟨htypes, helements, ?_⟩, ?_⟩
  · have hnew := hattributes.push (hplace.trans h.attributes_size.symm)
      ⟨name, context.targetNamespace, anyType, none, none, true⟩
    rwa [AttributeDeclaration.renumber, renumber_anyType] at hnew
  · unfold SchemaSet.withAttribute
    refine forall₂_renumbered_modifySchemas ?_ h.schemas
    refine fun s s' hs => { hs with attributes := ?_ }
    dsimp only
    rw [hs.attributes, h.attributes_size, ← OrderedMap.insert_mapValues]
    exact congrArg (fun id => OrderedMap.insert _ name id) (congrArg AttributeId.mk hplace).symm

theorem withType {tag : String} {kind : TypeKind} {target : TypeId → Global.Target}
    (hdefines : DefinesType tag kind target) :
    (set.withType context name kind).Renumbered ρ (set'.withType context name kind) := by
  obtain ⟨htypes, helements, hattributes⟩ := shows_iff.mp h.components
  have hplace := hρ.type _ (Nat.le_refl _)
  refine ⟨by simp [SchemaSet.withType, modifySchema, addType, h.types_size], h.elements_size,
    h.attributes_size, shows_iff.mpr ⟨?_, helements, hattributes⟩, ?_⟩
  · have hnew := htypes.push (hplace.trans h.types_size.symm)
      ⟨some name, context.targetNamespace, anyType, kind⟩
    rwa [hdefines.renumber_eq] at hnew
  · unfold SchemaSet.withType
    refine forall₂_renumbered_modifySchemas ?_ h.schemas
    refine fun s s' hs => { hs with types := fun k => ?_ }
    rw [OrderedMap.get?_insert, OrderedMap.get?_insert, hs.types, h.types_size]
    split
    · exact congrArg (fun i => some (TypeId.mk i)) hplace.symm
    · rfl

end Renumbered

/-- The same is added to sets with the same components. -/
theorem Gains.renumbered (hgains : set.Gains context e g set₁) (h : set.Renumbered ρ set')
    (hρ : ρ.FixesBeyond set) :
    ∃ set₁', set'.Gains context e (g.renumber ρ) set₁' ∧ set₁.Renumbered ρ set₁' := by
  cases hgains with
  | @element name htag hname hfree =>
    refine ⟨_, ?_, h.withElement hρ context name⟩
    have hplace : (⟨set.elements.size⟩ : ElementId).renumber ρ = ⟨set'.elements.size⟩ :=
      congrArg ElementId.mk ((hρ.element _ (Nat.le_refl _)).trans h.elements_size.symm)
    have hgains : set'.Gains context e _ _ := .element htag hname
      (by rw [findElement?_renumber h.schemas, hfree, Option.map_none])
    rw [← hplace] at hgains
    exact hgains
  | @attr name htag hname hfree =>
    refine ⟨_, ?_, h.withAttribute hρ context name⟩
    have hplace : (⟨set.attributes.size⟩ : AttributeId).renumber ρ = ⟨set'.attributes.size⟩ :=
      congrArg AttributeId.mk ((hρ.attr _ (Nat.le_refl _)).trans h.attributes_size.symm)
    have hgains : set'.Gains context e _ _ := .attr htag hname
      (by rw [findAttribute?_renumber h.schemas, hfree, Option.map_none])
    rw [← hplace] at hgains
    exact hgains
  | @type name kind target hdefines hname hfree =>
    refine ⟨_, ?_, h.withType hρ context name hdefines⟩
    have hplace : (⟨set.types.size⟩ : TypeId).renumber ρ = ⟨set'.types.size⟩ :=
      congrArg TypeId.mk ((hρ.type _ (Nat.le_refl _)).trans h.types_size.symm)
    have hgains : set'.Gains context e _ _ := .type hdefines hname
      (by rw [findType?_renumber h.schemas, hfree, Option.map_none])
    rw [← hplace, ← hdefines.renumber_target] at hgains
    exact hgains

/-! ### Closed sets -/

/-- What a schema lists does not concern what components refer to. -/
theorem Closed.modifySchema (h : set.Closed) (uri : String) (f : Schema → Schema) :
    (set.modifySchema uri f).Closed :=
  fun p c hc => (h p c hc).mono (set.grows_modifySchema uri f)

/-- A set stays closed by a type that refers to what is there. -/
theorem Closed.addType (h : set.Closed) {t : TypeDefinition} (ht : t.Closed set) :
    (set.addType t).2.Closed := by
  intro p c hc
  refine Component.Closed.mono (set.grows_addType t) ?_
  cases p with
  | element id => exact h (.element id) c hc
  | attr id => exact h (.attr id) c hc
  | type id =>
    obtain ⟨t', ht', rfl⟩ := Option.map_eq_some_iff.mp hc
    unfold SchemaSet.addType at ht'
    rw [Array.getElem?_push] at ht'
    split at ht'
    · cases ht'
      exact ht
    · exact h (.type id) (.type t') (congrArg (Option.map Component.type) ht')

theorem Closed.addElement (h : set.Closed) {e : ElementDeclaration} (he : set.HasType e.type) :
    (set.addElement e).2.Closed := by
  intro p c hc
  refine Component.Closed.mono (set.grows_addElement e) ?_
  cases p with
  | type id => exact h (.type id) c hc
  | attr id => exact h (.attr id) c hc
  | element id =>
    obtain ⟨e', he', rfl⟩ := Option.map_eq_some_iff.mp hc
    unfold SchemaSet.addElement at he'
    rw [Array.getElem?_push] at he'
    split at he'
    · cases he'
      exact he
    · exact h (.element id) (.element e') (congrArg (Option.map Component.element) he')

theorem Closed.addAttribute (h : set.Closed) {a : AttributeDeclaration}
    (ha : set.HasType a.type) : (set.addAttribute a).2.Closed := by
  intro p c hc
  refine Component.Closed.mono (set.grows_addAttribute a) ?_
  cases p with
  | type id => exact h (.type id) c hc
  | element id => exact h (.element id) c hc
  | attr id =>
    obtain ⟨a', ha', rfl⟩ := Option.map_eq_some_iff.mp hc
    unfold SchemaSet.addAttribute at ha'
    rw [Array.getElem?_push] at ha'
    split at ha'
    · cases ha'
      exact ha
    · exact h (.attr id) (.attr a') (congrArg (Option.map Component.attr) ha')

/-- A set stays closed when a component is declared. -/
theorem Gains.closed (h : set.Gains context e g set₁) (hset : set.HasType anyType)
    (hclosed : set.Closed) : set₁.Closed := by
  cases h with
  | element => exact (hclosed.addElement hset).modifySchema _ _
  | attr => exact (hclosed.addAttribute hset).modifySchema _ _
  | type hdefines => exact (hclosed.addType (hdefines.closed hset _ _)).modifySchema _ _

theorem Gains.within (h : set.Gains context e g set₁) : set.Within set₁ := by
  cases h with
  | element => exact ((set.grows_addElement _).trans (grows_modifySchema _ _ _)).within
  | attr => exact ((set.grows_addAttribute _).trans (grows_modifySchema _ _ _)).within
  | type => exact ((set.grows_addType _).trans (grows_modifySchema _ _ _)).within

/-! ### Two components -/

/-- Changes of a schema that commute may be made in either order. -/
theorem modifySchema_comm (set : SchemaSet) (uri : String) {f g : Schema → Schema}
    (hf : ∀ s, (f s).namespaceUri = s.namespaceUri) (hg : ∀ s, (g s).namespaceUri = s.namespaceUri)
    (hcomm : ∀ s, g (f s) = f (g s)) :
    (set.modifySchema uri f).modifySchema uri g = (set.modifySchema uri g).modifySchema uri f := by
  rw [modifySchema_modifySchema set uri hf, modifySchema_modifySchema set uri hg, funext hcomm]

theorem withType_withElement (set : SchemaSet) (context : Context) (name name' : String)
    (kind : TypeKind) : (set.withType context name kind).withElement context name' =
      (set.withElement context name').withType context name kind :=
  modifySchema_comm (((set.addType ⟨some name, context.targetNamespace, anyType, kind⟩).2.addElement
      ⟨name', context.targetNamespace, anyType, none, none, false, true⟩).2)
    context.targetNamespace
    (f := fun s => { s with types := s.types.insert name ⟨set.types.size⟩ })
    (g := fun s => { s with elements := s.elements.insert name' ⟨set.elements.size⟩ })
    (fun _ => rfl) (fun _ => rfl) fun _ => rfl

/-- A type and an attribute are declared in either order, to the same set. -/
theorem withType_withAttribute (set : SchemaSet) (context : Context) (name name' : String)
    (kind : TypeKind) : (set.withType context name kind).withAttribute context name' =
      (set.withAttribute context name').withType context name kind :=
  modifySchema_comm (((set.addType
      ⟨some name, context.targetNamespace, anyType, kind⟩).2.addAttribute
      ⟨name', context.targetNamespace, anyType, none, none, true⟩).2)
    context.targetNamespace
    (f := fun s => { s with types := s.types.insert name ⟨set.types.size⟩ })
    (g := fun s => { s with attributes := s.attributes.insert name' ⟨set.attributes.size⟩ })
    (fun _ => rfl) (fun _ => rfl) fun _ => rfl

theorem schemas_withType_withType (set : SchemaSet) (context : Context) (name name' : String)
    (kind kind' : TypeKind) :
    ((set.withType context name kind).withType context name' kind').schemas =
      modifySchemas context.targetNamespace (fun s => { s with
        types := (s.types.insert name ⟨set.types.size⟩).insert name' ⟨set.types.size + 1⟩ })
        set.schemas := by
  unfold withType
  simp only [modifySchema, addType, Array.size_push]
  exact congrArg schemas (modifySchema_modifySchema set context.targetNamespace
    (f := fun s => { s with types := s.types.insert name ⟨set.types.size⟩ })
    (g := fun s => { s with types := s.types.insert name' ⟨set.types.size + 1⟩ }) fun _ => rfl)

/-- Two types that are declared in the other order get each other's places. -/
theorem renumbered_withType_withType {name name' tag tag' : String} {kind kind' : TypeKind}
    {target target' : TypeId → Global.Target} (hρ : ρ.Fixes set)
    (hfirst : ρ.type set.types.size = set.types.size + 1)
    (hsecond : ρ.type (set.types.size + 1) = set.types.size)
    (hdefines : DefinesType tag kind target) (hdefines' : DefinesType tag' kind' target')
    (hne : name ≠ name') (hlisted : set.Listed) (hclosed : set.Closed) :
    ((set.withType context name kind).withType context name' kind').Renumbered ρ
      ((set.withType context name' kind').withType context name kind) := by
  refine ⟨by simp [withType, modifySchema, addType], rfl, rfl, fun p c _ hc => ?_, ?_⟩
  · cases p with
    | element id =>
      obtain ⟨e, he, rfl⟩ := Option.map_eq_some_iff.mp hc
      have hid : id.renumber ρ = id := hρ.element id (Array.getElem?_eq_some_iff.mp he).1
      rw [Part.renumber, hid, (hclosed (.element id) (.element e) hc).renumber_eq hρ]
      exact hc
    | attr id =>
      obtain ⟨a, ha, rfl⟩ := Option.map_eq_some_iff.mp hc
      have hid : id.renumber ρ = id := hρ.attr id (Array.getElem?_eq_some_iff.mp ha).1
      rw [Part.renumber, hid, (hclosed (.attr id) (.attr a) hc).renumber_eq hρ]
      exact hc
    | type id =>
      obtain ⟨t, ht, rfl⟩ := Option.map_eq_some_iff.mp hc
      suffices hgoal : ((set.withType context name' kind').withType context name
          kind).types[ρ.type id.index]? = some (t.renumber ρ) from
        congrArg (Option.map Component.type) hgoal
      simp only [withType, modifySchema, addType, Array.getElem?_push, Array.size_push] at ht ⊢
      by_cases hlast : id.index = set.types.size + 1
      · rw [if_pos hlast, Option.some.injEq] at ht
        rw [hlast, hsecond, if_neg (by omega), if_pos rfl, ← ht, hdefines'.renumber_eq]
      · rw [if_neg hlast] at ht
        by_cases hnew : id.index = set.types.size
        · rw [if_pos hnew, Option.some.injEq] at ht
          rw [hnew, hfirst, if_pos rfl, ← ht, hdefines.renumber_eq]
        · rw [if_neg hnew] at ht
          have hhas : set.HasType id := (Array.getElem?_eq_some_iff.mp ht).1
          have hid : ρ.type id.index = id.index := congrArg TypeId.index (hρ.type id hhas)
          have ht' := hclosed (.type id) (.type t) (congrArg (Option.map Component.type) ht)
          rw [hid, if_neg hlast, if_neg hnew, ht, TypeDefinition.Closed.renumber_eq hρ ht']
  · have hadded (s s' : Schema) (hs : s.Renumbered ρ s') (k : String) :
        ((s'.types.insert name' ⟨set.types.size⟩).insert name ⟨set.types.size + 1⟩).get? k =
          (((s.types.insert name ⟨set.types.size⟩).insert name' ⟨set.types.size + 1⟩).get? k).map
            (TypeId.renumber ρ) := by
      simp only [OrderedMap.get?_insert, hs.types]
      by_cases hk : k = name
      · rw [if_pos hk, if_neg (hk ▸ hne), if_pos hk]
        exact congrArg (fun i => some (TypeId.mk i)) hfirst.symm
      · rw [if_neg hk]
        split
        · exact congrArg (fun i => some (TypeId.mk i)) hsecond.symm
        · rfl
    rw [schemas_withType_withType, schemas_withType_withType]
    refine forall₂_renumbered_modifySchemas ?_ (hlisted.forall₂_renumbered hρ)
    exact fun s s' hs => { hs with types := hadded s s' hs }

/-- Two components that are declared one after the other can be declared in the other order, unless
their order counts. -/
theorem Gains.swap {x y : Element} {g g' : Global} {set₂ : SchemaSet} (hlisted : set.Listed)
    (hclosed : set.Closed) (hle : 2 ≤ set.types.size) (hx : set.Gains context x g set₁)
    (hy : set₁.Gains context y g' set₂)
    (hfree : ¬ (x.localName ∈ orderedTags ∧ y.localName ∈ orderedTags)) :
    ∃ ρ set₁' set₂', ρ.Fixes set ∧ ρ.FixesBeyond set₂ ∧
      set.Gains context y (g'.renumber ρ) set₁' ∧ set₁'.Gains context x (g.renumber ρ) set₂' ∧
      set₂.Renumbered ρ set₂' := by
  have ordered (hx : x.localName = "element" ∨ x.localName = "attribute")
      (hy : y.localName = "element" ∨ y.localName = "attribute") : False := by
    refine hfree ⟨?_, ?_⟩
    · rcases hx with h | h <;> simp [orderedTags, h]
    · rcases hy with h | h <;> simp [orderedTags, h]
  -- Components of different kinds do not get in each other's way.
  have different {set₁' : SchemaSet} (hy : set.Gains context y g' set₁')
      (hx : set₁'.Gains context x g set₂) : ∃ ρ set₁' set₂', ρ.Fixes set ∧ ρ.FixesBeyond set₂ ∧
        set.Gains context y (g'.renumber ρ) set₁' ∧ set₁'.Gains context x (g.renumber ρ) set₂' ∧
        set₂.Renumbered ρ set₂' := by
    refine ⟨.refl, set₁', set₂, Renumbering.fixes_refl _, Renumbering.fixesBeyond_refl _, ?_, ?_,
      .refl _⟩
    · rwa [g'.renumber_refl]
    · rwa [g.renumber_refl]
  cases hx with
  | @element name htag hname hnew =>
    cases hy with
    | element htag' => exact (ordered (.inl htag) (.inl htag')).elim
    | attr htag' => exact (ordered (.inl htag) (.inr htag')).elim
    | type hdefines hname' hnew' =>
      rw [findType?_withElement] at hnew'
      refine different (.type hdefines hname' hnew') ?_
      rw [← withType_withElement]
      exact .element htag hname (by rwa [findElement?_withType])
  | @attr name htag hname hnew =>
    cases hy with
    | element htag' => exact (ordered (.inr htag) (.inl htag')).elim
    | attr htag' => exact (ordered (.inr htag) (.inr htag')).elim
    | type hdefines hname' hnew' =>
      rw [findType?_withAttribute] at hnew'
      refine different (.type hdefines hname' hnew') ?_
      rw [← withType_withAttribute]
      exact .attr htag hname (by rwa [findAttribute?_withType])
  | @type name kind target hdefines hname hnew =>
    cases hy with
    | element htag' hname' hnew' =>
      rw [findElement?_withType] at hnew'
      refine different (.element htag' hname' hnew') ?_
      rw [withType_withElement]
      exact .type hdefines hname (by rwa [findType?_withElement])
    | attr htag' hname' hnew' =>
      rw [findAttribute?_withType] at hnew'
      refine different (.attr htag' hname' hnew') ?_
      rw [withType_withAttribute]
      exact .type hdefines hname (by rwa [findType?_withAttribute])
    | @type name' kind' target' hdefines' hname' hnew' =>
      rw [findType?_withType] at hnew'
      split at hnew'
      · cases hnew'
      · next hne =>
        have hsize (name : String) (kind : TypeKind) :
            (set.withType context name kind).types.size = set.types.size + 1 := by
          simp [withType, modifySchema, addType]
        refine ⟨.swapTypes set hle, set.withType context name' kind', _,
          Renumbering.fixes_swapTypes hle,
          ⟨fun i hi => exchange_of_le ?_, fun _ _ => rfl, fun _ _ => rfl⟩, ?_, ?_,
          renumbered_withType_withType (Renumbering.fixes_swapTypes hle)
            (Renumbering.swapTypes_first hle) (Renumbering.swapTypes_second hle) hdefines hdefines'
            (Ne.symm hne) hlisted hclosed⟩
        · simpa [withType, modifySchema, addType] using hi
        · have hplace : (target' ⟨(set.withType context name kind).types.size⟩).renumber
              (.swapTypes set hle) = target' ⟨set.types.size⟩ := by
            rw [hdefines'.renumber_target, hsize]
            exact congrArg (fun i => target' ⟨i⟩) (Renumbering.swapTypes_second hle)
          unfold Global.renumber
          rw [hplace]
          exact .type hdefines' hname' hnew'
        · have hplace : (target ⟨set.types.size⟩).renumber (.swapTypes set hle) =
              target ⟨(set.withType context name' kind').types.size⟩ := by
            rw [hdefines.renumber_target, hsize]
            exact congrArg (fun i => target ⟨i⟩) (Renumbering.swapTypes_first hle)
          unfold Global.renumber
          rw [hplace]
          exact .type hdefines hname (by rwa [findType?_withType, if_neg (Ne.symm hne)])

end SchemaSet

/-! ## Drafts -/

/-- What the set gains is what the draft adds. -/
theorem SchemaSet.Gains.adds {e : Element} {g : Global} {set set' : SchemaSet}
    (h : set.Gains context e g set') {d : Draft} (hd : d.set = set) :
    d.Adds context e (some g) { d with set := set' } := by
  subst hd
  cases h with
  | element htag hname hnew => exact .element htag hname hnew
  | attr htag hname hnew => exact .attr htag hname hnew
  | type hdefines hname hnew => exact .type hdefines hname hnew

namespace Draft

variable {e : Element} {g : Option Global} {d d' d₁ : Draft}

/-- A child adds a component to the set, or a group of one kind, or nothing. It adds a group to any
draft that has none of its name. -/
theorem Adds.cases (h : d.Adds context e g d₁) :
    (∃ g₀ set₁, g = some g₀ ∧ d₁ = { d with set := set₁ } ∧ d.set.Gains context e g₀ set₁) ∨
    (∃ name, g = none ∧ d₁ = { d with groups := d.groups.insert name ⟨e, context⟩ } ∧
      d.groups.get? name = none ∧ ∀ b : Draft, b.groups.get? name = none →
        b.Adds context e none { b with groups := b.groups.insert name ⟨e, context⟩ }) ∨
    (∃ name, g = none ∧
      d₁ = { d with attributeGroups := d.attributeGroups.insert name ⟨e, context⟩ } ∧
      d.attributeGroups.get? name = none ∧ ∀ b : Draft, b.attributeGroups.get? name = none →
        b.Adds context e none
          { b with attributeGroups := b.attributeGroups.insert name ⟨e, context⟩ }) ∨
    (g = none ∧ (∃ log, d₁ = { d with log := log }) ∧
      ∀ b : Draft, ∃ log, b.Adds context e none { b with log := log }) := by
  cases h with
  | element htag hname hnew => exact .inl ⟨_, _, rfl, rfl, .element htag hname hnew⟩
  | attr htag hname hnew => exact .inl ⟨_, _, rfl, rfl, .attr htag hname hnew⟩
  | type hdefines hname hnew => exact .inl ⟨_, _, rfl, rfl, .type hdefines hname hnew⟩
  | group htag hname hnew =>
    exact .inr (.inl ⟨_, rfl, rfl, hnew, fun _ hb => .group htag hname hb⟩)
  | attributeGroup htag hname hnew =>
    exact .inr (.inr (.inl ⟨_, rfl, rfl, hnew, fun _ hb => .attributeGroup htag hname hb⟩))
  | ignored htag => exact .inr (.inr (.inr ⟨rfl, ⟨_, rfl⟩, fun _ => ⟨_, .ignored htag⟩⟩))
  | nothing htag =>
    exact .inr (.inr (.inr ⟨rfl, ⟨d.log, rfl⟩, fun b => ⟨b.log, .nothing htag⟩⟩))

theorem Adds.within (h : d.Adds context e g d₁) : d.set.Within d₁.set := by
  rcases h.cases with ⟨g₀, set₁, rfl, rfl, hgains⟩ | ⟨_, rfl, rfl, -⟩ | ⟨_, rfl, rfl, -⟩ |
    ⟨rfl, ⟨_, rfl⟩, -⟩
  · exact hgains.within
  · exact .refl _
  · exact .refl _
  · exact .refl _

theorem Adds.closed (h : d.Adds context e g d₁) (hd : d.Sound) (hclosed : d.set.Closed) :
    d₁.set.Closed := by
  rcases h.cases with ⟨g₀, set₁, rfl, rfl, hgains⟩ | ⟨_, rfl, rfl, -⟩ | ⟨_, rfl, rfl, -⟩ |
    ⟨rfl, ⟨_, rfl⟩, -⟩
  · exact hgains.closed hd.anyType hclosed
  · exact hclosed
  · exact hclosed
  · exact hclosed

theorem Adds.declares (h : d.Adds context e g d₁) (hd : d.Sound) : Declares g.toList d d₁ :=
  ((DraftM.returns_declare hd context e).of_run (DraftM.run_declare_eq_ok_iff.mpr h)).1

/-- The same is added to drafts with the same components. -/
theorem Adds.renumbered (hadds : d.Adds context e g d₁) (h : d.Renumbered ρ d')
    (hρ : ρ.FixesBeyond d.set) :
    ∃ d₁', d'.Adds context e (g.map (Global.renumber ρ)) d₁' ∧ d₁.Renumbered ρ d₁' := by
  rcases hadds.cases with ⟨g₀, set₁, rfl, rfl, hgains⟩ | ⟨name, rfl, rfl, hnew, hadd⟩ |
    ⟨name, rfl, rfl, hnew, hadd⟩ | ⟨rfl, ⟨_, rfl⟩, hadd⟩
  · obtain ⟨set₁', hgains', hset⟩ := hgains.renumbered h.set hρ
    exact ⟨_, hgains'.adds rfl, { h with set := hset }⟩
  · have hnew' : d'.groups.get? name = none := (h.groups name).trans hnew
    refine ⟨_, hadd d' hnew', { h with groups := fun k => ?_, groups_size := ?_ }⟩
    · rw [OrderedMap.get?_insert, OrderedMap.get?_insert, h.groups]
    · rw [OrderedMap.size_insert_of_get?_eq_none _ hnew,
        OrderedMap.size_insert_of_get?_eq_none _ hnew', h.groups_size]
  · have hnew' : d'.attributeGroups.get? name = none := (h.attributeGroups name).trans hnew
    refine ⟨_, hadd d' hnew', { h with
      attributeGroups := fun k => ?_, attributeGroups_size := ?_ }⟩
    · rw [OrderedMap.get?_insert, OrderedMap.get?_insert, h.attributeGroups]
    · rw [OrderedMap.size_insert_of_get?_eq_none _ hnew,
        OrderedMap.size_insert_of_get?_eq_none _ hnew', h.attributeGroups_size]
  · obtain ⟨log, hadds'⟩ := hadd d'
    exact ⟨_, hadds', { h with }⟩

namespace AddsAll

variable {items : List (Context × Element)} {gs : List (Option Global)}

/-- Sets stay closed over all declarations. -/
theorem closed (h : AddsAll items d gs d₁) (hd : d.Sound) (hclosed : d.set.Closed) :
    d₁.set.Closed := by
  induction h with
  | nil => exact hclosed
  | cons hadds _ ih => exact ih (hadds.declares hd).sound (hadds.closed hd hclosed)

theorem declares (h : AddsAll items d gs d₁) (hd : d.Sound) : Declares (gs.filterMap id) d d₁ := by
  induction h with
  | nil => exact .ofSet hd rfl rfl
  | @cons _ _ _ _ _ _ g _ hadds _ ih =>
    have hfirst := hadds.declares hd
    cases g with
    | none => exact hfirst.append (ih hfirst.sound)
    | some g => exact hfirst.append (ih hfirst.sound)

/-- The same is added to drafts with the same components. -/
theorem renumbered (hadds : AddsAll items d gs d₁) (h : d.Renumbered ρ d')
    (hρ : ρ.FixesBeyond d.set) : ∃ d₁',
      AddsAll items d' (gs.map (Option.map (Global.renumber ρ))) d₁' ∧ d₁.Renumbered ρ d₁' := by
  induction hadds generalizing d' with
  | nil => exact ⟨d', .nil, h⟩
  | cons hadds _ ih =>
    obtain ⟨d₀', hadds', h₀⟩ := hadds.renumbered h hρ
    obtain ⟨d₁', hrest, h₁⟩ := ih h₀ (hρ.of_within hadds.within)
    exact ⟨d₁', .cons hadds' hrest, h₁⟩

end AddsAll

/-- Two children that come one after the other add the same in the other order, unless their order
counts. -/
theorem Adds.swap {x y : Element} {g g' : Option Global} {d d₁ d₂ : Draft} (hd : d.Sound)
    (hclosed : d.set.Closed) (hx : d.Adds context x g d₁) (hy : d₁.Adds context y g' d₂)
    (hfree : ¬ (x.localName ∈ orderedTags ∧ y.localName ∈ orderedTags)) :
    ∃ ρ d₁' d₂', ρ.Fixes d.set ∧ ρ.FixesBeyond d₂.set ∧
      d.Adds context y (g'.map (Global.renumber ρ)) d₁' ∧
      d₁'.Adds context x (g.map (Global.renumber ρ)) d₂' ∧ d₂.Renumbered ρ d₂' := by
  have different {d₁' d₂' : Draft} (hy : d.Adds context y g' d₁') (hx : d₁'.Adds context x g d₂')
      (h : d₂.Renumbered .refl d₂') : ∃ ρ d₁' d₂', ρ.Fixes d.set ∧ ρ.FixesBeyond d₂.set ∧
        d.Adds context y (g'.map (Global.renumber ρ)) d₁' ∧
        d₁'.Adds context x (g.map (Global.renumber ρ)) d₂' ∧ d₂.Renumbered ρ d₂' := by
    have hrefl (g : Option Global) : g.map (Global.renumber .refl) = g := by
      cases g with
      | none => rfl
      | some g => exact congrArg some g.renumber_refl
    refine ⟨.refl, d₁', d₂', Renumbering.fixes_refl _, Renumbering.fixesBeyond_refl _, ?_, ?_, h⟩
    · rwa [hrefl]
    · rwa [hrefl]
  have hquiet {b b' : Draft} (hset : b'.set = b.set) (hgroups : b'.groups = b.groups)
      (hattributes : b'.attributeGroups = b.attributeGroups) (hwaiting : b'.waiting = b.waiting) :
      b.Renumbered .refl b' :=
    .of_set_eq hset (fun _ => by rw [hgroups]) (by rw [hgroups]) (fun _ => by rw [hattributes])
      (by rw [hattributes]) hwaiting
  rcases hx.cases with ⟨g, set₁, rfl, rfl, hgains⟩ | ⟨name, rfl, rfl, hnew, hadd⟩ |
    ⟨name, rfl, rfl, hnew, hadd⟩ | ⟨rfl, ⟨log, rfl⟩, hadd⟩
  · rcases hy.cases with ⟨g', set₂, rfl, rfl, hgains'⟩ | ⟨name', rfl, rfl, hnew', hadd'⟩ |
      ⟨name', rfl, rfl, hnew', hadd'⟩ | ⟨rfl, ⟨log', rfl⟩, hadd'⟩
    · obtain ⟨ρ, set₁', set₂', hρ, hbeyond, hy', hx', hset⟩ :=
        hgains.swap hd.listed hclosed hd.two_le hgains' hfree
      refine ⟨ρ, _, _, hρ, hbeyond, hy'.adds rfl, hx'.adds rfl, fun _ => rfl, rfl, fun _ => rfl,
        rfl, hset, ?_⟩
      exact .of_eq (hd.map_waiting hρ).symm
    · exact different (hadd' d hnew') (hgains.adds rfl) (.refl _)
    · exact different (hadd' d hnew') (hgains.adds rfl) (.refl _)
    · obtain ⟨_, hy'⟩ := hadd' d
      exact different hy' (hgains.adds rfl) (hquiet rfl rfl rfl rfl)
  · rcases hy.cases with ⟨g', set₂, rfl, rfl, hgains'⟩ | ⟨name', rfl, rfl, hnew', hadd'⟩ |
      ⟨name', rfl, rfl, hnew', hadd'⟩ | ⟨rfl, ⟨log', rfl⟩, hadd'⟩
    · exact different (hgains'.adds rfl) (hadd _ hnew) (.refl _)
    · obtain ⟨hne, hfree'⟩ := OrderedMap.of_get?_insert_eq_none hnew'
      refine different (hadd' d hfree') (hadd _ ?_) ?_
      · rwa [OrderedMap.get?_insert, if_neg hne.symm]
      · exact .of_set_eq rfl (fun _ => OrderedMap.get?_insert_insert _ hne.symm _ _ _)
          (OrderedMap.size_insert_insert hnew hnew') (fun _ => rfl) rfl rfl
    · exact different (hadd' d hnew') (hadd _ hnew) (.refl _)
    · obtain ⟨_, hy'⟩ := hadd' d
      exact different hy' (hadd _ hnew) (hquiet rfl rfl rfl rfl)
  · rcases hy.cases with ⟨g', set₂, rfl, rfl, hgains'⟩ | ⟨name', rfl, rfl, hnew', hadd'⟩ |
      ⟨name', rfl, rfl, hnew', hadd'⟩ | ⟨rfl, ⟨log', rfl⟩, hadd'⟩
    · exact different (hgains'.adds rfl) (hadd _ hnew) (.refl _)
    · exact different (hadd' d hnew') (hadd _ hnew) (.refl _)
    · obtain ⟨hne, hfree'⟩ := OrderedMap.of_get?_insert_eq_none hnew'
      refine different (hadd' d hfree') (hadd _ ?_) ?_
      · rwa [OrderedMap.get?_insert, if_neg hne.symm]
      · exact .of_set_eq rfl (fun _ => rfl) rfl
          (fun _ => OrderedMap.get?_insert_insert _ hne.symm _ _ _)
          (OrderedMap.size_insert_insert hnew hnew') rfl
    · obtain ⟨_, hy'⟩ := hadd' d
      exact different hy' (hadd _ hnew) (hquiet rfl rfl rfl rfl)
  · rcases hy.cases with ⟨g', set₂, rfl, rfl, hgains'⟩ | ⟨name', rfl, rfl, hnew', hadd'⟩ |
      ⟨name', rfl, rfl, hnew', hadd'⟩ | ⟨rfl, ⟨log', rfl⟩, hadd'⟩
    · obtain ⟨_, hx'⟩ := hadd { d with set := set₂ }
      exact different (hgains'.adds rfl) hx' (hquiet rfl rfl rfl rfl)
    · obtain ⟨_, hx'⟩ := hadd { d with groups := d.groups.insert name' ⟨y, context⟩ }
      exact different (hadd' d hnew') hx' (hquiet rfl rfl rfl rfl)
    · obtain ⟨_, hx'⟩ :=
        hadd { d with attributeGroups := d.attributeGroups.insert name' ⟨y, context⟩ }
      exact different (hadd' d hnew') hx' (hquiet rfl rfl rfl rfl)
    · obtain ⟨_, hy'⟩ := hadd' d
      obtain ⟨_, hx'⟩ := hadd _
      exact different hy' hx' (hquiet rfl rfl rfl rfl)

end Draft

end Xsd

end SchemaBinding
