import Mathlib.Data.List.Forall2
import SchemaBinding.Xsd.SchemaSet

/-!
# What components refer to

Components refer to each other by their places, and a set has only so many of each kind. What is
said about the components of a set by their names, their namespaces and which types are simple stays
true while components are added and filled in.

## Main definitions

* `SchemaSet.HasType`, `HasElement`, `HasAttribute`, `IsSimple`: which components there are
* `Particle.elements`, `Content.elements`: the elements in content, in order
* `Content.Closed`, `SimpleType.Closed`, `ComplexType.Closed`: what refers to components that are
  there
* `SchemaSet.Listed`: schemas that list components under their names
* `SchemaSet.Grows`: a set has all the components of another one

## Main results

* `SchemaSet.Listed.findType?`, …: what a name means
* `SchemaSet.bind_schemaOf?_eq_map`: what is looked up in sets whose schemas are related
* `ComplexType.Closed.mono`, `SchemaSet.Grows.trans`, …: growing sets
* `SchemaSet.grows_addType`, `grows_modifyType`, …: single changes
-/

namespace SchemaBinding.Xsd

/-! ## Elements in content -/

namespace Particle

mutual

/-- The elements in a particle with their bounds, in order. -/
def elements : Particle → List (Occurs × ElementId)
  | .element occurs e => [(occurs, e)]
  | .group _ _ children => elementsAmong children
  | .wildcard _ => []

/-- The elements in some particles with their bounds, in order. -/
def elementsAmong : List Particle → List (Occurs × ElementId)
  | [] => []
  | p :: ps => p.elements ++ elementsAmong ps

end

/-- Whether a particle is a group. -/
def isGroup : Particle → Bool
  | .group .. => true
  | .element .. | .wildcard _ => false

@[simp] theorem isGroup_withOccurs (p : Particle) (occurs : Occurs) :
    (p.withOccurs occurs).isGroup = p.isGroup := by
  cases p <;> rfl

/-- Other bounds of a group make no difference to the elements in it. -/
theorem elements_withOccurs {p : Particle} (h : p.isGroup = true) (occurs : Occurs) :
    (p.withOccurs occurs).elements = p.elements := by
  cases p with
  | group => rfl
  | element | wildcard => cases h

end Particle

/-- The elements in content with their bounds, in order. -/
def Content.elements : Content → List (Occurs × ElementId)
  | .empty | .simple _ => []
  | .particle p => p.elements

/-- Whether content is a value of a simple type. -/
def Content.isSimple : Content → Bool
  | .simple _ => true
  | .empty | .particle _ => false

/-! ## Components -/

/-- Whether a kind is that of the simple types. -/
def TypeKind.isSimple : TypeKind → Bool
  | .simple _ => true
  | .complex _ => false

theorem TypeDefinition.isSimple_eq (t : TypeDefinition) : t.isSimple = t.kind.isSimple := by
  obtain ⟨name, namespaceUri, base, kind⟩ := t
  cases kind <;> rfl

/-- What is settled about a type when it is declared: its name, and whether it is simple. -/
def TypeDefinition.heading (t : TypeDefinition) : Option String × String × Bool :=
  (t.name, t.namespaceUri, t.isSimple)

/-- What is settled about an element when it is declared. -/
def ElementDeclaration.heading (e : ElementDeclaration) : String × String :=
  (e.name, e.namespaceUri)

/-- What is settled about an attribute when it is declared. -/
def AttributeDeclaration.heading (a : AttributeDeclaration) : String × String :=
  (a.name, a.namespaceUri)

namespace SchemaSet

/-- There is a type at a place. -/
def HasType (set : SchemaSet) (id : TypeId) : Prop := id.index < set.types.size

/-- There is an element at a place. -/
def HasElement (set : SchemaSet) (id : ElementId) : Prop := id.index < set.elements.size

/-- There is an attribute at a place. -/
def HasAttribute (set : SchemaSet) (id : AttributeId) : Prop := id.index < set.attributes.size

/-- There is a simple type at a place. -/
def IsSimple (set : SchemaSet) (id : TypeId) : Prop := (set.type id).isSimple = true

variable {set set' set'' : SchemaSet}

/-- Where no type is, `anyType` is read. -/
theorem type_of_not_hasType {id : TypeId} (h : ¬ set.HasType id) :
    set.type id = anyTypeDefinition := by
  unfold type
  rw [Array.getElem?_eq_none (Nat.le_of_not_lt h)]
  rfl

/-- Where no type is, the one that is read is not simple. -/
theorem IsSimple.hasType {id : TypeId} (h : set.IsSimple id) : set.HasType id := by
  refine Classical.byContradiction fun hnot => ?_
  unfold IsSimple at h
  rw [type_of_not_hasType hnot] at h
  cases h

end SchemaSet

/-! ### Closed components -/

/-- Content that refers to components of a set, and whose particle is a group. -/
def Content.Closed (set : SchemaSet) : Content → Prop
  | .empty => True
  | .simple type => set.IsSimple type
  | .particle p => p.isGroup = true ∧ ∀ occurs e, (occurs, e) ∈ p.elements → set.HasElement e

/-- A simple type whose items or members are simple types of a set. -/
def SimpleType.Closed (set : SchemaSet) (definition : SimpleType) : Prop :=
  match definition.variety with
  | .atomic => True
  | .list item => set.IsSimple item
  | .union members => ∀ member ∈ members, set.IsSimple member

/-- A complex type that refers to components of a set. -/
structure ComplexType.Closed (set : SchemaSet) (definition : ComplexType) : Prop where
  scope : ∀ e, definition.scope = some e → set.HasElement e
  content : definition.content.Closed set
  explicitContent : ∀ content, definition.explicitContent = some content → content.Closed set
  attributes : ∀ use ∈ definition.attributes, set.HasAttribute use.declaration

/-- A schema lists components of a set under their names, which are in its namespace. -/
structure Schema.Lists (set : SchemaSet) (s : Schema) : Prop where
  types : ∀ n id, (n, id) ∈ s.types.entries →
    set.HasType id ∧ (set.type id).name = some n ∧ (set.type id).namespaceUri = s.namespaceUri
  elements : ∀ n id, (n, id) ∈ s.elements.entries →
    set.HasElement id ∧ (set.element id).heading = (n, s.namespaceUri)
  attributes : ∀ n id, (n, id) ∈ s.attributes.entries →
    set.HasAttribute id ∧ (set.attr id).heading = (n, s.namespaceUri)

namespace SchemaSet

/-- All schemas list components under their names. -/
def Listed (set : SchemaSet) : Prop := ∀ s ∈ set.schemas, s.Lists set

variable {set set' set'' : SchemaSet}

theorem exists_of_schemaOf? {name : Xml.QName} {s : Schema} (h : set.schemaOf? name = some s) :
    s ∈ set.schemas ∧ lookupNamespace? name = some s.namespaceUri := by
  obtain ⟨uri, huri, hs⟩ := Option.bind_eq_some_iff.mp h
  refine ⟨List.mem_of_find?_eq_some hs, ?_⟩
  rw [huri, show s.namespaceUri = uri by simpa using List.find?_some hs]

/-- The type that a name means has that name. -/
theorem Listed.findType? (h : set.Listed) {name : Xml.QName} {id : TypeId}
    (hid : set.findType? name = some id) : set.HasType id ∧
      (set.type id).name = some name.localName ∧
      lookupNamespace? name = some (set.type id).namespaceUri := by
  obtain ⟨s, hs, hid⟩ := Option.bind_eq_some_iff.mp hid
  obtain ⟨hmem, huri⟩ := exists_of_schemaOf? hs
  obtain ⟨hhas, hname, hns⟩ := (h s hmem).types _ _ (OrderedMap.get?_eq_some_iff.mp hid)
  exact ⟨hhas, hname, hns ▸ huri⟩

theorem Listed.findElement? (h : set.Listed) {name : Xml.QName} {id : ElementId}
    (hid : set.findElement? name = some id) : set.HasElement id := by
  obtain ⟨s, hs, hid⟩ := Option.bind_eq_some_iff.mp hid
  exact ((h s (exists_of_schemaOf? hs).1).elements _ _ (OrderedMap.get?_eq_some_iff.mp hid)).1

theorem Listed.findAttribute? (h : set.Listed) {name : Xml.QName} {id : AttributeId}
    (hid : set.findAttribute? name = some id) : set.HasAttribute id := by
  obtain ⟨s, hs, hid⟩ := Option.bind_eq_some_iff.mp hid
  exact ((h s (exists_of_schemaOf? hs).1).attributes _ _ (OrderedMap.get?_eq_some_iff.mp hid)).1

/-! ## Growing -/

/-- A set has all the components of another one, with what is settled about them. -/
structure Grows (set set' : SchemaSet) : Prop where
  hasType : ∀ id, set.HasType id → set'.HasType id
  hasElement : ∀ id, set.HasElement id → set'.HasElement id
  hasAttribute : ∀ id, set.HasAttribute id → set'.HasAttribute id
  type : ∀ id, set.HasType id → (set'.type id).heading = (set.type id).heading
  element : ∀ id, set.HasElement id → (set'.element id).heading = (set.element id).heading
  attr : ∀ id, set.HasAttribute id → (set'.attr id).heading = (set.attr id).heading

namespace Grows

theorem refl (set : SchemaSet) : set.Grows set :=
  ⟨fun _ h => h, fun _ h => h, fun _ h => h, fun _ _ => rfl, fun _ _ => rfl, fun _ _ => rfl⟩

theorem trans (h : set.Grows set') (h' : set'.Grows set'') : set.Grows set'' where
  hasType id hid := h'.hasType id (h.hasType id hid)
  hasElement id hid := h'.hasElement id (h.hasElement id hid)
  hasAttribute id hid := h'.hasAttribute id (h.hasAttribute id hid)
  type id hid := (h'.type id (h.hasType id hid)).trans (h.type id hid)
  element id hid := (h'.element id (h.hasElement id hid)).trans (h.element id hid)
  attr id hid := (h'.attr id (h.hasAttribute id hid)).trans (h.attr id hid)

section

variable (h : set.Grows set')
include h

theorem isSimple_eq {id : TypeId} (hid : set.HasType id) :
    (set'.type id).isSimple = (set.type id).isSimple :=
  congrArg (fun heading => heading.2.2) (h.type id hid)

theorem isSimple {id : TypeId} (hid : set.IsSimple id) : set'.IsSimple id :=
  (h.isSimple_eq hid.hasType).trans hid

/-- A schema lists components that are still there when the set has grown. -/
theorem lists {s : Schema} (hs : s.Lists set) : s.Lists set' where
  types n id hid := by
    obtain ⟨hhas, hname, hns⟩ := hs.types n id hid
    have hheading := h.type id hhas
    exact ⟨h.hasType id hhas, (congrArg (·.1) hheading).trans hname,
      (congrArg (·.2.1) hheading).trans hns⟩
  elements n id hid := by
    obtain ⟨hhas, hname⟩ := hs.elements n id hid
    exact ⟨h.hasElement id hhas, (h.element id hhas).trans hname⟩
  attributes n id hid := by
    obtain ⟨hhas, hname⟩ := hs.attributes n id hid
    exact ⟨h.hasAttribute id hhas, (h.attr id hhas).trans hname⟩

/-- The schemas of a set that has grown list its components, if they are the same. -/
theorem listed (hs : set'.schemas = set.schemas) (hset : set.Listed) : set'.Listed := by
  intro s hmem
  rw [hs] at hmem
  exact h.lists (hset s hmem)

end

end Grows

end SchemaSet

/-! ### Sets whose schemas are related -/

namespace SchemaSet

variable {R : Schema → Schema → Prop} (hR : ∀ s s', R s s' → s'.namespaceUri = s.namespaceUri)
include hR

/-- The schema in which a name is looked up. -/
theorem rel_schemaOf? {set set' : SchemaSet} (h : List.Forall₂ R set.schemas set'.schemas)
    (name : Xml.QName) : Option.Rel R (set.schemaOf? name) (set'.schemaOf? name) := by
  unfold schemaOf?
  cases lookupNamespace? name with
  | none => exact .none
  | some uri =>
    show Option.Rel R (set.schema? uri) (set'.schema? uri)
    unfold schema?
    generalize set.schemas = ss at h
    generalize set'.schemas = ss' at h
    induction h with
    | nil => exact .none
    | @cons s s' ss ss' hs _ ih =>
      rw [List.find?_cons, List.find?_cons, hR s s' hs]
      split
      · exact .some hs
      · exact ih

/-- What is found in the schema of a name. -/
theorem bind_schemaOf?_eq_map {α β : Type} {view : Schema → Option α} {view' : Schema → Option β}
    {m : α → β} (hview : ∀ s s', R s s' → view' s' = (view s).map m) {set set' : SchemaSet}
    (h : List.Forall₂ R set.schemas set'.schemas) (name : Xml.QName) :
    (set'.schemaOf? name).bind view' = ((set.schemaOf? name).bind view).map m := by
  have hrel := rel_schemaOf? hR h name
  generalize set.schemaOf? name = found at hrel
  generalize set'.schemaOf? name = found' at hrel
  cases hrel with
  | none => rfl
  | some hs => exact hview _ _ hs

/-- The schemas of a namespace are changed alike. -/
theorem forall₂_modifySchemas {uri : String} {f f' : Schema → Schema}
    (hempty : R (.empty uri) (.empty uri)) (hf : ∀ s s', R s s' → R (f s) (f' s'))
    {ss ss' : List Schema} (h : List.Forall₂ R ss ss') :
    List.Forall₂ R (modifySchemas uri f ss) (modifySchemas uri f' ss') := by
  induction h with
  | nil => exact .cons (hf _ _ hempty) .nil
  | @cons s s' _ _ hs hrest ih =>
    unfold modifySchemas
    rw [hR s s' hs]
    split
    · exact .cons (hf _ _ hs) hrest
    · exact .cons hs ih

end SchemaSet

/-! ### What stays closed -/

section Mono

variable {set set' : SchemaSet} (h : set.Grows set')
include h

theorem Content.Closed.mono {content : Content} (hc : content.Closed set) :
    content.Closed set' := by
  cases content with
  | empty => trivial
  | simple type => exact h.isSimple hc
  | particle p => exact ⟨hc.1, fun occurs e he => h.hasElement e (hc.2 occurs e he)⟩

theorem SimpleType.Closed.mono {definition : SimpleType} (hd : definition.Closed set) :
    definition.Closed set' := by
  obtain ⟨variety, facets⟩ := definition
  cases variety with
  | atomic => trivial
  | list item => exact h.isSimple hd
  | union members => exact fun member hm => h.isSimple (hd member hm)

theorem ComplexType.Closed.mono {definition : ComplexType} (hd : definition.Closed set) :
    definition.Closed set' where
  scope e he := h.hasElement e (hd.scope e he)
  content := hd.content.mono h
  explicitContent content hcontent := (hd.explicitContent content hcontent).mono h
  attributes use huse := h.hasAttribute _ (hd.attributes use huse)

end Mono

/-! ### Single changes -/

/-- An array is changed at one place only. -/
theorem getD_modify {α : Type} {xs : Array α} {i : Nat} (hi : i < xs.size) (f : α → α) (a : α)
    (j : Nat) :
    (xs.modify i f)[j]?.getD a = if j = i then f (xs[i]?.getD a) else xs[j]?.getD a := by
  rw [Array.getElem?_modify]
  by_cases h : i = j
  · subst h
    simp [Array.getElem?_eq_getElem hi]
  · rw [if_neg h, if_neg (Ne.symm h)]

namespace SchemaSet

variable (set : SchemaSet)

/-! #### Types -/

theorem hasType_addType {t : TypeDefinition} {id : TypeId} :
    (set.addType t).2.HasType id ↔ set.HasType id ∨ id = (set.addType t).1 := by
  obtain ⟨i⟩ := id
  simp only [HasType, addType, Array.size_push, TypeId.mk.injEq]
  omega

theorem type_addType (t : TypeDefinition) (id : TypeId) :
    (set.addType t).2.type id = if id = (set.addType t).1 then t else set.type id := by
  obtain ⟨i⟩ := id
  simp only [type, addType, Array.getElem?_push, TypeId.mk.injEq]
  split <;> rfl

theorem type_addType_of_has (t : TypeDefinition) {id : TypeId} (h : set.HasType id) :
    (set.addType t).2.type id = set.type id := by
  rw [type_addType, if_neg]
  rintro rfl
  exact Nat.lt_irrefl _ h

/-- A set grows by a type. -/
theorem grows_addType (t : TypeDefinition) : set.Grows (set.addType t).2 where
  hasType id h := set.hasType_addType.mpr (.inl h)
  hasElement id h := h
  hasAttribute id h := h
  type id h := by rw [set.type_addType_of_has t h]
  element id h := rfl
  attr id h := rfl

@[simp] theorem hasType_modifyType {id i : TypeId} {f : TypeDefinition → TypeDefinition} :
    (set.modifyType id f).HasType i ↔ set.HasType i := by
  simp [HasType, modifyType]

/-- One type is changed, and the other ones are as before. -/
theorem type_modifyType {id : TypeId} (hid : set.HasType id) (f : TypeDefinition → TypeDefinition)
    (i : TypeId) :
    (set.modifyType id f).type i = if i = id then f (set.type id) else set.type i := by
  obtain ⟨j⟩ := id
  obtain ⟨i⟩ := i
  simp only [TypeId.mk.injEq]
  exact getD_modify hid f default i

/-- Other types stay as they are, also if there is no type to change. -/
theorem type_modifyType_of_ne {id i : TypeId} (h : i ≠ id) (f : TypeDefinition → TypeDefinition) :
    (set.modifyType id f).type i = set.type i := by
  obtain ⟨j⟩ := id
  obtain ⟨i⟩ := i
  simp only [type, modifyType, Array.getElem?_modify]
  rw [if_neg fun heq => h (congrArg TypeId.mk heq.symm)]

/-- A set grows if one of its types is defined under the heading that it has. -/
theorem grows_modifyType {id : TypeId} (hid : set.HasType id) {f : TypeDefinition → TypeDefinition}
    (hf : (f (set.type id)).heading = (set.type id).heading) :
    set.Grows (set.modifyType id f) where
  hasType i h := set.hasType_modifyType.mpr h
  hasElement i h := h
  hasAttribute i h := h
  type i h := by
    rw [set.type_modifyType hid]
    split
    · next heq => rw [hf, heq]
    · rfl
  element i h := rfl
  attr i h := rfl

/-! #### Elements -/

theorem hasElement_addElement {e : ElementDeclaration} {id : ElementId} :
    (set.addElement e).2.HasElement id ↔ set.HasElement id ∨ id = (set.addElement e).1 := by
  obtain ⟨i⟩ := id
  simp only [HasElement, addElement, Array.size_push, ElementId.mk.injEq]
  omega

theorem element_addElement (e : ElementDeclaration) (id : ElementId) :
    (set.addElement e).2.element id = if id = (set.addElement e).1 then e else set.element id := by
  obtain ⟨i⟩ := id
  simp only [element, addElement, Array.getElem?_push, ElementId.mk.injEq]
  split <;> rfl

theorem grows_addElement (e : ElementDeclaration) : set.Grows (set.addElement e).2 where
  hasType id h := h
  hasElement id h := set.hasElement_addElement.mpr (.inl h)
  hasAttribute id h := h
  type id h := rfl
  element id h := by
    rw [set.element_addElement, if_neg]
    rintro rfl
    exact Nat.lt_irrefl _ h
  attr id h := rfl

@[simp] theorem hasElement_modifyElement {id i : ElementId}
    {f : ElementDeclaration → ElementDeclaration} :
    (set.modifyElement id f).HasElement i ↔ set.HasElement i := by
  simp [HasElement, modifyElement]

theorem element_modifyElement {id : ElementId} (hid : set.HasElement id)
    (f : ElementDeclaration → ElementDeclaration) (i : ElementId) :
    (set.modifyElement id f).element i = if i = id then f (set.element id) else set.element i := by
  obtain ⟨j⟩ := id
  obtain ⟨i⟩ := i
  simp only [ElementId.mk.injEq]
  exact getD_modify hid f default i

theorem grows_modifyElement {id : ElementId} (hid : set.HasElement id)
    {f : ElementDeclaration → ElementDeclaration} (hf : ∀ e, (f e).heading = e.heading) :
    set.Grows (set.modifyElement id f) where
  hasType i h := h
  hasElement i h := set.hasElement_modifyElement.mpr h
  hasAttribute i h := h
  type i h := rfl
  element i h := by
    rw [set.element_modifyElement hid]
    split
    · next heq => rw [hf, heq]
    · rfl
  attr i h := rfl

/-! #### Attributes -/

theorem hasAttribute_addAttribute {a : AttributeDeclaration} {id : AttributeId} :
    (set.addAttribute a).2.HasAttribute id ↔ set.HasAttribute id ∨ id = (set.addAttribute a).1 := by
  obtain ⟨i⟩ := id
  simp only [HasAttribute, addAttribute, Array.size_push, AttributeId.mk.injEq]
  omega

theorem attr_addAttribute (a : AttributeDeclaration) (id : AttributeId) :
    (set.addAttribute a).2.attr id = if id = (set.addAttribute a).1 then a else set.attr id := by
  obtain ⟨i⟩ := id
  simp only [attr, addAttribute, Array.getElem?_push, AttributeId.mk.injEq]
  split <;> rfl

theorem attr_addAttribute_of_has (a : AttributeDeclaration) {id : AttributeId}
    (h : set.HasAttribute id) : (set.addAttribute a).2.attr id = set.attr id := by
  rw [attr_addAttribute, if_neg]
  rintro rfl
  exact Nat.lt_irrefl _ h

theorem grows_addAttribute (a : AttributeDeclaration) : set.Grows (set.addAttribute a).2 where
  hasType id h := h
  hasElement id h := h
  hasAttribute id h := set.hasAttribute_addAttribute.mpr (.inl h)
  type id h := rfl
  element id h := rfl
  attr id h := by rw [set.attr_addAttribute_of_has a h]

@[simp] theorem hasAttribute_modifyAttribute {id i : AttributeId}
    {f : AttributeDeclaration → AttributeDeclaration} :
    (set.modifyAttribute id f).HasAttribute i ↔ set.HasAttribute i := by
  simp [HasAttribute, modifyAttribute]

theorem attr_modifyAttribute {id : AttributeId} (hid : set.HasAttribute id)
    (f : AttributeDeclaration → AttributeDeclaration) (i : AttributeId) :
    (set.modifyAttribute id f).attr i = if i = id then f (set.attr id) else set.attr i := by
  obtain ⟨j⟩ := id
  obtain ⟨i⟩ := i
  simp only [AttributeId.mk.injEq]
  exact getD_modify hid f default i

theorem grows_modifyAttribute {id : AttributeId} (hid : set.HasAttribute id)
    {f : AttributeDeclaration → AttributeDeclaration} (hf : ∀ a, (f a).heading = a.heading) :
    set.Grows (set.modifyAttribute id f) where
  hasType i h := h
  hasElement i h := h
  hasAttribute i h := set.hasAttribute_modifyAttribute.mpr h
  type i h := rfl
  element i h := rfl
  attr i h := by
    rw [set.attr_modifyAttribute hid]
    split
    · next heq => rw [hf, heq]
    · rfl

end SchemaSet

end SchemaBinding.Xsd
