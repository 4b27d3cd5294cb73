import SchemaBinding.Proofs.Outcome
import SchemaBinding.Proofs.Xsd.References
import SchemaBinding.Xsd.Reading

/-!
# How drafts advance

While something is read into a component, a draft gets further components. Those that it had stay as
they are, but for the component that is read into, and the new ones are settled: a type says what a
type of its kind can say, and has been put among the waiting ones if its content depends on that of
its base.

## Main definitions

* `Draft.Sound`: what holds of a draft at all times
* `SchemaSet.Says`: what a type says, and what its content waits for
* `Draft.Settled`: a type that has been read
* `Draft.Pending`: a type that is still to be read
* `Draft.Advances`: what reading into some components brings about

## Main results

* `Draft.Advances.trans`, `Draft.Advances.close`: several steps
* `DraftM.returns_newType`, `returns_await`, …: single steps
-/

namespace SchemaBinding.Xsd

open Xml (Element QName)

/-! ## Drafts -/

namespace Draft

/-- What the content of a type waits for. -/
def waitingOf (d : Draft) (id : TypeId) : List Inheritance :=
  (d.waiting.filter fun w => w.1 = id).map Prod.snd

/-- What holds of a draft at all times. Elements are of types that are there; that their types are
settled is not said. -/
structure Sound (d : Draft) : Prop where
  listed : d.set.Listed
  anySimpleType : d.set.IsSimple SchemaSet.anySimpleType
  elements : ∀ id, d.set.HasElement id → d.set.HasType (d.set.element id).type
  waiting : ∀ w ∈ d.waiting, d.set.HasType w.1

theorem Sound.anyType {d : Draft} (h : d.Sound) : d.set.HasType SchemaSet.anyType :=
  Nat.lt_trans Nat.zero_lt_one h.anySimpleType.hasType

/-- A draft that has more components is sound if the schemas are the same. -/
theorem Sound.ofGrows {d d' : Draft} (h : d.Sound) (hgrows : d.set.Grows d'.set)
    (hschemas : d'.set.schemas = d.set.schemas)
    (helements : ∀ id, d'.set.HasElement id → d'.set.HasType (d'.set.element id).type)
    (hwaiting : ∀ w ∈ d'.waiting, d'.set.HasType w.1) : d'.Sound where
  listed := hgrows.listed hschemas h.listed
  anySimpleType := hgrows.isSimple h.anySimpleType
  elements := helements
  waiting := hwaiting

/-- Nothing waits where there is no type. -/
theorem Sound.waitingOf_eq_nil {d : Draft} (h : d.Sound) {id : TypeId} (hid : ¬ d.set.HasType id) :
    d.waitingOf id = [] := by
  unfold waitingOf
  rw [List.map_eq_nil_iff, List.filter_eq_nil_iff]
  intro w hw heq
  exact hid (of_decide_eq_true heq ▸ h.waiting w hw)

end Draft

/-- What a type with a base can say, and what its content waits for. -/
inductive SchemaSet.Says (set : SchemaSet) (base : TypeId) : TypeKind → List Inheritance → Prop
  /-- A simple type. -/
  | simple {definition : SimpleType} : set.IsSimple base → definition.Closed set →
      Says set base (.simple definition) []
  /-- A complex type that has its own content only. -/
  | content {definition : ComplexType} : set.HasType base → definition.Closed set →
      definition.explicitContent = none → definition.content.isSimple = false →
      Says set base (.complex definition) []
  /-- A complex type with the values of a simple type. -/
  | simpleBase {definition : ComplexType} : set.IsSimple base → definition.Closed set →
      definition.explicitContent = none → definition.content = .simple base →
      Says set base (.complex definition) []
  /-- A complex type with simple content like that of its base. -/
  | simpleContent {definition : ComplexType} : set.HasType base →
      (set.type base).isComplex = true → definition.Closed set →
      definition.explicitContent = none → definition.content = .empty →
      Says set base (.complex definition) [.simpleContent]
  /-- A complex type whose content follows that of its base. -/
  | extension {definition : ComplexType} : set.HasType base → (set.type base).isComplex = true →
      definition.Closed set → definition.explicitContent = some definition.content →
      definition.content.isSimple = false → Says set base (.complex definition) [.extension]

/-- A type stays complex while the set grows. -/
theorem SchemaSet.Grows.isComplex {set set' : SchemaSet} (h : set.Grows set') {id : TypeId}
    (hid : set.HasType id) (hc : (set.type id).isComplex = true) :
    (set'.type id).isComplex = true := by
  unfold TypeDefinition.isComplex
  rw [h.isSimple_eq hid]
  exact hc

theorem SchemaSet.Says.mono {set set' : SchemaSet} (h : set.Grows set') {base : TypeId}
    {kind : TypeKind} {waiting : List Inheritance} (hs : set.Says base kind waiting) :
    set'.Says base kind waiting := by
  cases hs with
  | simple hb hd => exact .simple (h.isSimple hb) (hd.mono h)
  | content hb hd hexplicit hcontent =>
    exact .content (h.hasType _ hb) (hd.mono h) hexplicit hcontent
  | simpleBase hb hd hexplicit hcontent =>
    exact .simpleBase (h.isSimple hb) (hd.mono h) hexplicit hcontent
  | simpleContent hb hc hd hexplicit hcontent =>
    exact .simpleContent (h.hasType _ hb) (h.isComplex hb hc) (hd.mono h) hexplicit hcontent
  | extension hb hc hd hexplicit hcontent =>
    exact .extension (h.hasType _ hb) (h.isComplex hb hc) (hd.mono h) hexplicit hcontent

/-- A component that something is read into. -/
inductive Part where
  | element (id : ElementId)
  | attr (id : AttributeId)
  | type (id : TypeId)

namespace Draft

/-- A type has been read. -/
def Settled (d : Draft) (id : TypeId) : Prop :=
  d.set.Says (d.set.baseOf id) (d.set.type id).kind (d.waitingOf id)

/-- A declared type that is still to be read. -/
structure Pending (d : Draft) (id : TypeId) (isSimple : Bool) : Prop where
  has : d.set.HasType id
  not_builtin : SchemaSet.anySimpleType.index < id.index
  isSimple_eq : (d.set.type id).isSimple = isSimple
  waiting : d.waitingOf id = []

/-- What reading into some components brings about: further components that are settled, but for
those that are read into. -/
structure Advances (parts : List Part) (d d' : Draft) : Prop where
  sound : d'.Sound
  schemas : d'.set.schemas = d.set.schemas
  grows : d.set.Grows d'.set
  type : ∀ id, d.set.HasType id → .type id ∉ parts →
    d'.set.type id = d.set.type id ∧ d'.waitingOf id = d.waitingOf id
  newType : ∀ id, ¬ d.set.HasType id → d'.set.HasType id → .type id ∉ parts →
    d'.Settled id ∧ d'.set.baseOf id ≠ id
  element : ∀ id, d.set.HasElement id → .element id ∉ parts →
    d'.set.element id = d.set.element id
  attr : ∀ id, d.set.HasAttribute id → .attr id ∉ parts → d'.set.attr id = d.set.attr id
  newAttribute : ∀ id, ¬ d.set.HasAttribute id → d'.set.HasAttribute id → .attr id ∉ parts →
    d'.set.IsSimple (d'.set.attr id).type

namespace Advances

variable {parts parts' : List Part} {d d' d'' : Draft}

theorem refl (parts : List Part) (h : d.Sound) : Advances parts d d where
  sound := h
  schemas := rfl
  grows := .refl _
  type _ _ _ := ⟨rfl, rfl⟩
  newType _ hnot h _ := absurd h hnot
  element _ _ _ := rfl
  attr _ _ _ := rfl
  newAttribute _ hnot h _ := absurd h hnot

section

variable (h : Advances parts d d')
include h

theorem baseOf_eq {id : TypeId} (hid : d.set.HasType id) (hp : .type id ∉ parts) :
    d'.set.baseOf id = d.set.baseOf id :=
  congrArg TypeDefinition.base (h.type id hid hp).1

/-- A type that has been read stays so. -/
theorem settled {id : TypeId} (hid : d.set.HasType id) (hp : .type id ∉ parts)
    (hs : d.Settled id) : d'.Settled id := by
  obtain ⟨htype, hwaiting⟩ := h.type id hid hp
  unfold Settled
  rw [h.baseOf_eq hid hp, htype, hwaiting]
  exact SchemaSet.Says.mono h.grows hs

theorem pending {id : TypeId} {isSimple : Bool} (hp : .type id ∉ parts)
    (hs : d.Pending id isSimple) : d'.Pending id isSimple where
  has := h.grows.hasType id hs.has
  not_builtin := hs.not_builtin
  isSimple_eq := (h.grows.isSimple_eq hs.has).trans hs.isSimple_eq
  waiting := (h.type id hs.has hp).2.trans hs.waiting

theorem findType?_eq : d'.set.findType? = d.set.findType? := by
  unfold SchemaSet.findType? SchemaSet.schemaOf? SchemaSet.schema?
  rw [h.schemas]

theorem mono (hparts : parts ⊆ parts') : Advances parts' d d' where
  sound := h.sound
  schemas := h.schemas
  grows := h.grows
  type id hid hp := h.type id hid fun hp' => hp (hparts hp')
  newType id hnot hid hp := h.newType id hnot hid fun hp' => hp (hparts hp')
  element id hid hp := h.element id hid fun hp' => hp (hparts hp')
  attr id hid hp := h.attr id hid fun hp' => hp (hparts hp')
  newAttribute id hnot hid hp := h.newAttribute id hnot hid fun hp' => hp (hparts hp')

theorem trans (h' : Advances parts d' d'') : Advances parts d d'' where
  sound := h'.sound
  schemas := h'.schemas.trans h.schemas
  grows := h.grows.trans h'.grows
  type id hid hp := by
    obtain ⟨htype, hwaiting⟩ := h.type id hid hp
    obtain ⟨htype', hwaiting'⟩ := h'.type id (h.grows.hasType id hid) hp
    exact ⟨htype'.trans htype, hwaiting'.trans hwaiting⟩
  newType id hnot hid hp := by
    by_cases hmid : d'.set.HasType id
    · obtain ⟨hs, hb⟩ := h.newType id hnot hmid hp
      exact ⟨h'.settled hmid hp hs, (h'.baseOf_eq hmid hp).symm ▸ hb⟩
    · exact h'.newType id hmid hid hp
  element id hid hp :=
    (h'.element id (h.grows.hasElement id hid) hp).trans (h.element id hid hp)
  attr id hid hp := (h'.attr id (h.grows.hasAttribute id hid) hp).trans (h.attr id hid hp)
  newAttribute id hnot hid hp := by
    by_cases hmid : d'.set.HasAttribute id
    · rw [h'.attr id hmid hp]
      exact h'.grows.isSimple (h.newAttribute id hnot hmid hp)
    · exact h'.newAttribute id hmid hid hp

end

/-- When a new type has been read, it is one of the new types that are settled. -/
theorem close {id : TypeId} (h : Advances [.type id] d d') (hnot : ¬ d.set.HasType id)
    (hs : d'.Settled id) (hb : d'.set.baseOf id ≠ id) : Advances [] d d' where
  sound := h.sound
  schemas := h.schemas
  grows := h.grows
  type i hi _ := h.type i hi (by simpa using fun heq : i = id => hnot (heq ▸ hi))
  newType i hnot hi _ := by
    by_cases heq : i = id
    · exact heq ▸ ⟨hs, hb⟩
    · exact h.newType i hnot hi (by simpa using heq)
  element i hi _ := h.element i hi (by simp)
  attr i hi _ := h.attr i hi (by simp)
  newAttribute i hnot hi _ := h.newAttribute i hnot hi (by simp)

/-- When a new attribute has been read, it is one of the new attributes with simple types. -/
theorem closeAttribute {id : AttributeId} (h : Advances [.attr id] d d')
    (hnot : ¬ d.set.HasAttribute id) (hs : d'.set.IsSimple (d'.set.attr id).type) :
    Advances [] d d' where
  sound := h.sound
  schemas := h.schemas
  grows := h.grows
  type i hi _ := h.type i hi (by simp)
  newType i hnot hi _ := h.newType i hnot hi (by simp)
  element i hi _ := h.element i hi (by simp)
  attr i hi _ := h.attr i hi (by simpa using fun heq : i = id => hnot (heq ▸ hi))
  newAttribute i hnot hi _ := by
    by_cases heq : i = id
    · exact heq ▸ hs
    · exact h.newAttribute i hnot hi (by simpa using heq)

/-- When a new element has been read, it is one of the new elements. -/
theorem closeElement {id : ElementId} (h : Advances [.element id] d d')
    (hnot : ¬ d.set.HasElement id) : Advances [] d d' where
  sound := h.sound
  schemas := h.schemas
  grows := h.grows
  type i hi _ := h.type i hi (by simp)
  newType i hnot hi _ := h.newType i hnot hi (by simp)
  element i hi _ := h.element i hi (by simpa using fun heq : i = id => hnot (heq ▸ hi))
  attr i hi _ := h.attr i hi (by simp)
  newAttribute i hnot hi _ := h.newAttribute i hnot hi (by simp)

end Advances

end Draft

/-! ## Single steps -/

namespace DraftM

open Draft (Advances)

variable {d : Draft} (hd : d.Sound)
include hd

theorem returns_report (level : Log.Level) (text : String) :
    Returns d (report level text) fun _ d' => Advances [] d d' := by
  unfold report
  rw [returns_modify]
  have h := Advances.refl [] hd
  exact ⟨⟨hd.listed, hd.anySimpleType, hd.elements, hd.waiting⟩, h.schemas, h.grows, h.type,
    fun _ hnot hid _ => absurd hid hnot, h.element, h.attr, h.newAttribute⟩

/-! ### Types -/

omit hd in
/-- A type that is added is the last one, under its name and of the root of all types. -/
theorem returns_newType_eq (name : Option String) (context : Context) (kind : TypeKind) :
    Returns d (newType name context kind) fun id d' =>
      let t : TypeDefinition := ⟨name, context.targetNamespace, SchemaSet.anyType, kind⟩
      id = (d.set.addType t).1 ∧ d' = { d with set := (d.set.addType t).2 } := by
  simp [newType, getSet, modifySet]

/-- A type is added, and has to be defined yet. -/
theorem advances_addType (t : TypeDefinition) :
    Advances [.type (d.set.addType t).1] d { d with set := (d.set.addType t).2 } where
  sound := hd.ofGrows (d.set.grows_addType t) rfl
    (fun id hid => (d.set.grows_addType t).hasType _ (hd.elements id hid))
    fun w hw => (d.set.grows_addType t).hasType _ (hd.waiting w hw)
  schemas := rfl
  grows := d.set.grows_addType t
  type id hid _ := ⟨d.set.type_addType_of_has t hid, rfl⟩
  newType id hnot hid hp :=
    absurd ((d.set.hasType_addType.mp hid).resolve_left hnot) (by simpa using hp)
  element _ _ _ := rfl
  attr _ _ _ := rfl
  newAttribute _ hnot hid := absurd hid hnot

theorem returns_newType (name : Option String) (context : Context) (kind : TypeKind) :
    Returns d (newType name context kind) fun id d' => Advances [.type id] d d' ∧
      ¬ d.set.HasType id ∧ d'.set.HasType id ∧ d'.waiting = d.waiting ∧
      d'.set.type id = ⟨name, context.targetNamespace, SchemaSet.anyType, kind⟩ := by
  refine (returns_newType_eq name context kind).mono ?_
  rintro _ _ ⟨rfl, rfl⟩
  refine ⟨advances_addType hd _, Nat.lt_irrefl _, d.set.hasType_addType.mpr (.inr rfl), rfl, ?_⟩
  rw [d.set.type_addType, if_pos rfl]

/-- What a type says may be set if the type stays simple or complex. -/
theorem returns_defineType {id base : TypeId} {kind : TypeKind} (hid : d.set.HasType id)
    (hkind : (d.set.type id).isSimple = kind.isSimple) :
    Returns d (defineType id base kind) fun _ d' => Advances [.type id] d d' ∧
      d'.set.baseOf id = base ∧ (d'.set.type id).kind = kind ∧
      d'.waitingOf id = d.waitingOf id := by
  unfold defineType modifySet
  rw [returns_modify]
  have htype := d.set.type_modifyType hid fun t => { t with base := base, kind := kind }
  have hgrows := d.set.grows_modifyType hid
    (f := fun t => { t with base := base, kind := kind })
    (by simp [TypeDefinition.heading, hkind, TypeDefinition.isSimple_eq])
  refine ⟨?_, ?_, ?_, rfl⟩
  · exact {
      sound := hd.ofGrows hgrows rfl (fun id hid => hgrows.hasType _ (hd.elements id hid))
        fun w hw => hgrows.hasType _ (hd.waiting w hw)
      schemas := rfl
      grows := hgrows
      type := fun i _ hp => ⟨(htype i).trans (if_neg (by simpa using hp)), rfl⟩
      newType := fun i hnot hi => absurd (d.set.hasType_modifyType.mp hi) hnot
      element := fun _ _ _ => rfl
      attr := fun _ _ _ => rfl
      newAttribute := fun _ hnot hid => absurd hid hnot }
  · unfold SchemaSet.baseOf
    rw [htype, if_pos rfl]
  · rw [htype, if_pos rfl]

theorem returns_await {id : TypeId} (hid : d.set.HasType id) (inheritance : Inheritance) :
    Returns d (await id inheritance) fun _ d' => Advances [.type id] d d' ∧
      d'.set = d.set ∧ d'.waitingOf id = d.waitingOf id ++ [inheritance] := by
  unfold await
  rw [returns_modify]
  refine ⟨?_, rfl, by simp [Draft.waitingOf]⟩
  exact {
    sound := hd.ofGrows (.refl _) rfl hd.elements fun w hw => by
      rcases List.mem_append.mp hw with hw | hw
      · exact hd.waiting w hw
      · rw [List.mem_singleton.mp hw]
        exact hid
    schemas := rfl
    grows := .refl _
    type := fun i _ hp => ⟨rfl, by
      have hne : id ≠ i := by simpa [eq_comm] using hp
      simp [Draft.waitingOf, hne]⟩
    newType := fun i hnot hi => absurd hi hnot
    element := fun _ _ _ => rfl
    attr := fun _ _ _ => rfl
    newAttribute := fun _ hnot hid => absurd hid hnot }

/-! ### Elements -/

omit hd in
theorem returns_newElement_eq (name namespaceUri : String) (isGlobal : Bool) :
    Returns d (newElement name namespaceUri isGlobal) fun id d' =>
      let e : ElementDeclaration :=
        ⟨name, namespaceUri, SchemaSet.anyType, none, none, false, isGlobal⟩
      id = (d.set.addElement e).1 ∧ d' = { d with set := (d.set.addElement e).2 } := by
  simp [newElement, getSet, modifySet]

theorem advances_addElement {e : ElementDeclaration} (he : d.set.HasType e.type) :
    Advances [] d { d with set := (d.set.addElement e).2 } where
  sound := hd.ofGrows (d.set.grows_addElement e) rfl (fun id hid => by
    rw [d.set.element_addElement]
    split
    · exact he
    · next hne => exact hd.elements id ((d.set.hasElement_addElement.mp hid).resolve_right hne))
    hd.waiting
  schemas := rfl
  grows := d.set.grows_addElement e
  type _ _ _ := ⟨rfl, rfl⟩
  newType _ hnot hid := absurd hid hnot
  element id hid _ := by
    rw [d.set.element_addElement, if_neg]
    rintro rfl
    exact Nat.lt_irrefl _ hid
  attr _ _ _ := rfl
  newAttribute _ hnot hid := absurd hid hnot

/-- An element that is added has not been there before. -/
theorem returns_newElement (name namespaceUri : String) (isGlobal : Bool) :
    Returns d (newElement name namespaceUri isGlobal) fun id d' =>
      Advances [] d d' ∧ ¬ d.set.HasElement id ∧ d'.set.HasElement id := by
  refine (returns_newElement_eq name namespaceUri isGlobal).mono ?_
  rintro _ _ ⟨rfl, rfl⟩
  exact ⟨advances_addElement hd hd.anyType, Nat.lt_irrefl _,
    d.set.hasElement_addElement.mpr (.inr rfl)⟩

/-- What an element says may be set if its type is there. -/
theorem advances_modifyElement {id : ElementId} (hid : d.set.HasElement id)
    {f : ElementDeclaration → ElementDeclaration} (hf : ∀ e, (f e).heading = e.heading)
    (htype : ∀ e, d.set.HasType (f e).type) :
    Advances [.element id] d { d with set := d.set.modifyElement id f } where
  sound := hd.ofGrows (d.set.grows_modifyElement hid hf) rfl (fun i hi => by
    rw [d.set.element_modifyElement hid]
    split
    · exact htype _
    · exact hd.elements i (d.set.hasElement_modifyElement.mp hi)) hd.waiting
  schemas := rfl
  grows := d.set.grows_modifyElement hid hf
  type _ _ _ := ⟨rfl, rfl⟩
  newType _ hnot hid := absurd hid hnot
  element i _ hp := (d.set.element_modifyElement hid f i).trans (if_neg (by simpa using hp))
  attr _ _ _ := rfl
  newAttribute _ hnot hid := absurd hid hnot

/-! ### Attributes -/

omit hd in
theorem returns_newAttribute_eq (name namespaceUri : String) (isGlobal : Bool) :
    Returns d (newAttribute name namespaceUri isGlobal) fun id d' =>
      let a : AttributeDeclaration := ⟨name, namespaceUri, SchemaSet.anyType, none, none, isGlobal⟩
      id = (d.set.addAttribute a).1 ∧ d' = { d with set := (d.set.addAttribute a).2 } := by
  simp [newAttribute, getSet, modifySet]

/-- An attribute is added, and has to be described yet. -/
theorem advances_addAttribute (a : AttributeDeclaration) :
    Advances [.attr (d.set.addAttribute a).1] d { d with set := (d.set.addAttribute a).2 } where
  sound := hd.ofGrows (d.set.grows_addAttribute a) rfl hd.elements hd.waiting
  schemas := rfl
  grows := d.set.grows_addAttribute a
  type _ _ _ := ⟨rfl, rfl⟩
  newType _ hnot hid := absurd hid hnot
  element _ _ _ := rfl
  attr id hid _ := d.set.attr_addAttribute_of_has a hid
  newAttribute id hnot hid hp :=
    absurd ((d.set.hasAttribute_addAttribute.mp hid).resolve_left hnot) (by simpa using hp)

theorem returns_newAttribute (name namespaceUri : String) (isGlobal : Bool) :
    Returns d (newAttribute name namespaceUri isGlobal) fun id d' => Advances [.attr id] d d' ∧
      ¬ d.set.HasAttribute id ∧ d'.set.HasAttribute id := by
  refine (returns_newAttribute_eq name namespaceUri isGlobal).mono ?_
  rintro _ _ ⟨rfl, rfl⟩
  exact ⟨advances_addAttribute hd _, Nat.lt_irrefl _,
    d.set.hasAttribute_addAttribute.mpr (.inr rfl)⟩

/-- An attribute is described under the heading that it has. -/
theorem advances_modifyAttribute {id : AttributeId} (hid : d.set.HasAttribute id)
    {f : AttributeDeclaration → AttributeDeclaration} (hf : ∀ a, (f a).heading = a.heading) :
    Advances [.attr id] d { d with set := d.set.modifyAttribute id f } where
  sound := hd.ofGrows (d.set.grows_modifyAttribute hid hf) rfl hd.elements hd.waiting
  schemas := rfl
  grows := d.set.grows_modifyAttribute hid hf
  type _ _ _ := ⟨rfl, rfl⟩
  newType _ hnot hid := absurd hid hnot
  element _ _ _ := rfl
  attr i _ hp := (d.set.attr_modifyAttribute hid f i).trans (if_neg (by simpa using hp))
  newAttribute _ hnot hid := absurd (d.set.hasAttribute_modifyAttribute.mp hid) hnot

end DraftM

end SchemaBinding.Xsd
