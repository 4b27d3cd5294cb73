import SchemaBinding.Proofs.Outcome
import SchemaBinding.Xsd.Draft

/-!
# Groups written out

A reference to a group may be written out: in its place stands what the group is defined as. Much of
what is read of the elements around it cannot tell the difference.

## Main definitions

* `Xml.Element.Carries`: a model group with the bounds of a reference
* `Xsd.Context.Alike`: contexts that differ in the source at most
* `Xsd.Expands`: elements in which some references are written out
* `Draft.Replaces`: what the groups of a draft put in the place of a reference

## Main results

* `Context.requiredName_of_ok`, `Context.occurs_of_ok`, …: values that are read alike
* `Expands.find?`, `Expands.firstComponent?`: children that are found alike
* `Expands.facets`: facets that are read alike
-/

namespace SchemaBinding.Xml.Element

/-- The element with other children. -/
def withChildren (e : Element) (children : List Element) : Element :=
  { e with children := children }

variable (e : Element) (children : List Element)

@[simp] theorem withChildren_children : (e.withChildren children).children = children := rfl

@[simp] theorem withChildren_self : e.withChildren e.children = e := by
  cases e
  rfl

@[simp] theorem localName_withChildren : (e.withChildren children).localName = e.localName := rfl

@[simp] theorem attribute?_withChildren (name : String) :
    (e.withChildren children).attribute? name = e.attribute? name := rfl

/-- Two elements have the same tag and the same attributes. -/
structure SameTag (e e' : Element) : Prop where
  localName : e'.localName = e.localName
  attribute? : ∀ name, e'.attribute? name = e.attribute? name

/-- An element is written by the same tag whatever its children are. -/
theorem SameTag.withChildren : e.SameTag (e.withChildren children) := ⟨rfl, fun _ => rfl⟩

/-- A model group `m'` is `m` but for the bounds, which are those of `e`. -/
structure Carries (e m m' : Element) : Prop where
  name : m'.name = m.name
  namespaces : m'.namespaces = m.namespaces
  children : m'.children = m.children
  bounds : ∀ a, a = "minOccurs" ∨ a = "maxOccurs" → m'.attribute? a = e.attribute? a
  others : ∀ a, a ≠ "minOccurs" → a ≠ "maxOccurs" → m'.attribute? a = m.attribute? a

theorem Carries.localName {e m m' : Element} (h : e.Carries m m') : m'.localName = m.localName :=
  congrArg QName.localName h.name

/-! ### Elements below -/

/-- The elements below an element, at any depth. -/
def descendants : Element → List Element
  | ⟨_, _, _, children, _⟩ => below children
where
  /-- The elements of some trees. -/
  below : List Element → List Element
    | [] => []
    | e :: es => e :: (e.descendants ++ below es)

theorem mem_below_iff {e : Element} {es : List Element} :
    e ∈ descendants.below es ↔ ∃ c ∈ es, e = c ∨ e ∈ c.descendants := by
  induction es with
  | nil => exact ⟨nofun, nofun⟩
  | cons c es ih => simp [descendants.below, ih, or_assoc]

/-- A descendant is a child, or a descendant of one. -/
theorem mem_descendants_iff {d e : Element} :
    d ∈ e.descendants ↔ ∃ c ∈ e.children, d = c ∨ d ∈ c.descendants := by
  cases e
  exact mem_below_iff

theorem mem_descendants_of_child {c e : Element} (h : c ∈ e.children) : c ∈ e.descendants :=
  mem_descendants_iff.mpr ⟨c, h, .inl rfl⟩

theorem mem_descendants_of_mem {c d e : Element} (h : c ∈ e.children) (hd : d ∈ c.descendants) :
    d ∈ e.descendants :=
  mem_descendants_iff.mpr ⟨c, h, .inr hd⟩

end SchemaBinding.Xml.Element

namespace SchemaBinding.Xsd

open Xml (Element QName)

/-! ## Contexts -/

/-- Two contexts differ in the source at most. -/
structure Context.Alike (context context' : Context) : Prop where
  targetNamespace : context'.targetNamespace = context.targetNamespace
  isChameleon : context'.isChameleon = context.isChameleon
  elementsQualified : context'.elementsQualified = context.elementsQualified
  attributesQualified : context'.attributesQualified = context.attributesQualified

namespace Context

@[simp] theorem localNamespace_withChildren (context : Context) (e : Element)
    (children : List Element) (qualified : Bool) :
    context.localNamespace (e.withChildren children) qualified =
      context.localNamespace e qualified := rfl

namespace Alike

variable {context context' context'' : Context}

theorem refl (context : Context) : context.Alike context := ⟨rfl, rfl, rfl, rfl⟩

theorem trans (h : context.Alike context') (h' : context'.Alike context'') :
    context.Alike context'' :=
  ⟨h'.1.trans h.1, h'.2.trans h.2, h'.3.trans h.3, h'.4.trans h.4⟩

variable (h : context.Alike context')
include h

/-- References mean the same in alike contexts, for they are resolved by what stands at the element.
-/
theorem resolve_eq (e : Element) (reference : String) :
    context'.resolve e reference = context.resolve e reference := by
  unfold Context.resolve
  rw [h.targetNamespace, h.isChameleon]

/-- Local names are in the same namespace in alike contexts. -/
theorem localNamespace_eq (e : Element) (qualified : Bool) :
    context'.localNamespace e qualified = context.localNamespace e qualified := by
  unfold Context.localNamespace
  rw [h.targetNamespace]

end Alike

/-! ### Values

Values that are read without fault are read in every context, and whatever the children are. -/

section Values

variable {context context' : Context} {e e' : Element}

/-- A required attribute is given as it is written. -/
theorem required_eq_ok_iff {name value : String} {missing : Fault} :
    context.required e name missing = .ok value ↔ e.attribute? name = some value := by
  unfold Context.required
  cases e.attribute? name <;> simp

theorem required_of_ok (h : e.SameTag e') {name value : String} {missing missing' : Fault}
    (hvalue : context.required e name missing = .ok value) :
    context'.required e' name missing' = .ok value := by
  rw [required_eq_ok_iff, h.attribute?]
  exact required_eq_ok_iff.mp hvalue

/-- Elements with one tag have one name. -/
theorem requiredName_of_ok (h : e.SameTag e') {name : String}
    (hname : context.requiredName e = .ok name) : context'.requiredName e' = .ok name := by
  unfold Context.requiredName at hname ⊢
  obtain ⟨value, hvalue, hname⟩ := bind_eq_ok_iff.mp hname
  exact bind_eq_ok_iff.mpr ⟨value, required_of_ok h hvalue, hname⟩

/-- Bounds are read from two attributes. -/
theorem occurs_of_bounds {occurs : Occurs}
    (hbounds : ∀ a, a = "minOccurs" ∨ a = "maxOccurs" → e'.attribute? a = e.attribute? a)
    (hoccurs : context.occurs e = .ok occurs) : context'.occurs e' = .ok occurs := by
  unfold Context.occurs at hoccurs ⊢
  rw [hbounds _ (.inl rfl), hbounds _ (.inr rfl)]
  cases hparse : Occurs.parse (e.attribute? "minOccurs") (e.attribute? "maxOccurs") with
  | error fault =>
    rw [hparse] at hoccurs
    cases hoccurs
  | ok found =>
    rw [hparse] at hoccurs
    exact hoccurs

/-- Elements with one tag have the same bounds. -/
theorem occurs_of_ok (h : e.SameTag e') {occurs : Occurs}
    (hoccurs : context.occurs e = .ok occurs) : context'.occurs e' = .ok occurs :=
  occurs_of_bounds (fun a _ => h.attribute? a) hoccurs

theorem boolean_of_ok (h : e.SameTag e') {name : String} {value : Bool}
    (hvalue : context.boolean e name = .ok value) : context'.boolean e' name = .ok value := by
  unfold Context.boolean at hvalue ⊢
  rw [h.attribute?]
  split at hvalue
  all_goals first | exact hvalue | cases hvalue

/-- A facet is added by the tag that it is written by. -/
theorem addFacet_of_ok (h : e.SameTag e') {facets facets' : FacetSet}
    (hfacets : context.addFacet facets e = .ok facets') :
    context'.addFacet facets e' = .ok facets' := by
  unfold Context.addFacet at hfacets ⊢
  dsimp only at hfacets ⊢
  rw [h.localName]
  split
  · next htag =>
    rw [if_pos htag] at hfacets
    obtain ⟨value, hvalue, hfacets⟩ := bind_eq_ok_iff.mp hfacets
    exact bind_eq_ok_iff.mpr ⟨value, required_of_ok h hvalue, hfacets⟩
  · next htag =>
    rw [if_neg htag] at hfacets
    split
    · next hidle =>
      rw [if_pos hidle] at hfacets
      exact hfacets
    · next hidle =>
      rw [if_neg hidle] at hfacets
      cases hfacets

end Values

end Context

/-! ## Elements with references written out -/

/-- Some elements, in which, or below which, some references are written out: `P` says what stands
for a reference. -/
inductive Expands (P : Element → List Element → Prop) : List Element → List Element → Prop
  | nil : Expands P [] []
  /-- The element stays, with references below it written out. -/
  | node (e : Element) {children es es' : List Element} : Expands P e.children children →
      Expands P es es' → Expands P (e :: es) (e.withChildren children :: es')
  /-- A reference is written out. -/
  | replaced {e : Element} {new es es' : List Element} : P e new → Expands P es es' →
      Expands P (e :: es) (new ++ es')

namespace Expands

variable {P P' : Element → List Element → Prop} {es es' fs fs' : List Element}

/-- No reference need be written out. -/
theorem refl (es : List Element) : Expands P es es := by
  match es with
  | [] => exact nil
  | ⟨name, attributes, text, children, namespaces⟩ :: es =>
    exact node ⟨name, attributes, text, children, namespaces⟩ (refl children) (refl es)
termination_by sizeOf es

theorem append (h : Expands P es es') (h' : Expands P fs fs') :
    Expands P (es ++ fs) (es' ++ fs') := by
  induction h with
  | nil => exact h'
  | node e hc _ _ ih => exact node e hc ih
  | replaced hp _ ih =>
    rw [List.append_assoc]
    exact replaced hp ih

theorem mono (h : Expands P es es') (hP : ∀ e new, P e new → P' e new) : Expands P' es es' := by
  induction h with
  | nil => exact nil
  | node e _ _ ihc ih => exact node e ihc ih
  | replaced hp _ ih => exact replaced (hP _ _ hp) ih

end Expands

/-- The tags of what a reference to an attribute group may be replaced by. -/
def attributeTags : List String := ["attribute", "attributeGroup", "anyAttribute", "annotation"]

/-- The first model group among some elements. -/
def modelGroup? (es : List Element) : Option Element :=
  es.find? fun e => (Compositor.ofTag? e.localName).isSome

/-- What the groups of a draft put in the place of a reference. The definition must have been
written with the settings with which the reference is read. -/
inductive Draft.Replaces (d : Draft) (context : Context) (e : Element) : List Element → Prop
  | group {reference : String} {name : QName} {definition : GroupDefinition} {m m' : Element} :
      e.localName = "group" → e.attribute? "ref" = some reference →
      context.resolve e reference = .ok name → d.groups.get? name = some definition →
      definition.context.Alike context → modelGroup? definition.element.children = some m →
      e.Carries m m' → Replaces d context e [m']
  | attributeGroup {reference : String} {name : QName} {definition : GroupDefinition} :
      e.localName = "attributeGroup" → e.attribute? "ref" = some reference →
      context.resolve e reference = .ok name → d.attributeGroups.get? name = some definition →
      definition.context.Alike context →
      (∀ c ∈ definition.element.children, c.localName ∈ attributeTags) →
      Replaces d context e definition.element.children

theorem localName_of_ofTag? {tag : String} (h : (Compositor.ofTag? tag).isSome = true) :
    tag = "sequence" ∨ tag = "choice" ∨ tag = "all" := by
  unfold Compositor.ofTag? at h
  split at h
  · exact .inl rfl
  · exact .inr (.inl rfl)
  · exact .inr (.inr rfl)
  · cases h

/-- A model group is a sequence, a choice or a conjunction. -/
theorem localName_of_modelGroup? {es : List Element} {m : Element} (h : modelGroup? es = some m) :
    m.localName = "sequence" ∨ m.localName = "choice" ∨ m.localName = "all" :=
  localName_of_ofTag? (by simpa using List.find?_some h)

/-- The tags of references, and of what stands for them when they are written out. -/
def groupTags : List String := ["group", "sequence", "choice", "all"] ++ attributeTags

namespace Draft.Replaces

variable {d : Draft} {context : Context} {e : Element} {new : List Element}

theorem localName (h : d.Replaces context e new) :
    e.localName = "group" ∨ e.localName = "attributeGroup" := by
  cases h with
  | group he => exact .inl he
  | attributeGroup he => exact .inr he

theorem mem_groupTags (h : d.Replaces context e new) : e.localName ∈ groupTags := by
  rcases h.localName with he | he <;> rw [he] <;> decide

/-- What stands for a reference is a model group, or attributes. -/
theorem forall_mem_groupTags (h : d.Replaces context e new) :
    ∀ c ∈ new, c.localName ∈ groupTags := by
  intro c hc
  cases h with
  | group _ _ _ _ _ hm hcarries =>
    rw [List.mem_singleton.mp hc, hcarries.localName]
    rcases localName_of_modelGroup? hm with hname | hname | hname <;> rw [hname] <;> decide
  | attributeGroup _ _ _ _ _ htags => exact List.mem_append_right _ (htags c hc)

end Draft.Replaces

/-! ## What is found among the children -/

section Find

variable {d : Draft} {context : Context} {es es' : List Element}

/-- An element, in which some references are written out. -/
def ExpandsTo (P : Element → List Element → Prop) (e e' : Element) : Prop :=
  ∃ children, Expands P e.children children ∧ e' = e.withChildren children

theorem ExpandsTo.refl (P : Element → List Element → Prop) (e : Element) : ExpandsTo P e e :=
  ⟨e.children, .refl _, e.withChildren_self.symm⟩

/-- What has neither the tag of a reference nor that of what stands for it is found as before. -/
theorem Expands.find? {p : String → Bool} (hp : ∀ tag ∈ groupTags, p tag = false)
    (h : Expands (d.Replaces context) es es') :
    Option.Rel (ExpandsTo (d.Replaces context)) (es.find? fun c => p c.localName)
      (es'.find? fun c => p c.localName) := by
  induction h with
  | nil => exact .none
  | node e hc _ _ ih =>
    simp only [List.find?_cons, Element.localName_withChildren]
    cases p e.localName with
    | true => exact .some ⟨_, hc, rfl⟩
    | false => exact ih
  | @replaced e new es es' hr _ ih =>
    have hnone : new.find? (fun c => p c.localName) = none :=
      List.find?_eq_none.mpr fun c hc => by simp [hp _ (hr.forall_mem_groupTags c hc)]
    rw [List.find?_cons_of_neg (by simp [hp _ hr.mem_groupTags]), List.find?_append, hnone]
    exact ih

/-- The first child that says something is found as before, unless it is a reference. -/
theorem Expands.firstComponent? {e : Element} {children : List Element}
    (h : Expands (d.Replaces context) e.children children) :
    (∃ c, firstComponent? e = some c ∧
      (c.localName = "group" ∨ c.localName = "attributeGroup")) ∨
    Option.Rel (ExpandsTo (d.Replaces context)) (firstComponent? e)
      (Xsd.firstComponent? (e.withChildren children)) := by
  unfold Xsd.firstComponent?
  rw [Element.withChildren_children]
  generalize e.children = es at h
  induction h with
  | nil => exact .inr .none
  | node e hc _ _ ih =>
    simp only [List.find?_cons, Element.localName_withChildren]
    cases e.localName != "annotation" with
    | true => exact .inr (.some ⟨_, hc, rfl⟩)
    | false => exact ih
  | @replaced e new es es' hr _ _ =>
    have hpe : (e.localName != "annotation") = true := by
      rcases hr.localName with he | he <;> simp [he]
    exact .inl ⟨e, List.find?_cons_of_pos hpe, hr.localName⟩

/-- References are no facets. -/
theorem Expands.facets {e : Element} {children : List Element} {context' : Context}
    {facets : FacetSet} (h : Expands (d.Replaces context) e.children children)
    (hfacets : context.facets e = .ok facets) :
    context'.facets (e.withChildren children) = .ok facets := by
  unfold Context.facets at hfacets ⊢
  rw [Element.withChildren_children]
  generalize e.children = es at h hfacets
  generalize FacetSet.empty = start at hfacets ⊢
  induction h generalizing start with
  | nil => exact hfacets
  | node e hc _ _ ih =>
    rw [List.foldlM_cons] at hfacets ⊢
    obtain ⟨mid, hmid, hfacets⟩ := bind_eq_ok_iff.mp hfacets
    exact bind_eq_ok_iff.mpr ⟨mid, Context.addFacet_of_ok (.withChildren _ _) hmid, ih mid hfacets⟩
  | replaced hr _ _ =>
    rw [List.foldlM_cons] at hfacets
    obtain ⟨mid, hmid, -⟩ := bind_eq_ok_iff.mp hfacets
    unfold Context.addFacet at hmid
    rcases hr.localName with he | he <;> simp [he, facetNames] at hmid

end Find

end SchemaBinding.Xsd
