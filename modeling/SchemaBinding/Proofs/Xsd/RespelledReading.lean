import SchemaBinding.Proofs.Xsd.Accepted
import SchemaBinding.Proofs.Xsd.Respelling

/-!
# Reading other spellings

What is written in two ways is read alike: the same components get the same places and definitions.
By induction on the elements that are read, and on how deep groups are used within each other.

## Main results

* `simulates_readSimpleType`, `simulates_readAttributeUses`: simple types and attributes
* `simulates_readElement`, `simulates_readComplexType`: elements and complex types
* `simulates_readGroup`: groups
* `simulates_readGlobals`: declared components
* `SchemaSet.exists_parse_of_respelled`: schema sets
-/

namespace SchemaBinding.Xsd

open Xml (Element QName)
open DraftM ContentReader

variable {S : List String → List String → Prop}

/-! ## Single steps -/

section Steps

theorem simulates_getSet : Simulates (Draft.Respelled S) (SchemaSet.Alike S) getSet getSet := by
  intro d d' set t hd hrun
  cases hrun
  exact ⟨d'.set, d', rfl, hd, hd.set⟩

theorem simulates_modifySet {f f' : SchemaSet → SchemaSet}
    (h : ∀ set set', set.Alike S set' → (f set).Alike S (f' set')) :
    Simulates (Draft.Respelled S) (fun _ _ => True) (modifySet f) (modifySet f') :=
  simulates_modify fun _ _ hd => { hd with set := h _ _ hd.set }

theorem simulates_report (level level' : Log.Level) (text text' : String) :
    Simulates (Draft.Respelled S) (fun _ _ => True) (report level text) (report level' text') :=
  simulates_modify fun _ _ hd => { hd with }

theorem simulates_await (id : TypeId) (inheritance : Inheritance) :
    Simulates (Draft.Respelled S) (fun _ _ => True) (await id inheritance) (await id inheritance) :=
  simulates_modify fun _ _ hd => { hd with waiting := congrArg (· ++ _) hd.waiting }

theorem simulates_defineType (id base : TypeId) (kind : TypeKind) :
    Simulates (Draft.Respelled S) (fun _ _ => True) (defineType id base kind)
      (defineType id base kind) :=
  simulates_modifySet fun _ _ h => h.modifyType id _

theorem simulates_newType (name : Option String) {context context' : Context}
    (hcontext : context.SameSettings context') (kind : TypeKind) :
    Simulates (Draft.Respelled S) Eq (newType name context kind) (newType name context' kind) := by
  unfold newType
  rw [hcontext.targetNamespace]
  refine simulates_getSet.bind fun set set' hset => ?_
  exact (simulates_modifySet fun _ _ _ => hset.addType _).bind fun _ _ _ =>
    simulates_pure (congrArg (fun types : Array TypeDefinition => TypeId.mk types.size)
      hset.types.symm)

theorem simulates_newElement (name namespaceUri : String) (isGlobal : Bool) :
    Simulates (Draft.Respelled S) Eq (newElement name namespaceUri isGlobal)
      (newElement name namespaceUri isGlobal) :=
  simulates_getSet.bind fun _ _ hset =>
    (simulates_modifySet fun _ _ _ => hset.addElement _).bind fun _ _ _ =>
      simulates_pure (congrArg (fun elements : Array ElementDeclaration =>
        ElementId.mk elements.size) hset.elements.symm)

theorem simulates_newAttribute (name namespaceUri : String) (isGlobal : Bool) :
    Simulates (Draft.Respelled S) Eq (newAttribute name namespaceUri isGlobal)
      (newAttribute name namespaceUri isGlobal) :=
  simulates_getSet.bind fun _ _ hset =>
    (simulates_modifySet fun _ _ _ => hset.addAttribute _).bind fun _ _ _ =>
      simulates_pure (congrArg (fun attributes : Array AttributeDeclaration =>
        AttributeId.mk attributes.size) hset.attributes.symm)

end Steps

/-! ## References -/

section References

variable {context context' : Context} {e e' : Element} (he : Respelled context context' e e')
include he

/-- A reference that is spelled anew means the same name. -/
theorem simulates_resolve (reference : String) :
    Simulates (Draft.Respelled S) Eq (liftM (context.resolve e reference) : DraftM QName)
      (liftM (context'.resolve e' reference)) :=
  simulates_lift fun _ h => (he.resolve reference).trans h

/-- What a reference means, it means in the other spelling. -/
theorem simulates_componentNamed {α : Type} (symbol : Symbol) {find? : Draft → QName → Option α}
    (hfind : ∀ d d', d.Respelled S d' → find? d' = find? d) (reference : String) :
    Simulates (Draft.Respelled S) Eq (componentNamed symbol find? context e reference)
      (componentNamed symbol find? context' e' reference) := by
  refine (simulates_resolve he reference).seq fun name => ?_
  refine simulates_get_bind fun d d' hd => ?_
  rw [hfind d d' hd]
  split
  · exact simulates_pure rfl
  · exact simulates_throw

theorem simulates_typeNamed (reference : String) :
    Simulates (Draft.Respelled S) Eq (typeNamed context e reference)
      (typeNamed context' e' reference) :=
  simulates_componentNamed he .type (fun _ _ hd => hd.set.findType?_eq) reference

theorem simulates_elementNamed (reference : String) :
    Simulates (Draft.Respelled S) Eq (elementNamed context e reference)
      (elementNamed context' e' reference) :=
  simulates_componentNamed he .element (fun _ _ hd => hd.set.findElement?_eq) reference

theorem simulates_attributeNamed (reference : String) :
    Simulates (Draft.Respelled S) Eq (attributeNamed context e reference)
      (attributeNamed context' e' reference) :=
  simulates_componentNamed he .attr (fun _ _ hd => hd.set.findAttribute?_eq) reference

theorem simulates_simpleTypeNamed (reference : String) :
    Simulates (Draft.Respelled S) Eq (simpleTypeNamed context e reference)
      (simpleTypeNamed context' e' reference) := by
  refine (simulates_typeNamed he reference).seq fun id => ?_
  refine simulates_getSet.bind fun set set' hset => ?_
  rw [hset.type_eq]
  exact simulates_ite (fun _ => simulates_pure rfl) fun _ => simulates_throw

end References

/-! ## Simple types -/

section SimpleTypes

variable {context context' : Context} (hcontext : context.SameSettings context')
include hcontext

/-- A type that is read into a new component. -/
theorem simulates_readAnonymous {e e' : Element}
    (h : ∀ id : TypeId, Simulates (Draft.Respelled S) (fun _ _ => True)
      (readSimpleType context e id) (readSimpleType context' e' id)) :
    Simulates (Draft.Respelled S) Eq (readAnonymousSimpleType context e)
      (readAnonymousSimpleType context' e') :=
  (simulates_newType none hcontext _).seq fun id => (h id).bind fun _ _ _ => simulates_pure rfl

section Derivation

variable {derivation derivation' : Element} (hd : Respelled context context' derivation derivation')
  (hread : ∀ c ∈ derivation.children, ∀ c', Respelled context context' c c' → ∀ id : TypeId,
    Simulates (Draft.Respelled S) (fun _ _ => True) (readSimpleType context c id)
      (readSimpleType context' c' id))
include hd hread

theorem simulates_inlineSimpleType (missing : Fault) : Simulates (Draft.Respelled S) Eq
    (inlineSimpleType context derivation missing)
    (inlineSimpleType context' derivation' missing) := by
  have hrel := hd.find? (· == "simpleType")
  unfold inlineSimpleType Element.child?
  cases hc : derivation.children.find? (fun c => c.localName == "simpleType") with
  | none => exact simulates_throw
  | some c =>
    obtain ⟨c', hc', hchild⟩ := Rereading.exists_of_rel hrel hc
    rw [hc']
    exact simulates_readAnonymous hcontext (hread c (List.mem_of_find?_eq_some hc) c' hchild)

theorem simulates_readRestriction (id : TypeId) : Simulates (Draft.Respelled S) (fun _ _ => True)
    (readRestriction context derivation id) (readRestriction context' derivation' id) := by
  have rest : ∀ base : TypeId, Simulates (Draft.Respelled S) (fun _ _ => True) (do
        let facets ← context.facets derivation
        defineType id base (.simple (.restriction facets)) : DraftM Unit) (do
        let facets ← context'.facets derivation'
        defineType id base (.simple (.restriction facets))) := fun base =>
    (simulates_lift fun _ h => hd.facets h).seq fun _ => simulates_defineType _ _ _
  unfold readRestriction
  rw [hd.attribute?]
  cases derivation.attribute? "base" with
  | some reference => exact (simulates_simpleTypeNamed hd reference).seq rest
  | none => exact (simulates_inlineSimpleType hcontext hd hread _).seq rest

theorem simulates_readList (id : TypeId) : Simulates (Draft.Respelled S) (fun _ _ => True)
    (readList context derivation id) (readList context' derivation' id) := by
  unfold readList
  rw [hd.attribute?]
  cases derivation.attribute? "itemType" with
  | some reference =>
    exact (simulates_simpleTypeNamed hd reference).seq fun _ => simulates_defineType _ _ _
  | none =>
    exact (simulates_inlineSimpleType hcontext hd hread _).seq fun _ => simulates_defineType _ _ _

/-- A union has the same members, those that are named before those that stand in it. -/
theorem simulates_readUnion (id : TypeId) : Simulates (Draft.Respelled S) (fun _ _ => True)
    (readUnion context derivation id) (readUnion context' derivation' id) := by
  unfold readUnion
  rw [hd.attribute?]
  refine (simulates_mapM (List.forall₂_same.mpr fun _ _ => rfl) ?_).seq fun named => ?_
  · rintro reference _ rfl
    exact simulates_simpleTypeNamed hd reference
  have hchildren := (List.forall₂_and_left derivation.children derivation'.children).mpr
    ⟨fun _ hc => hc, hd.children⟩
  refine (simulates_mapM hchildren fun c c' hc => ?_).map List.flatten |>.seq fun inline => ?_
  · unfold readMember
    rw [hc.2.localName]
    refine simulates_ite (fun _ => ?_) fun _ => simulates_pure rfl
    exact (simulates_readAnonymous hcontext (hread c hc.1 c' hc.2)).seq fun _ => simulates_pure rfl
  · exact simulates_ite (fun _ => simulates_throw) fun _ => simulates_defineType _ _ _

/-- A simple type is derived in the same way, as its derivation has the same tag. -/
theorem simulates_readSimpleDerivation (id : TypeId) :
    Simulates (Draft.Respelled S) (fun _ _ => True) (readSimpleDerivation context derivation id)
      (readSimpleDerivation context' derivation' id) := by
  unfold readSimpleDerivation
  rw [hd.localName]
  refine simulates_ite (fun _ => simulates_readRestriction hcontext hd hread id) fun _ => ?_
  refine simulates_ite (fun _ => simulates_readList hcontext hd hread id) fun _ => ?_
  exact simulates_ite (fun _ => simulates_readUnion hcontext hd hread id) fun _ => simulates_throw

end Derivation

/-- Simple types are read alike, with all simple types inside them. -/
theorem simulates_readSimpleType (e : Element) {e' : Element} (he : Respelled context context' e e')
    (id : TypeId) : Simulates (Draft.Respelled S) (fun _ _ => True) (readSimpleType context e id)
      (readSimpleType context' e' id) := by
  have hrel : Option.Rel (Respelled context context') (firstComponent? e) (firstComponent? e') :=
    he.find? (· != "annotation")
  cases hd : firstComponent? e with
  | none =>
    rw [readSimpleType]
    split
    · exact simulates_throw
    · next h => cases hd.symm.trans h
  | some derivation =>
    obtain ⟨derivation', hd', hderivation⟩ := Rereading.exists_of_rel hrel hd
    rw [readSimpleType_eq context hd, readSimpleType_eq context' hd']
    refine simulates_readSimpleDerivation hcontext hderivation (fun c hc c' hchild i => ?_) id
    have : sizeOf c < sizeOf e :=
      Nat.lt_trans (sizeOf_lt_of_mem_children hc) (sizeOf_lt_of_find?_children hd)
    exact simulates_readSimpleType c hchild i
termination_by sizeOf e

theorem simulates_readAnonymousSimpleType {e e' : Element} (he : Respelled context context' e e') :
    Simulates (Draft.Respelled S) Eq (readAnonymousSimpleType context e)
      (readAnonymousSimpleType context' e') :=
  simulates_readAnonymous hcontext fun id => simulates_readSimpleType hcontext e he id

/-! ## Attributes -/

section Attribute

variable {e e' : Element} (he : Respelled context context' e e')
include he

/-- An attribute has the same type, namespace and values. -/
theorem simulates_readAttribute (id : AttributeId) :
    Simulates (Draft.Respelled S) (fun _ _ => True) (readAttribute context e id)
      (readAttribute context' e' id) := by
  have rest : ∀ type : TypeId, Simulates (Draft.Respelled S) (fun _ _ => True)
      (defineAttribute context e id type) (defineAttribute context' e' id type) := fun type =>
    simulates_getSet.bind fun _ _ _ =>
      (simulates_lift fun _ h => readValues_of_ok he.sameTag h).seq fun values =>
        simulates_modifySet fun _ _ h => h.modifyAttribute id _
  unfold readAttribute
  rw [he.attribute?]
  cases e.attribute? "type" with
  | some reference => exact (simulates_simpleTypeNamed he reference).seq rest
  | none =>
    have hrel := he.find? (· == "simpleType")
    unfold Element.child?
    generalize e.children.find? (fun c => c.localName == "simpleType") = found at hrel
    generalize e'.children.find? (fun c => c.localName == "simpleType") = found' at hrel
    cases hrel with
    | none => exact rest SchemaSet.anySimpleType
    | some hc => exact (simulates_readAnonymousSimpleType hcontext hc).seq rest

theorem simulates_readUsedAttribute : Simulates (Draft.Respelled S) Eq
    (readUsedAttribute context e) (readUsedAttribute context' e') := by
  unfold readUsedAttribute
  rw [he.attribute?, he.localNamespace_eq hcontext, hcontext.attributesQualified]
  cases e.attribute? "ref" with
  | some reference => exact simulates_attributeNamed he reference
  | none =>
    refine (simulates_lift fun _ h => Context.requiredName_of_ok he.sameTag h).seq fun name => ?_
    refine (simulates_newAttribute _ _ _).seq fun id => ?_
    exact (simulates_readAttribute hcontext he id).bind fun _ _ _ => simulates_pure rfl

/-- The uses of attributes are read alike, and so is their being left out. -/
theorem simulates_readAttributeUse : Simulates (Draft.Respelled S) Eq
    (readAttributeUse context e) (readAttributeUse context' e') := by
  unfold readAttributeUse
  refine (simulates_lift fun _ h => readUse_of_ok he.sameTag h).seq fun use => ?_
  cases use with
  | none => exact simulates_pure rfl
  | some required =>
    exact (simulates_readUsedAttribute hcontext he).seq fun id => simulates_pure rfl

end Attribute

end SimpleTypes

/-! ## Groups -/

/-- The use of a group leads to definitions that say the same. -/
theorem simulates_expandGroup {context context' : Context} {e e' : Element}
    (he : Respelled context context' e e') (symbol : Symbol) (tag : String)
    (circular : QName → Fault) {groups : Draft → OrderedMap QName GroupDefinition}
    (hgroups : ∀ d d', d.Respelled S d' → (groups d).Related GroupDefinition.Respelled (groups d'))
    (expanding : List QName) :
    Simulates (Draft.Respelled S) (fun a b => b.1 = a.1 ∧ a.2.Respelled b.2)
      (expandGroup symbol tag circular groups expanding context e)
      (expandGroup symbol tag circular groups expanding context' e') := by
  unfold expandGroup
  refine (simulates_lift fun _ h => Context.required_of_ok he.sameTag h).seq fun reference => ?_
  refine (simulates_resolve he reference).seq fun name => ?_
  refine simulates_ite (fun _ => simulates_throw) fun _ => ?_
  refine simulates_get_bind fun d d' hd => ?_
  have hrel := (hgroups d d' hd).get? name
  generalize (groups d).get? name = found at hrel
  generalize (groups d').get? name = found' at hrel
  cases hrel with
  | none => exact simulates_throw
  | some h => exact simulates_pure ⟨rfl, h⟩

/-- The attributes that a child stands for are read alike, if those in attribute groups are. -/
theorem simulates_usesOf {depth : Nat} (hnext : ∀ k, depth = k + 1 → ∀ expanding
      {context context' : Context}, context.SameSettings context' → ∀ {e e' : Element},
      Respelled context context' e e' → Simulates (Draft.Respelled S) Eq
        (readAttributeUsesWithin k expanding context e)
        (readAttributeUsesWithin k expanding context' e'))
    (expanding : List QName) {context context' : Context} (hcontext : context.SameSettings context')
    {c c' : Element} (hc : Respelled context context' c c') : Simulates (Draft.Respelled S) Eq
      (usesOf depth expanding context c) (usesOf depth expanding context' c') := by
  unfold usesOf
  rw [hc.localName]
  split
  · exact simulates_readAttributeUse hcontext hc
  · refine (simulates_expandGroup hc _ _ _ (fun _ _ hd => hd.attributeGroups) expanding).bind ?_
    rintro ⟨name, definition⟩ ⟨_, definition'⟩ ⟨rfl, hdefinition⟩
    cases depth with
    | zero => exact simulates_throw
    | succ k => exact hnext k rfl _ hdefinition.context hdefinition.element
  · exact (simulates_report _ _ _ _).bind fun _ _ _ => simulates_pure rfl
  · exact simulates_pure rfl

/-- The attributes of an element are read alike, however deep attribute groups may be used within
each other. -/
theorem simulates_readAttributeUsesWithin (depth : Nat) (expanding : List QName)
    {context context' : Context} (hcontext : context.SameSettings context') {e e' : Element}
    (he : Respelled context context' e e') : Simulates (Draft.Respelled S) Eq
      (readAttributeUsesWithin depth expanding context e)
      (readAttributeUsesWithin depth expanding context' e') := by
  induction depth generalizing expanding context context' e e' with
  | zero =>
    rw [readAttributeUsesWithin_eq, readAttributeUsesWithin_eq]
    exact (simulates_mapM he.children fun c c' hc =>
      simulates_usesOf (fun _ h => absurd h.symm (Nat.succ_ne_zero _)) _ hcontext hc).map _
  | succ depth ih =>
    rw [readAttributeUsesWithin_eq, readAttributeUsesWithin_eq]
    refine (simulates_mapM he.children fun c c' hc =>
      simulates_usesOf (fun k h => ?_) _ hcontext hc).map _
    cases h
    exact ih

/-- The uses of attributes of an element are read alike, with those of the attribute groups that it
refers to. -/
theorem simulates_readAttributeUses (expanding : List QName) {context context' : Context}
    (hcontext : context.SameSettings context') {e e' : Element}
    (he : Respelled context context' e e') : Simulates (Draft.Respelled S) Eq
      (readAttributeUses expanding context e) (readAttributeUses expanding context' e') := by
  refine simulates_get_bind fun d d' hd => ?_
  rw [hd.attributeGroups.size_eq]
  exact simulates_readAttributeUsesWithin _ expanding hcontext he

/-! ## Content -/

/-- Uses of groups are read alike. -/
def GroupReader.Simulates (S : List String → List String → Prop) (group : GroupReader) : Prop :=
  ∀ expanding {context context' : Context}, context.SameSettings context' → ∀ {e e' : Element},
    Respelled context context' e e' → SchemaBinding.Simulates (Draft.Respelled S) Eq
      (group expanding context e) (group expanding context' e')

section Content

variable {context context' : Context}

/-- A complex type is derived from the same base, and in the same way. -/
theorem simulates_readDerived (tag : String) {e e' : Element}
    (he : Respelled context context' e e') : Simulates (Draft.Respelled S) Eq
      (readDerived context tag e) (readDerived context' tag e') := by
  have rest : ∀ derivation, Simulates (Draft.Respelled S) Eq (do
      let reference ← context.required e "base" (.missingBase e.localName)
      let base ← typeNamed context e reference
      return ⟨derivation, reference, base, ((← getSet).type base).isComplex⟩ : DraftM Derived) (do
      let reference ← context'.required e' "base" (.missingBase e.localName)
      let base ← typeNamed context' e' reference
      return ⟨derivation, reference, base, ((← getSet).type base).isComplex⟩) := by
    intro derivation
    refine (simulates_lift fun _ h => Context.required_of_ok he.sameTag h).seq fun reference => ?_
    refine (simulates_typeNamed he reference).seq fun base => ?_
    refine simulates_getSet.bind fun set set' hset => ?_
    rw [hset.type_eq]
    exact simulates_pure rfl
  unfold readDerived
  rw [he.localName]
  split
  · exact (simulates_pure rfl).seq rest
  · exact (simulates_pure rfl).seq rest
  · exact simulates_throw.seq rest

/-- What is read once the type of an element is known. -/
theorem simulates_defineElement {e e' : Element} (he : Respelled context context' e e')
    (id : ElementId) (type : TypeId) : Simulates (Draft.Respelled S) (fun _ _ => True)
      (defineElement context e id type) (defineElement context' e' id type) :=
  simulates_getSet.bind fun _ _ _ =>
    (simulates_lift fun _ h => readValues_of_ok he.sameTag h).seq fun _ =>
      (simulates_lift fun _ h => Context.boolean_of_ok he.sameTag h).seq fun _ =>
        simulates_modifySet fun _ _ h => h.modifyElement id _

variable {group : GroupReader} {expanding : List QName}

/-- What a derived type says besides its attributes. -/
theorem simulates_derivedDefinition {content content' derivation derivation' : Element}
    (hcontent : Respelled context context' content content')
    (hown : Simulates (Draft.Respelled S) Eq
      (readContent group expanding context derivation.children)
      (readContent group expanding context' derivation'.children))
    (id : TypeId) (definition : ComplexType) (derived : Derived) :
    Simulates (Draft.Respelled S) Eq
      (derivedDefinition group expanding context content derivation id definition derived)
      (derivedDefinition group expanding context' content' derivation' id definition derived) := by
  unfold derivedDefinition
  rw [hcontent.localName]
  refine simulates_ite (fun _ => ?_) fun _ => ?_
  · refine simulates_ite (fun _ => ?_) fun _ => ?_
    · exact (simulates_await _ _).bind fun _ _ _ => simulates_pure rfl
    · exact simulates_ite (fun _ => simulates_pure rfl) fun _ => simulates_throw
  · refine simulates_ite (fun _ => simulates_throw) fun _ => ?_
    refine (simulates_lift fun mixed h => ?_).seq fun mixed => hown.seq fun own => ?_
    · unfold readMixed at h ⊢
      rw [hcontent.attribute?]
      split at h
      · next hsome =>
        rw [if_pos hsome]
        exact Context.boolean_of_ok hcontent.sameTag h
      · next hnone =>
        rw [if_neg hnone]
        exact h
    · refine simulates_ite (fun _ => ?_) fun _ => simulates_pure rfl
      exact (simulates_await _ _).bind fun _ _ _ => simulates_pure rfl

mutual

/-- Elements are read alike, with the types that are defined in them. -/
theorem simulates_readElement (hcontext : context.SameSettings context')
    (hgroup : group.Simulates S) (e : Element) {e' : Element} (he : Respelled context context' e e')
    (id : ElementId) :
    Simulates (Draft.Respelled S) (fun _ _ => True) (readElement group expanding context e id)
      (readElement group expanding context' e' id) := by
  have rest := simulates_defineElement (S := S) he id
  rw [readElement_eq, readElement_eq, he.attribute?]
  cases e.attribute? "type" with
  | some reference => exact (simulates_typeNamed he reference).seq rest
  | none =>
    have hrel : Option.Rel (Respelled context context') (inlineType? e) (inlineType? e') :=
      he.find? fun tag => tag == "complexType" || tag == "simpleType"
    cases hc : inlineType? e with
    | none =>
      rw [Rereading.eq_none_of_rel hrel hc]
      exact rest SchemaSet.anyType
    | some c =>
      have : sizeOf c < sizeOf e := sizeOf_lt_of_find?_children hc
      obtain ⟨c', hc', hchild⟩ := Rereading.exists_of_rel hrel hc
      rw [hc']
      refine Simulates.seq ?_ rest
      unfold readInlineType
      rw [hchild.localName]
      refine simulates_ite (fun _ => ?_) fun _ => simulates_readAnonymousSimpleType hcontext hchild
      refine (simulates_newType none hcontext _).seq fun type => ?_
      exact (simulates_readComplexType hcontext hgroup c hchild type (some id)).bind
        fun _ _ _ => simulates_pure rfl
termination_by 2 * sizeOf e

/-- Complex types are read alike: their content, their attributes and what they are derived from. -/
theorem simulates_readComplexType (hcontext : context.SameSettings context')
    (hgroup : group.Simulates S) (e : Element) {e' : Element} (he : Respelled context context' e e')
    (id : TypeId) (scope : Option ElementId) :
    Simulates (Draft.Respelled S) (fun _ _ => True)
      (readComplexType group expanding context e id scope)
      (readComplexType group expanding context' e' id scope) := by
  have hrel : Option.Rel (Respelled context context')
      (e.children.find? isDerivedContent) (e'.children.find? isDerivedContent) :=
    he.find? fun tag => tag == "simpleContent" || tag == "complexContent"
  have hes := sizeOf_children_lt e
  rw [readComplexType_eq, readComplexType_eq]
  refine (simulates_lift fun _ h => Context.boolean_of_ok he.sameTag h).seq fun mixed => ?_
  -- Where the one element says what it is derived from, so does the other one.
  cases hc : e.children.find? isDerivedContent with
  | none =>
    rw [Rereading.eq_none_of_rel hrel hc]
    refine (simulates_readContent hcontext hgroup he.children).seq fun content => ?_
    refine (simulates_readAttributeUses _ hcontext he).seq fun uses => ?_
    exact simulates_defineType _ _ _
  | some content =>
    obtain ⟨content', hc', hcontent⟩ := Rereading.exists_of_rel hrel hc
    have hrel' : Option.Rel (Respelled context context') (firstComponent? content)
        (firstComponent? content') := hcontent.find? (· != "annotation")
    rw [hc']
    dsimp only
    cases hd : firstComponent? content with
    | none => exact simulates_throw
    | some derivation =>
      obtain ⟨derivation', hd', hderivation⟩ := Rereading.exists_of_rel hrel' hd
      have hcontentSize : sizeOf content < sizeOf e := sizeOf_lt_of_find?_children hc
      have hderivationSize : sizeOf derivation < sizeOf content := sizeOf_lt_of_find?_children hd
      have hds := sizeOf_children_lt derivation
      rw [hd']
      dsimp only
      unfold readDerivation
      rw [hcontent.localName]
      refine (simulates_readDerived _ hderivation).seq fun derived => ?_
      refine (simulates_derivedDefinition hcontent
        (simulates_readContent hcontext hgroup hderivation.children) id _ derived).seq
          fun definition => ?_
      refine (simulates_readAttributeUses _ hcontext hderivation).seq fun uses => ?_
      exact simulates_defineType _ _ _
termination_by 2 * sizeOf e

/-- The same child is taken for the content, and read alike. -/
theorem simulates_readContent (hcontext : context.SameSettings context')
    (hgroup : group.Simulates S) {es es' : List Element}
    (hes : List.Forall₂ (Respelled context context') es es') :
    Simulates (Draft.Respelled S) Eq (readContent group expanding context es)
      (readContent group expanding context' es') := by
  cases hes with
  | nil =>
    rw [readContent, readContent]
    exact simulates_pure rfl
  | @cons e e' es es' he hes =>
    rw [readContent, readContent, he.localName]
    split
    · exact (simulates_readModelGroup hcontext hgroup e he).seq fun _ => simulates_pure rfl
    · exact (simulates_readModelGroup hcontext hgroup e he).seq fun _ => simulates_pure rfl
    · exact (simulates_readModelGroup hcontext hgroup e he).seq fun _ => simulates_pure rfl
    · exact (hgroup _ hcontext he).seq fun _ => simulates_pure rfl
    · exact simulates_readContent hcontext hgroup hes
termination_by 2 * sizeOf es

theorem simulates_readModelGroup (hcontext : context.SameSettings context')
    (hgroup : group.Simulates S) (e : Element) {e' : Element}
    (he : Respelled context context' e e') :
    Simulates (Draft.Respelled S) Eq
      (readModelGroup group expanding context e) (readModelGroup group expanding context' e') := by
  rw [readModelGroup, readModelGroup, he.localName]
  have := sizeOf_children_lt e
  refine (simulates_lift fun _ h => Context.occurs_of_ok he.sameTag h).seq fun occurs => ?_
  exact (simulates_readParticles hcontext hgroup _ he.children).seq fun _ => simulates_pure rfl
termination_by 2 * sizeOf e

theorem simulates_readParticles (hcontext : context.SameSettings context')
    (hgroup : group.Simulates S) (compositor : Compositor) {es es' : List Element}
    (hes : List.Forall₂ (Respelled context context') es es') :
    Simulates (Draft.Respelled S) Eq
      (readParticles group expanding context compositor es)
      (readParticles group expanding context' compositor es') := by
  cases hes with
  | nil =>
    rw [readParticles, readParticles]
    exact simulates_pure rfl
  | @cons e e' es es' he hes =>
    have rest : ∀ particle : Option Particle, Simulates (Draft.Respelled S) Eq (do
        let particles ← readParticles group expanding context compositor es
        return particle.toList ++ particles) (do
        let particles ← readParticles group expanding context' compositor es'
        return particle.toList ++ particles) := fun particle =>
      (simulates_readParticles hcontext hgroup compositor hes).seq fun _ => simulates_pure rfl
    rw [readParticles, readParticles, he.localName]
    split
    · exact ((simulates_readLocalElement hcontext hgroup e he).map _).seq rest
    · exact ((simulates_readModelGroup hcontext hgroup e he).map _).seq rest
    · exact ((simulates_readModelGroup hcontext hgroup e he).map _).seq rest
    · exact ((simulates_readModelGroup hcontext hgroup e he).map _).seq rest
    · exact ((hgroup _ hcontext he).map _).seq rest
    · refine (simulates_lift fun _ h => Context.occurs_of_ok he.sameTag h).seq fun occurs => ?_
      exact (simulates_pure rfl).seq rest
    · exact (simulates_pure rfl).seq rest
    · exact simulates_throw.seq rest
termination_by 2 * sizeOf es

/-- A local element refers to the same element, or is declared alike. -/
theorem simulates_readLocalElement (hcontext : context.SameSettings context')
    (hgroup : group.Simulates S) (e : Element) {e' : Element}
    (he : Respelled context context' e e') :
    Simulates (Draft.Respelled S) Eq
      (readLocalElement group expanding context e)
      (readLocalElement group expanding context' e') := by
  rw [readLocalElement, readLocalElement, he.attribute?, he.localNamespace_eq hcontext,
    hcontext.elementsQualified]
  refine (simulates_lift fun _ h => Context.occurs_of_ok he.sameTag h).seq fun occurs => ?_
  cases e.attribute? "ref" with
  | some reference => exact (simulates_elementNamed he reference).seq fun _ => simulates_pure rfl
  | none =>
    refine (simulates_lift fun _ h => Context.requiredName_of_ok he.sameTag h).seq fun name => ?_
    refine (simulates_newElement _ _ _).seq fun id => ?_
    exact (simulates_readElement hcontext hgroup e he id).bind fun _ _ _ => simulates_pure rfl
termination_by 2 * sizeOf e + 1

end

end Content

/-- Uses of groups are read alike, however deep they may be used within each other. -/
theorem simulates_readGroupWithin (depth : Nat) :
    (readGroupWithin depth).Simulates S := by
  induction depth using Nat.strongRecOn with
  | ind depth ih =>
    intro expanding context context' hcontext e e' he
    rw [readGroupWithin_eq, readGroupWithin_eq]
    refine (simulates_expandGroup he _ _ _ (fun _ _ hd => hd.groups) expanding).bind ?_
    rintro ⟨name, definition⟩ ⟨_, definition'⟩ ⟨rfl, hdefinition⟩
    unfold readDefinition
    refine (simulates_lift fun _ h => Context.occurs_of_ok he.sameTag h).seq fun occurs => ?_
    have hrel : Option.Rel (Respelled definition.context definition'.context)
        (modelGroup? definition.element.children) (modelGroup? definition'.element.children) :=
      hdefinition.element.find? fun tag => (Compositor.ofTag? tag).isSome
    dsimp only at hrel ⊢
    cases hcontent : modelGroup? definition.element.children with
    | none => exact simulates_throw
    | some content =>
      obtain ⟨content', hcontent', hm⟩ := Rereading.exists_of_rel hrel hcontent
      rw [hcontent']
      cases depth with
      | zero => exact simulates_throw
      | succ depth =>
        exact (simulates_readModelGroup hdefinition.context (ih depth (Nat.lt_succ_self _)) content
          hm).seq fun _ => simulates_pure rfl

theorem simulates_readGroup : readGroup.Simulates S := by
  intro expanding context context' hcontext e e' he
  refine simulates_get_bind fun d d' hd => ?_
  rw [hd.groups.size_eq]
  exact simulates_readGroupWithin _ expanding hcontext he

/-! ## Declared components -/

/-- Declared components are read alike, of whatever kind they are. -/
theorem simulates_readGlobal {g g' : Global} (h : g.Respelled g') :
    Simulates (Draft.Respelled S) (fun _ _ => True) (readGlobal g) (readGlobal g') := by
  unfold readGlobal
  rw [h.target]
  split
  · exact simulates_readElement h.context simulates_readGroup _ h.element _
  · exact simulates_readAttribute h.context h.element _
  · exact simulates_readComplexType h.context simulates_readGroup _ h.element _ none
  · exact simulates_readSimpleType h.context _ h.element _

theorem simulates_readGlobals {gs gs' : List Global} (h : List.Forall₂ Global.Respelled gs gs') :
    Simulates (Draft.Respelled S) (fun _ _ => True) (gs.forM readGlobal) (gs'.forM readGlobal) :=
  simulates_forM h fun _ _ => simulates_readGlobal

/-! ## Schema sets -/

namespace SchemaSet

namespace Alike

variable {set set' : SchemaSet} (h : set.Alike S set')
include h

theorem baseOf_eq : set'.baseOf = set.baseOf := by
  funext id
  unfold baseOf
  rw [h.type_eq]

/-- The types above a type are the same, since bases are not spelled. -/
theorem ancestry_eq : set'.ancestry = set.ancestry := by
  have hwithin : ∀ steps id, set'.ancestryWithin steps id = set.ancestryWithin steps id := by
    intro steps
    induction steps with
    | zero => exact fun _ => rfl
    | succ steps ih =>
      intro id
      rw [ancestryWithin, ancestryWithin, h.baseOf_eq, ih]
  funext id
  unfold ancestry
  rw [h.types, hwithin]

theorem contentOf_eq : set'.contentOf = set.contentOf := by
  funext id
  unfold contentOf
  rw [h.type_eq]

theorem explicitContentOf_eq : set'.explicitContentOf = set.explicitContentOf := by
  funext id
  unfold explicitContentOf
  rw [h.type_eq]

theorem checkBases_eq : set'.checkBases = set.checkBases := by
  unfold checkBases hasRoot
  rw [h.types, h.ancestry_eq, h.baseOf_eq, h.type_eq]

/-- Types inherit the same. -/
theorem exists_inherit {waiting : TypeId × Inheritance} {t : SchemaSet}
    (ht : set.inherit waiting = .ok t) : ∃ t', set'.inherit waiting = .ok t' ∧ t.Alike S t' := by
  obtain ⟨id, inheritance⟩ := waiting
  unfold inherit at ht ⊢
  rw [h.baseOf_eq, h.contentOf_eq, h.explicitContentOf_eq]
  cases inheritance with
  | extension =>
    dsimp only at ht ⊢
    split
    · next hroot =>
      rw [if_pos hroot] at ht
      cases ht
      exact ⟨set', rfl, h⟩
    · next hroot =>
      rw [if_neg hroot] at ht
      cases ht
      exact ⟨_, rfl, h.modifyType id _⟩
  | simpleContent =>
    dsimp only at ht ⊢
    split at ht
    · cases ht
      exact ⟨_, rfl, h.modifyType id _⟩
    · cases ht

/-- What is inherited in the one set is inherited in the other one. -/
theorem exists_inheritAll {waiting : List (TypeId × Inheritance)} {t : SchemaSet}
    (ht : set.inheritAll waiting = .ok t) :
    ∃ t', set'.inheritAll waiting = .ok t' ∧ t.Alike S t' := by
  unfold inheritAll baseDepth at ht ⊢
  rw [h.ancestry_eq]
  dsimp only at ht ⊢
  generalize waiting.mergeSort _ = ordered at ht
  induction ordered generalizing set set' with
  | nil =>
    cases ht
    exact ⟨set', rfl, h⟩
  | cons w ordered ih =>
    rw [List.foldlM_cons] at ht
    obtain ⟨mid, hmid, ht⟩ := bind_eq_ok_iff.mp ht
    obtain ⟨mid', hmid', halike⟩ := h.exists_inherit hmid
    obtain ⟨t', ht', htalike⟩ := ih halike ht
    exact ⟨t', by rw [List.foldlM_cons]; exact bind_eq_ok_iff.mpr ⟨mid', hmid', ht'⟩, htalike⟩

end Alike

/-- What has been read alike is completed alike. -/
theorem exists_complete {limits : Limits} {draft draft' : Draft} (h : draft.Respelled S draft')
    {set : SchemaSet} (hset : complete limits draft = .ok set) :
    ∃ set', complete limits draft' = .ok set' ∧ set.Alike S set' := by
  unfold complete at hset ⊢
  obtain ⟨_, hbases, hset⟩ := bind_eq_ok_iff.mp hset
  obtain ⟨read, hread, hset⟩ := bind_eq_ok_iff.mp hset
  obtain ⟨_, hlimit, hset⟩ := bind_eq_ok_iff.mp hset
  cases hset
  obtain ⟨set', hset', halike⟩ := h.set.exists_inheritAll hread
  refine ⟨set', ?_, halike⟩
  rw [h.waiting, h.set.checkBases_eq]
  have hcount : set'.componentCount = set.componentCount := by
    unfold componentCount
    rw [halike.types, halike.elements, halike.attributes]
  exact bind_eq_ok_iff.mpr ⟨_, hbases, bind_eq_ok_iff.mpr ⟨_, hset',
    bind_eq_ok_iff.mpr ⟨_, by rwa [hcount], rfl⟩⟩⟩

/-- Documents that declare the same are read alike: if a set is read from the ones, so is one from
the others, and it is the same but for the sources of its schemas. -/
theorem exists_parse_of_respelled {files files' : FileSystem} {limits : Limits}
    {location location' : Location} {documents documents' : List SchemaDocument} {log log' : Log}
    (hload : SchemaDocument.loadAll files limits location = (.ok documents, log))
    (hload' : SchemaDocument.loadAll files' limits location' = (.ok documents', log'))
    (hS : S [] [])
    (hset : (Draft.ofDocuments documents log).set.Alike S (Draft.ofDocuments documents' log').set)
    (hdeclarations : List.Forall₂ SchemaDocument.Respelled
      (SchemaDocument.declarations documents) (SchemaDocument.declarations documents'))
    {set : SchemaSet} (h : (parse files limits location).1 = .ok set) :
    ∃ set', (parse files' limits location').1 = .ok set' ∧ set.Alike S set' := by
  obtain ⟨_, _, draft, hloaded, hread, hcomplete⟩ := exists_of_parse h
  cases hload.symm.trans hloaded
  have hstart : (Draft.ofDocuments documents log).Respelled S (Draft.ofDocuments documents' log') :=
    ⟨hset, .empty, .empty, rfl⟩
  unfold readDocuments at hread
  obtain ⟨globals, declared, hdeclare, hglobals⟩ := run_bind_eq_ok_iff.mp hread
  obtain ⟨gs, hadds, rfl⟩ := run_declareAll_eq_ok_iff_declarations.mp hdeclare
  obtain ⟨gs', declared', hadds', hdeclared, hgs⟩ :=
    Draft.AddsAll.respelled hS hadds hstart hdeclarations
  obtain ⟨_, draft', hglobals', hdraft, -⟩ :=
    simulates_readGlobals (List.rel_filterMap (fun _ _ hg => hg) hgs) declared declared' ⟨⟩ draft
      hdeclared hglobals
  have hread' : (readDocuments documents').run.run (.ofDocuments documents' log') =
      (.ok ⟨⟩, draft') :=
    run_bind_eq_ok_iff.mpr ⟨_, declared',
      run_declareAll_eq_ok_iff_declarations.mpr ⟨gs', hadds', rfl⟩, hglobals'⟩
  obtain ⟨set', hset', halike⟩ := exists_complete hdraft hcomplete
  exact ⟨set', (parse_eq_complete hload' hread').trans hset', halike⟩

end SchemaSet

end SchemaBinding.Xsd
