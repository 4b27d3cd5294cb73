import Mathlib.Data.List.Forall2
import SchemaBinding.Proofs.Xsd.RereadSimpleTypes

/-!
# Reading content twice

Elements, complex types and their content that are read twice, with references to groups written out
the second time. By induction on the elements that are read, and on how deep groups are used within
each other.

## Main definitions

* `Rereading.GroupsAlike`: groups are read alike, also where they are written out

## Main results

* `Rereading.follows_readElement`, `Rereading.follows_readComplexType`, …: elements and types
* `Rereading.groupsAlike_readGroup`: groups
* `Rereading.follows_readGlobal`: declared components
-/

namespace SchemaBinding.Xsd

open Xml (Element QName)

/-! ## Forms without proofs -/

namespace ContentReader

open DraftM

variable (group : GroupReader) (expanding : List QName) (context : Context)

/-- What remains of an element once its type is known. -/
def defineElement (e : Element) (id : ElementId) (type : TypeId) : DraftM Unit := do
  let name := ((← getSet).element id).name
  let (defaultValue, fixedValue) ← readValues context e (.elementDefaultAndFixed name)
  let nillable ← context.boolean e "nillable"
  modifySet fun set => set.modifyElement id fun d =>
    { d with
      type := type, defaultValue := defaultValue, fixedValue := fixedValue, nillable := nillable }

/-- Reads the type that an element defines in place. -/
def readInlineType (c : Element) (id : ElementId) : DraftM TypeId :=
  if c.localName = "complexType" then do
    let type ← newType none context (.complex (.empty (some id)))
    readComplexType group expanding context c type (some id)
    return type
  else readAnonymousSimpleType context c

/-- An element is read by its type attribute, or by the type that stands in it, or by neither. -/
theorem readElement_eq (e : Element) (id : ElementId) :
    readElement group expanding context e id =
      match e.attribute? "type" with
      | some reference => typeNamed context e reference >>= defineElement context e id
      | none =>
        match inlineType? e with
        | some c => readInlineType group expanding context c id >>= defineElement context e id
        | none => defineElement context e id SchemaSet.anyType := by
  rw [readElement]
  cases e.attribute? "type" with
  | some reference => rfl
  | none =>
    dsimp only
    split
    · next c hc =>
      rw [hc]
      dsimp only
      rw [readInlineType]
      split
      · simp only [bind_assoc, pure_bind]
        rfl
      · rfl
    · next hc =>
      rw [hc]
      rfl

/-- Reads a complex type that is not derived. -/
def readOwnContent (e : Element) (id : TypeId) (scope : Option ElementId) (mixed : Bool) :
    DraftM Unit := do
  let content ← readContent group expanding context e.children
  let uses ← readAttributeUses expanding context e
  defineType id SchemaSet.anyType
    (.complex { ComplexType.empty scope with
      content := content, attributes := uses, mixed := mixed })

/-- Whether the content of a derived type is mixed, which the type itself may say too. -/
def readMixed (context : Context) (content : Element) (mixed : Bool) : Result Bool :=
  if (content.attribute? "mixed").isSome then context.boolean content "mixed" else .ok mixed

/-- What a derived type says besides its attributes. -/
def derivedDefinition (content derivation : Element) (id : TypeId) (definition : ComplexType)
    (derived : Derived) : DraftM ComplexType :=
  if content.localName = "simpleContent" then
    if derived.isComplexBase then do
      await id .simpleContent
      return definition
    else if derived.derivation = .extension then
      return { definition with content := .simple derived.base }
    else throw (context.fault (.simpleContentOfSimple derived.reference))
  else if !derived.isComplexBase then
    throw (context.fault (.complexContentOfSimple derived.reference))
  else do
    let mixed ← readMixed context content definition.mixed
    let own ← readContent group expanding context derivation.children
    if derived.derivation = .extension then
      await id .extension
      return { definition with mixed := mixed, content := own, explicitContent := some own }
    else return { definition with mixed := mixed, content := own, explicitContent := none }

/-- Reads a derived complex type. -/
def readDerivation (content derivation : Element) (id : TypeId) (scope : Option ElementId)
    (mixed : Bool) : DraftM Unit := do
  let derived ← readDerived context content.localName derivation
  let definition ← derivedDefinition group expanding context content derivation id
    { ComplexType.empty scope with derivation := derived.derivation, mixed := mixed } derived
  let uses ← readAttributeUses expanding context derivation
  defineType id derived.base (.complex { definition with attributes := uses })

/-- A complex type is read by what it is derived from, if this stands in it, and otherwise by its
own children. -/
theorem readComplexType_eq (e : Element) (id : TypeId) (scope : Option ElementId) :
    readComplexType group expanding context e id scope = (do
      let mixed ← context.boolean e "mixed"
      match e.children.find? isDerivedContent with
      | none => readOwnContent group expanding context e id scope mixed
      | some content =>
        match firstComponent? content with
        | none => throw (context.fault (.contentWithoutDerivation content.localName))
        | some derivation =>
          readDerivation group expanding context content derivation id scope mixed) := by
  rw [readComplexType]
  refine congrArg _ (funext fun mixed => ?_)
  split
  · next hc =>
    rw [hc]
    rfl
  · next content hc =>
    conv =>
      rhs
      rw [hc]
    dsimp only
    split
    · next hd => rw [hd]
    · next derivation hd =>
      conv =>
        rhs
        rw [hd]
      dsimp only
      unfold readDerivation derivedDefinition
      refine congrArg _ (funext fun derived => ?_)
      dsimp only
      by_cases hextension : derived.derivation = .extension
      all_goals
        simp only [hextension, if_true, if_false]
        split
        · split
          · simp only [bind_assoc, pure_bind]
          · rfl
        · split
          · rfl
          · unfold readMixed
            by_cases hmixed : (content.attribute? "mixed").isSome = true
            all_goals
              simp only [hmixed, if_true, if_false, bind_assoc, pure_bind, Bool.false_eq_true]
              try rfl

/-- The derivation with the base at its other place. -/
def Derived.renumber (ρ : Renumbering) (derived : Derived) : Derived :=
  { derived with base := derived.base.renumber ρ }

end ContentReader

namespace DraftM

/-- What is read of the definition of a group, at a depth at which it may be used. -/
def readDefinition (depth : Nat) (expanding : List QName) (context : Context) (e : Element)
    (name : QName) (definition : GroupDefinition) : DraftM Particle := do
  let occurs ← context.occurs e
  match modelGroup? definition.element.children with
  | none => throw (definition.context.fault (.groupWithoutContent name))
  | some content =>
    match depth with
    | 0 => throw (context.fault (.circularGroup name))
    | depth + 1 =>
      let particle ← ContentReader.readModelGroup (readGroupWithin depth) (name :: expanding)
        definition.context content
      return particle.withOccurs occurs

/-- The use of a group is read by finding the group first and then its definition. -/
theorem readGroupWithin_eq (depth : Nat) (expanding : List QName) (context : Context)
    (e : Element) : readGroupWithin depth expanding context e = (do
      let (name, definition) ←
        expandGroup .group "group" .circularGroup (·.groups) expanding context e
      readDefinition depth expanding context e name definition) := by
  rw [readGroupWithin.eq_def]
  rfl

end DraftM

/-- The component at its other place. -/
def Global.Target.renumber (ρ : Renumbering) : Global.Target → Global.Target
  | .element id => .element (id.renumber ρ)
  | .attr id => .attr (id.renumber ρ)
  | .complexType id => .complexType (id.renumber ρ)
  | .simpleType id => .simpleType (id.renumber ρ)

namespace Rereading

open DraftM ContentReader

variable {v : Rereading}

/-- The uses of groups are read alike within the same groups, or fewer, and so are the model groups
that stand for them. -/
structure GroupsAlike (v : Rereading) (group group' : GroupReader) : Prop where
  use : ∀ {expanding expanding' : List QName} {context context' : Context} (e : Element)
    {children : List Element}, expanding' ⊆ expanding → context.Alike context' →
    Expands (v.first.Replaces context) e.children children →
    v.Follows (Particle.renumber v.renumbering) (group expanding context e)
      (group' expanding' context' (e.withChildren children))
  replaced : ∀ {expanding expanding' : List QName} {context context' : Context} {e m : Element},
    expanding' ⊆ expanding → context.Alike context' → e.localName = "group" →
    v.first.Replaces context e [m] →
    v.Follows (Particle.renumber v.renumbering) (group expanding context e)
      (readModelGroup group' expanding' context' m)

/-- The bounds stand in the tag, which is the same. -/
theorem follows_occurs {context context' : Context} (e : Element) (children : List Element) :
    v.Follows (fun occurs => occurs) (liftM (context.occurs e) : DraftM _)
      (liftM (context'.occurs (e.withChildren children))) :=
  follows_lift fun _ h => Context.occurs_of_ok (.withChildren _ _) h

theorem follows_boolean {context context' : Context} (e : Element) (children : List Element)
    (name : String) : v.Follows (fun value => value) (liftM (context.boolean e name) : DraftM _)
      (liftM (context'.boolean (e.withChildren children) name)) :=
  follows_lift fun _ h => Context.boolean_of_ok (.withChildren _ _) h

theorem exists_of_rel {α β : Type} {R : α → β → Prop} {o : Option α} {o' : Option β} {a : α}
    (h : Option.Rel R o o') (ho : o = some a) : ∃ b, o' = some b ∧ R a b := by
  subst ho
  cases h with
  | some hR => exact ⟨_, rfl, hR⟩

theorem eq_none_of_rel {α β : Type} {R : α → β → Prop} {o : Option α} {o' : Option β}
    (h : Option.Rel R o o') (ho : o = none) : o' = none := by
  subst ho
  cases h
  rfl

/-- Attributes are no content. -/
theorem readContent_append {group : GroupReader} {expanding : List QName} {context : Context}
    {new : List Element} (h : ∀ c ∈ new, c.localName ∈ attributeTags) (es : List Element) :
    readContent group expanding context (new ++ es) = readContent group expanding context es := by
  induction new with
  | nil => rfl
  | cons c new ih =>
    rw [List.cons_append, readContent]
    have hc := h c List.mem_cons_self
    simp only [attributeTags, List.mem_cons, List.not_mem_nil, or_false] at hc
    have hrest := ih fun c' hc' => h c' (List.mem_cons_of_mem c hc')
    rcases hc with hc | hc | hc | hc <;> rw [hc] <;> exact hrest

/-- What is read once the type of an element is known. -/
theorem follows_defineElement {context context' : Context} (e : Element) (children : List Element)
    (id : ElementId) (type : TypeId) : v.Follows (fun u => u) (defineElement context e id type)
      (defineElement context' (e.withChildren children) (id.renumber v.renumbering)
        (type.renumber v.renumbering)) := by
  refine follows_getSet (fun set => keeps_getSet.bind fun _ => (keeps_liftExcept _).bind fun _ =>
    (keeps_liftExcept _).bind fun _ => keeps_modify fun d h =>
      (stable_within set).modifyElement d id _ (fun _ => rfl) h) fun _ _ => ?_
  refine follows_bind (follows_readValues e children _ _) fun values => ?_
  refine follows_bind (follows_boolean e children "nillable") fun nillable => ?_
  exact follows_modify (fun _ => .modifyElement _ _ _)
    fun _ _ hd => hd.modifyElement id fun _ => rfl

/-! ## Derived types -/

section Derived

variable {context context' : Context} (hcontext : context.Alike context')
include hcontext

/-- The base is complex in both drafts, or in none. -/
theorem follows_readBase (e : Element) (children : List Element) (derivation : Derivation)
    (reference : String) : v.Follows (Derived.renumber v.renumbering) (do
      let base ← typeNamed context e reference
      return ⟨derivation, reference, base, ((← getSet).type base).isComplex⟩ : DraftM Derived) (do
      let base ← typeNamed context' (e.withChildren children) reference
      return ⟨derivation, reference, base, ((← getSet).type base).isComplex⟩) where
  grows set :=
    (keeps_componentNamed _ _ _ _ _).bind fun _ => keeps_getSet.bind fun _ => keeps_pure _
  follows d d' derived d₂ hd hrun _ := by
    obtain ⟨base, d₁, hbase, hreturn⟩ := run_bind_eq_ok_iff.mp hrun
    obtain ⟨⟨name, hname, hid⟩, hd₁⟩ := run_componentNamed_eq_ok_iff.mp hbase
    cases hreturn
    cases hd₁
    have hname' := (hcontext.resolve_eq e reference).trans hname
    refine ⟨d', run_bind_eq_ok_iff.mpr ⟨base.renumber v.renumbering, d',
      run_componentNamed_eq_ok_iff.mpr ⟨⟨name, hname', hd.findType? hid⟩, rfl⟩, ?_⟩, hd⟩
    have hcomplex : (d'.set.type (base.renumber v.renumbering)).isComplex =
        (d.set.type base).isComplex := congrArg not (hd.isSimple_eq hid)
    rw [Derived.renumber, ← hcomplex]
    rfl

/-- What a complex type is derived from is read from the tag of its derivation. -/
theorem follows_readDerived (tag : String) (e : Element) (children : List Element) :
    v.Follows (Derived.renumber v.renumbering) (readDerived context tag e)
      (readDerived context' tag (e.withChildren children)) := by
  have rest : ∀ derivation, v.Follows (Derived.renumber v.renumbering) (do
      let reference ← context.required e "base" (.missingBase e.localName)
      let base ← typeNamed context e reference
      return ⟨derivation, reference, base, ((← getSet).type base).isComplex⟩ : DraftM Derived) (do
      let reference ← context'.required (e.withChildren children) "base" (.missingBase e.localName)
      let base ← typeNamed context' (e.withChildren children) reference
      return ⟨derivation, reference, base, ((← getSet).type base).isComplex⟩) := fun derivation =>
    follows_bind (follows_lift (f := fun value => value)
      fun _ h => Context.required_of_ok (.withChildren _ _) h)
        fun _ => follows_readBase hcontext _ _ _ _
  unfold readDerived
  rw [Element.localName_withChildren]
  split
  · exact follows_bind (f := fun d => d) (follows_pure rfl) rest
  · exact follows_bind (f := fun d => d) (follows_pure rfl) rest
  · exact follows_bind (f := fun d => d) follows_throw rest

omit hcontext in
/-- A reference to a group is no derivation. -/
theorem follows_readDerivation_of_reference {group : GroupReader} {expanding : List QName}
    {content derivation : Element}
    (h : derivation.localName = "group" ∨ derivation.localName = "attributeGroup")
    (id : TypeId) (scope : Option ElementId) (mixed : Bool) {x' : DraftM Unit} :
    v.Follows (fun u => u)
      (readDerivation group expanding context content derivation id scope mixed) x' := by
  unfold readDerivation readDerived
  rcases h with h | h
  all_goals
    rw [h]
    exact follows_throw

section Definition

variable {group group' : GroupReader} {expanding expanding' : List QName}
  {content derivation : Element} {children grandchildren : List Element}
  (hown : v.Follows (Content.renumber v.renumbering)
    (readContent group expanding context derivation.children)
    (readContent group' expanding' context' grandchildren))
include hown

omit hcontext in
/-- What a derived type says besides its attributes is the same, with the content that it adds. -/
theorem follows_derivedDefinition (id : TypeId) (definition : ComplexType) (derived : Derived) :
    v.Follows (ComplexType.renumber v.renumbering)
      (derivedDefinition group expanding context content derivation id definition derived)
      (derivedDefinition group' expanding' context' (content.withChildren children)
        (derivation.withChildren grandchildren) (id.renumber v.renumbering)
        (definition.renumber v.renumbering) (derived.renumber v.renumbering)) := by
  unfold derivedDefinition
  refine follows_ite Iff.rfl (fun _ => ?_) fun _ => ?_
  · refine follows_ite Iff.rfl (fun _ => ?_) fun _ => ?_
    · exact follows_bind (follows_await id _) fun _ => follows_pure rfl
    · exact follows_ite Iff.rfl (fun _ => follows_pure rfl) fun _ => follows_throw
  · refine follows_ite Iff.rfl (fun _ => follows_throw) fun _ => ?_
    refine follows_bind (f := fun mixed => mixed) (follows_lift fun mixed h => ?_) fun mixed => ?_
    · unfold readMixed at h ⊢
      rw [Element.attribute?_withChildren]
      split at h
      · next hsome =>
        rw [if_pos hsome]
        exact Context.boolean_of_ok (.withChildren _ _) h
      · next hnone =>
        rw [if_neg hnone]
        exact h
    refine follows_bind hown fun own => ?_
    refine follows_ite Iff.rfl (fun _ => ?_) fun _ => follows_pure rfl
    exact follows_bind (follows_await id _) fun _ => follows_pure rfl

/-- A derivation is read alike, with the groups that are used in it replaced or not. -/
theorem follows_readDerivation (hexpanding : expanding' ⊆ expanding)
    (hexpands : Expands (v.first.Replaces context) derivation.children grandchildren) (id : TypeId)
    (scope : Option ElementId) (mixed : Bool) : v.Follows (fun u => u)
      (readDerivation group expanding context content derivation id scope mixed)
      (readDerivation group' expanding' context' (content.withChildren children)
        (derivation.withChildren grandchildren) (id.renumber v.renumbering)
        (scope.map (ElementId.renumber v.renumbering)) mixed) := by
  unfold readDerivation
  refine follows_bind (follows_readDerived hcontext _ derivation grandchildren) fun derived => ?_
  refine follows_bind (follows_derivedDefinition hown id _ derived) fun definition => ?_
  refine follows_bind (follows_readAttributeUses hcontext hexpanding derivation hexpands)
    fun uses => ?_
  exact follows_defineType id derived.base (.complex { definition with attributes := uses })

end Definition

end Derived

/-! ## Content -/

section Content

variable {group group' : GroupReader} {expanding expanding' : List QName}
  {context context' : Context}

mutual

/-- Elements are read alike, with the types that are defined in them. -/
theorem follows_readElement (hgroup : v.GroupsAlike group group')
    (hexpanding : expanding' ⊆ expanding) (hcontext : context.Alike context') (e : Element)
    {children : List Element} (h : Expands (v.first.Replaces context) e.children children)
    (id : ElementId) :
    v.Follows (fun u => u) (readElement group expanding context e id)
      (readElement group' expanding' context' (e.withChildren children)
        (id.renumber v.renumbering)) := by
  have rest : ∀ type : TypeId, v.Follows (fun u => u) (defineElement context e id type)
      (defineElement context' (e.withChildren children) (id.renumber v.renumbering)
        (type.renumber v.renumbering)) := follows_defineElement e children id
  rw [readElement_eq, readElement_eq, Element.attribute?_withChildren]
  cases e.attribute? "type" with
  | some reference => exact follows_bind (follows_typeNamed hcontext _ _ _) rest
  | none =>
    have hrel : Option.Rel (ExpandsTo (v.first.Replaces context)) (inlineType? e)
        (inlineType? (e.withChildren children)) :=
      h.find? (p := fun tag => tag == "complexType" || tag == "simpleType") (by decide)
    cases hc : inlineType? e with
    | none =>
      rw [eq_none_of_rel hrel hc]
      have hroot := rest SchemaSet.anyType
      rwa [renumber_anyType] at hroot
    | some c =>
      have : sizeOf c < sizeOf e := sizeOf_lt_of_find?_children hc
      obtain ⟨_, hc', grandchildren, hexp, rfl⟩ := exists_of_rel hrel hc
      rw [hc']
      refine follows_bind (f := TypeId.renumber v.renumbering) ?_ rest
      unfold readInlineType
      refine follows_ite Iff.rfl (fun _ => ?_) fun _ =>
        follows_readAnonymousSimpleType hcontext c hexp
      refine follows_bind (follows_newType none hcontext _) fun type => ?_
      exact follows_bind (follows_readComplexType hgroup hexpanding hcontext c hexp type (some id))
        fun _ => follows_pure rfl
termination_by 2 * sizeOf e

/-- Complex types are read alike. A reference in the place of a derivation is refused on both sides.
-/
theorem follows_readComplexType (hgroup : v.GroupsAlike group group')
    (hexpanding : expanding' ⊆ expanding) (hcontext : context.Alike context') (e : Element)
    {children : List Element} (h : Expands (v.first.Replaces context) e.children children)
    (id : TypeId) (scope : Option ElementId) :
    v.Follows (fun u => u) (readComplexType group expanding context e id scope)
      (readComplexType group' expanding' context' (e.withChildren children)
        (id.renumber v.renumbering) (scope.map (ElementId.renumber v.renumbering))) := by
  have hrel : Option.Rel (ExpandsTo (v.first.Replaces context))
      (e.children.find? isDerivedContent) (children.find? isDerivedContent) :=
    h.find? (p := fun tag => tag == "simpleContent" || tag == "complexContent") (by decide)
  have hes := sizeOf_children_lt e
  rw [readComplexType_eq, readComplexType_eq, Element.withChildren_children]
  refine follows_bind (follows_boolean e children "mixed") fun mixed => ?_
  cases hc : e.children.find? isDerivedContent with
  | none =>
    rw [eq_none_of_rel hrel hc]
    refine follows_bind (follows_readContent hgroup hexpanding hcontext h) fun content => ?_
    refine follows_bind (follows_readAttributeUses hcontext hexpanding e h) fun uses => ?_
    have hdefine := follows_defineType (v := v) id SchemaSet.anyType
      (.complex { ComplexType.empty scope with
        content := content, attributes := uses, mixed := mixed })
    rwa [renumber_anyType] at hdefine
  | some content =>
    obtain ⟨_, hc', grandchildren, hexp, rfl⟩ := exists_of_rel hrel hc
    rw [hc']
    dsimp only
    -- Where a reference comes first, there is nothing that the content could be derived by.
    rcases hexp.firstComponent? with ⟨derivation, hd, hname⟩ | hrel'
    · rw [hd]
      exact follows_readDerivation_of_reference hname id scope mixed
    · cases hd : firstComponent? content with
      | none => exact follows_throw
      | some derivation =>
        obtain ⟨_, hd', greatgrandchildren, hexp', rfl⟩ := exists_of_rel hrel' hd
        rw [hd']
        have hcontent : sizeOf content < sizeOf e := sizeOf_lt_of_find?_children hc
        have hderivation : sizeOf derivation < sizeOf content := sizeOf_lt_of_find?_children hd
        have hds := sizeOf_children_lt derivation
        exact follows_readDerivation hcontext
          (follows_readContent hgroup hexpanding hcontext hexp') hexpanding hexp' id scope mixed
termination_by 2 * sizeOf e

/-- Content is read alike: a model group stands for the use of its group. -/
theorem follows_readContent (hgroup : v.GroupsAlike group group')
    (hexpanding : expanding' ⊆ expanding) (hcontext : context.Alike context')
    {es es' : List Element} (h : Expands (v.first.Replaces context) es es') :
    v.Follows (Content.renumber v.renumbering) (readContent group expanding context es)
      (readContent group' expanding' context' es') := by
  cases h with
  | nil =>
    rw [readContent, readContent]
    exact follows_pure rfl
  | node e hc hes =>
    rw [readContent, readContent, Element.localName_withChildren]
    split
    · exact follows_bind (follows_readModelGroup hgroup hexpanding hcontext e hc)
        fun _ => follows_pure rfl
    · exact follows_bind (follows_readModelGroup hgroup hexpanding hcontext e hc)
        fun _ => follows_pure rfl
    · exact follows_bind (follows_readModelGroup hgroup hexpanding hcontext e hc)
        fun _ => follows_pure rfl
    · exact follows_bind (hgroup.use e hexpanding hcontext hc) fun _ => follows_pure rfl
    · exact follows_readContent hgroup hexpanding hcontext hes
  | @replaced e new es es' hr hes =>
    rw [readContent]
    cases hr' : hr with
    | @group _ _ _ m m' hname _ _ _ _ hm hcarries =>
      rw [hname, List.singleton_append, readContent, hcarries.localName]
      have hm' : v.Follows (Content.renumber v.renumbering)
          (do return .particle (← group expanding context e))
          (do return .particle (← readModelGroup group' expanding' context' m')) :=
        follows_bind (hgroup.replaced hexpanding hcontext hname hr) fun p => follows_pure rfl
      rcases localName_of_modelGroup? hm with htag | htag | htag <;> rw [htag] <;> exact hm'
    | @attributeGroup reference name definition hname href hresolve hfound halike htags =>
      rw [hname, readContent_append fun c hc => htags c hc]
      exact follows_readContent hgroup hexpanding hcontext hes
termination_by 2 * sizeOf es

theorem follows_readModelGroup (hgroup : v.GroupsAlike group group')
    (hexpanding : expanding' ⊆ expanding) (hcontext : context.Alike context') (e : Element)
    {children : List Element} (h : Expands (v.first.Replaces context) e.children children) :
    v.Follows (Particle.renumber v.renumbering) (readModelGroup group expanding context e)
      (readModelGroup group' expanding' context' (e.withChildren children)) := by
  rw [readModelGroup, readModelGroup, Element.localName_withChildren]
  refine follows_bind (follows_occurs e children) fun occurs => ?_
  have := sizeOf_children_lt e
  refine follows_bind (follows_readParticles hgroup hexpanding hcontext _ h)
    fun ps => follows_pure ?_
  rw [Particle.renumber, Particle.renumberAll_eq_map]
termination_by 2 * sizeOf e

/-- Particles are read alike, and an attribute group among them is refused on both sides. -/
theorem follows_readParticles (hgroup : v.GroupsAlike group group')
    (hexpanding : expanding' ⊆ expanding) (hcontext : context.Alike context')
    (compositor : Compositor) {es es' : List Element}
    (h : Expands (v.first.Replaces context) es es') :
    v.Follows (List.map (Particle.renumber v.renumbering))
      (readParticles group expanding context compositor es)
      (readParticles group' expanding' context' compositor es') := by
  cases h with
  | nil =>
    rw [readParticles, readParticles]
    exact follows_pure rfl
  | @node e _ es es' hc hes =>
    rw [readParticles, readParticles, Element.localName_withChildren]
    have rest : ∀ particle : Option Particle, v.Follows (List.map (Particle.renumber v.renumbering))
        (do
          let particles ← readParticles group expanding context compositor es
          return particle.toList ++ particles) (do
          let particles ← readParticles group' expanding' context' compositor es'
          return (particle.map (Particle.renumber v.renumbering)).toList ++ particles) := by
      intro particle
      refine follows_bind (follows_readParticles hgroup hexpanding hcontext compositor hes)
        fun ps => follows_pure ?_
      cases particle <;> rfl
    have some : ∀ {x x' : DraftM Particle}, v.Follows (Particle.renumber v.renumbering) x x' →
        v.Follows (Option.map (Particle.renumber v.renumbering)) (Option.some <$> x)
          (Option.some <$> x') := fun hx => follows_map hx fun _ => rfl
    split
    · exact follows_bind (some (follows_readLocalElement hgroup hexpanding hcontext e hc)) rest
    · exact follows_bind (some (follows_readModelGroup hgroup hexpanding hcontext e hc)) rest
    · exact follows_bind (some (follows_readModelGroup hgroup hexpanding hcontext e hc)) rest
    · exact follows_bind (some (follows_readModelGroup hgroup hexpanding hcontext e hc)) rest
    · exact follows_bind (some (hgroup.use e hexpanding hcontext hc)) rest
    · refine follows_bind (follows_occurs e _) fun occurs => ?_
      exact follows_bind (f := Option.map (Particle.renumber v.renumbering)) (follows_pure rfl) rest
    · exact follows_bind (f := Option.map (Particle.renumber v.renumbering)) (follows_pure rfl) rest
    · exact follows_bind (f := Option.map (Particle.renumber v.renumbering)) follows_throw rest
  | @replaced e new es es' hr hes =>
    rw [readParticles]
    cases hr' : hr with
    | @group _ _ _ m m' hname _ _ _ _ hm hcarries =>
      have hboth : v.Follows (List.map (Particle.renumber v.renumbering)) (do
          let particle ← Option.some <$> group expanding context e
          let particles ← readParticles group expanding context compositor es
          return particle.toList ++ particles) (do
          let particle ← Option.some <$> readModelGroup group' expanding' context' m'
          let particles ← readParticles group' expanding' context' compositor es'
          return particle.toList ++ particles) := by
        refine follows_bind (follows_map (f := Particle.renumber v.renumbering)
          (i := Option.map (Particle.renumber v.renumbering))
          (hgroup.replaced hexpanding hcontext hname hr) fun _ => rfl) fun particle => ?_
        refine follows_bind (follows_readParticles hgroup hexpanding hcontext compositor hes)
          fun ps => follows_pure ?_
        cases particle <;> rfl
      rw [hname, List.singleton_append, readParticles, hcarries.localName]
      rcases localName_of_modelGroup? hm with htag | htag | htag <;> rw [htag] <;> exact hboth
    | attributeGroup hname =>
      rw [hname]
      exact follows_throw_bind
termination_by 2 * sizeOf es

theorem follows_readLocalElement (hgroup : v.GroupsAlike group group')
    (hexpanding : expanding' ⊆ expanding) (hcontext : context.Alike context') (e : Element)
    {children : List Element} (h : Expands (v.first.Replaces context) e.children children) :
    v.Follows (Particle.renumber v.renumbering) (readLocalElement group expanding context e)
      (readLocalElement group' expanding' context' (e.withChildren children)) := by
  rw [readLocalElement, readLocalElement, Element.attribute?_withChildren]
  refine follows_bind (follows_occurs e children) fun occurs => ?_
  cases e.attribute? "ref" with
  | some reference =>
    exact follows_bind (follows_elementNamed hcontext _ _ _) fun _ => follows_pure rfl
  | none =>
    refine follows_bind (f := fun name => name)
      (follows_lift fun _ h => Context.requiredName_of_ok (.withChildren _ _) h) fun name => ?_
    rw [Context.localNamespace_withChildren, hcontext.localNamespace_eq,
      hcontext.elementsQualified]
    refine follows_bind (follows_newElement _ _ _) fun id => ?_
    exact follows_bind (follows_readElement hgroup hexpanding hcontext e h id)
      fun _ => follows_pure rfl
termination_by 2 * sizeOf e + 1

end

end Content

/-! ## Groups -/

/-- The groups of the drafts are those that were there at first. -/
theorem Mirrors.group {d d' : Draft} (hd : v.Mirrors d d') (name : QName)
    (definition : GroupDefinition) (h : d.groups.get? name = some definition) :
    ∃ definition', d'.groups.get? name = some definition' ∧
      definition.context.Alike definition'.context ∧
      ∀ m, modelGroup? definition.element.children = some m →
        ∃ m', modelGroup? definition'.element.children = some m' ∧
          ExpandsTo (v.first.Replaces definition.context) m m' := by
  rw [hd.groups] at h
  rw [hd.groups']
  obtain ⟨definition', hfound, hrewrites, hm⟩ := v.defines.groups name definition h
  exact ⟨definition', hfound, hrewrites.context, hm⟩

theorem grows_readGroupWithin (depth : Nat) (expanding : List QName) (context : Context)
    (e : Element) : Grows (readGroupWithin depth expanding context e) :=
  fun set => keeps_readGroupWithin (stable_within set) depth expanding context e

/-- Uses of groups within each other are read alike. -/
theorem follows_readGroupWithin {depth depth' : Nat} (hdepth : depth ≤ depth')
    (hnext : ∀ k k', depth = k + 1 → depth' = k' + 1 →
      v.GroupsAlike (readGroupWithin k) (readGroupWithin k'))
    {expanding expanding' : List QName} {context context' : Context} (e : Element)
    {children : List Element} (hexpanding : expanding' ⊆ expanding)
    (hcontext : context.Alike context') : v.Follows (Particle.renumber v.renumbering)
      (readGroupWithin depth expanding context e)
      (readGroupWithin depth' expanding' context' (e.withChildren children)) := by
  have hgrows := grows_readGroupWithin depth expanding context e
  rw [readGroupWithin_eq] at hgrows
  rw [readGroupWithin_eq, readGroupWithin_eq]
  refine follows_look hgrows
    (look_expandGroup hcontext children hexpanding fun _ _ hd => hd.group) ?_
  rintro ⟨name, definition⟩ ⟨_, definition'⟩ ⟨rfl, halike, hm⟩
  dsimp only at halike hm ⊢
  unfold readDefinition
  refine follows_bind (follows_occurs e children) fun occurs => ?_
  cases hcontent : modelGroup? definition.element.children with
  | none => exact follows_throw
  | some content =>
    obtain ⟨_, hcontent', inner, hinner, rfl⟩ := hm content hcontent
    rw [hcontent']
    cases depth with
    | zero => exact follows_throw
    | succ depth =>
      obtain ⟨depth', rfl⟩ : ∃ n, depth' = n + 1 := ⟨depth' - 1, by omega⟩
      refine follows_bind (follows_readModelGroup (hnext depth depth' rfl rfl)
        (List.cons_subset_cons _ hexpanding) halike content hinner) fun particle => ?_
      exact follows_pure (Particle.renumber_withOccurs _ _ _).symm

/-- A model group that stands for a reference is read like the reference. -/
theorem follows_readGroupWithin_replaced {depth : Nat} {group' : GroupReader}
    (hnext : ∀ k, depth = k + 1 → v.GroupsAlike (readGroupWithin k) group')
    {expanding expanding' : List QName} {context context' : Context} {e m' : Element}
    (hexpanding : expanding' ⊆ expanding) (hcontext : context.Alike context')
    (hname : e.localName = "group") (hr : v.first.Replaces context e [m']) :
    v.Follows (Particle.renumber v.renumbering) (readGroupWithin depth expanding context e)
      (readModelGroup group' expanding' context' m') := by
  have hgrows := grows_readGroupWithin depth expanding context e
  rw [readGroupWithin_eq] at hgrows ⊢
  generalize hnew : [m'] = new at hr
  cases hr with
  | attributeGroup hname' => exact absurd (hname.symm.trans hname') (by decide)
  | @group reference name definition m _ _ href hresolve hfound halike hm hcarries =>
    cases hnew
    refine follows_look_left (R := fun found => found = (name, definition)) hgrows ?_ ?_
    · rintro d d' ⟨found, foundDefinition⟩ _ hd hrun
      obtain ⟨⟨ref, href', hresolve'⟩, -, hget, rfl⟩ := run_expandGroup_eq_ok_iff.mp hrun
      cases href.symm.trans href'
      cases hresolve.symm.trans hresolve'
      rw [hd.groups] at hget
      exact ⟨rfl, congrArg (Prod.mk name) (Option.some.inj (hget.symm.trans hfound))⟩
    · rintro _ rfl
      dsimp only
      unfold readDefinition
      rw [readModelGroup, hm]
      refine follows_bind (f := fun occurs => occurs) (follows_lift fun _ h =>
        Context.occurs_of_bounds hcarries.bounds h) fun occurs => ?_
      cases depth with
      | zero => exact follows_throw
      | succ depth =>
        -- The bounds of the definition are read, but those of the use stand.
        have hgrows : Grows (do
            let particle ← readModelGroup (readGroupWithin depth) (name :: expanding)
              definition.context m
            return particle.withOccurs occurs) := fun set =>
          (keeps_readModelGroup (stable_within set)
            (keeps_readGroupWithin (stable_within set) depth) _ _ _).bind fun _ => keeps_pure _
        dsimp only
        rw [readModelGroup, bind_assoc] at hgrows ⊢
        refine follows_look_left (R := fun _ => True) hgrows
          (fun _ _ _ _ _ hrun => ⟨(congrArg Prod.snd hrun).symm, trivial⟩) fun own _ => ?_
        rw [hcarries.localName, hcarries.children, bind_assoc]
        refine follows_bind (follows_readParticles (hnext depth rfl)
          (List.subset_cons_of_subset name hexpanding) (halike.trans hcontext) _
          (.refl m.children)) fun particles => follows_pure ?_
        simp only [Particle.renumber, Particle.renumberAll_eq_map, Particle.withOccurs]

/-- Uses of groups within each other are read alike when they may be used within each other as
deeply, or deeper. -/
theorem groupsAlike_readGroupWithin (depth depth' : Nat) (hdepth : depth ≤ depth') :
    v.GroupsAlike (readGroupWithin depth) (readGroupWithin depth') := by
  induction depth generalizing depth' with
  | zero =>
    exact ⟨fun e _ hexpanding hcontext _ => follows_readGroupWithin hdepth
        (fun _ _ h => absurd h.symm (Nat.succ_ne_zero _)) e hexpanding hcontext,
      follows_readGroupWithin_replaced fun _ h => absurd h.symm (Nat.succ_ne_zero _)⟩
  | succ depth ih =>
    exact ⟨fun e _ hexpanding hcontext _ => follows_readGroupWithin hdepth
        (fun k k' hk hk' => by
          cases hk
          exact ih k' (by omega)) e hexpanding hcontext,
      follows_readGroupWithin_replaced fun k hk => by
        cases hk
        exact ih depth' (Nat.le_of_succ_le hdepth)⟩

/-- The use of a group may be within each other as often as there are groups. -/
theorem follows_readGroup_right {f : Particle → Particle} {x : DraftM Particle}
    {expanding : List QName} {context : Context} {e : Element}
    (h : v.Follows f x (readGroupWithin v.first'.groups.size expanding context e)) :
    v.Follows f x (readGroup expanding context e) where
  grows := h.grows
  follows d d' a e' hd hrun hlast := by
    rw [← hd.groups'] at h
    exact h.follows d d' a e' hd hrun hlast

theorem follows_readGroup_left {f : Particle → Particle} {x' : DraftM Particle}
    {expanding : List QName} {context : Context} {e : Element}
    (h : v.Follows f (readGroupWithin v.first.groups.size expanding context e) x') :
    v.Follows f (readGroup expanding context e) x' where
  grows set := keeps_readGroup (stable_within set) expanding context e
  follows d d' a e' hd hrun hlast := by
    rw [← hd.groups] at h
    exact h.follows d d' a e' hd hrun hlast

theorem groupsAlike_readGroupWithin_readGroup (depth : Nat) (hdepth : depth ≤ v.first.groups.size) :
    v.GroupsAlike (readGroupWithin depth) readGroup where
  use e _ hexpanding hcontext hexpands :=
    have halike := groupsAlike_readGroupWithin depth v.first'.groups.size
      (Nat.le_trans hdepth v.defines.groups_size)
    follows_readGroup_right (halike.use e hexpanding hcontext hexpands)
  replaced := follows_readGroupWithin_replaced fun k hk =>
    groupsAlike_readGroupWithin_readGroup k (by omega)

/-- The uses of groups are read alike as deep as there are groups in each draft. -/
theorem groupsAlike_readGroup : v.GroupsAlike readGroup readGroup where
  use e _ hexpanding hcontext hexpands :=
    follows_readGroup_left ((groupsAlike_readGroupWithin_readGroup _ (Nat.le_refl _)).use e
      hexpanding hcontext hexpands)
  replaced hexpanding hcontext hname hr :=
    follows_readGroup_left ((groupsAlike_readGroupWithin_readGroup _ (Nat.le_refl _)).replaced
      hexpanding hcontext hname hr)

/-! ## Declared components -/

/-- A declared component is the same but for its place and for references written out. -/
structure SameGlobal (v : Rereading) (g g' : Global) : Prop where
  target : g'.target = g.target.renumber v.renumbering
  context : g.context.Alike g'.context
  element : ExpandsTo (v.first.Replaces g.context) g.element g'.element

/-- Components that have been declared are read alike, of whatever kind they are. -/
theorem follows_readGlobal {g g' : Global} (h : v.SameGlobal g g') :
    v.Follows (fun u => u) (readGlobal g) (readGlobal g') := by
  obtain ⟨target, e, context⟩ := g
  obtain ⟨_, _, context'⟩ := g'
  obtain ⟨htarget, hcontext, children, hexpands, heq⟩ := h
  dsimp only at htarget hcontext hexpands heq
  subst htarget heq
  cases target with
  | element id =>
    exact follows_readElement groupsAlike_readGroup (List.Subset.refl []) hcontext e hexpands id
  | attr id => exact follows_readAttribute hcontext hexpands id
  | complexType id =>
    exact follows_readComplexType groupsAlike_readGroup (List.Subset.refl []) hcontext e hexpands
      id none
  | simpleType id => exact follows_readSimpleType hcontext e hexpands id

/-- Declared components that are read one after the other. -/
theorem follows_readGlobals {gs gs' : List Global} (h : List.Forall₂ v.SameGlobal gs gs') :
    v.Follows (fun u => u) (gs.forM readGlobal) (gs'.forM readGlobal) := by
  induction h with
  | nil => exact follows_pure rfl
  | cons hg _ ih => exact follows_bind (follows_readGlobal hg) fun _ => ih

end Rereading

end SchemaBinding.Xsd
