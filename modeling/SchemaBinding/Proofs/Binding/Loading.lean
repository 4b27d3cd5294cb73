import SchemaBinding.Binding.Compilation
import SchemaBinding.Proofs.Binding.Content

/-!
# Sound loading

Binding a type definition keeps a build sound, whatever the definition refers to, and whether it can
be bound or not. By induction on how deep types are nested; one step of it is a lemma for each
function.

## Main definitions

* `NewName`: what is known of a name under which a type is built
* `Builds`: what building a type promises
* `Build.abandon`: going back when a complex type could not be filled

## Main results

* `ends_simpleSuper`, `ends_complexSuper`: how the super type of a type is found
* `succeeds_simpleSuper`, `succeeds_complexSuper`: bases
* `ends_buildSimple`, `ends_buildList`, `ends_buildComplex`: how a type is made
* `ends_loadStep`: how a definition is bound
* `builds_buildSimple`, `builds_buildList`, `enters_buildComplex`: new types
* `loads_loadWithin`, `loads_load`: binding a type with all that it refers to
-/

namespace SchemaBinding.Binding

open Repository (ComplexId ComplexType ListType Primitive Scope SimpleType Store TypeRef)
open Xsd (AttributeUse SchemaSet TypeDefinition TypeId)

/-- A type is built under a name that means nothing yet, and that is neither the name of the items
of a group nor that of a list of repeated content. -/
structure NewName (setting : Setting) (b : Build) (name : String) : Prop where
  lookup_eq : b.scope.lookup? b.store setting.registry name = none
  ne_item : ∀ owner, name ≠ Naming.anonymousListItem owner
  not_isList : ¬ Naming.IsList name

/-- What building a type under a name promises of its result: it is a type of the schema, and
mentions only what may be mentioned. -/
structure Builds (setting : Setting) (name : String) (b : Build) (r : Except Failure TypeRef)
    (b' : Build) : Prop where
  advances : Advances setting none b b'
  has : ∀ t, r = .ok t → b'.store.Has t
  nameOf_eq : ∀ t, r = .ok t → b'.store.nameOf t = name
  schemaOf?_eq : ∀ t, r = .ok t → b'.store.schemaOf? t = some b'.scope.schemaName
  closed : ∀ t u, r = .ok t → b'.store.RefersTo t u → setting.Held b' u

variable {setting : Setting} {load : Loader} {b b' : Build} {target : ComplexId} {name : String}

namespace Builds

theorem ofError (h : Advances setting none b b') (failure : Failure) :
    Builds setting name b (.error failure) b' :=
  ⟨h, ok_of_error, ok_of_error, ok_of_error, nofun⟩

/-- A type of the scope. -/
theorem ofLocal {r : Except Failure TypeRef} (h : Advances setting none b b')
    (hr : ∀ t, r = .ok t → b'.scope.lookupLocal? name = some t) : Builds setting name b r b' where
  advances := h
  has t ht := h.sound.has _ t (hr t ht)
  nameOf_eq t ht := h.sound.nameOf_eq _ t (hr t ht)
  schemaOf?_eq t ht := h.sound.schemaOf?_eq _ t (hr t ht)
  closed t u ht hu := h.sound.closed _ t u (hr t ht) hu

end Builds

/-! ## Bases -/

/-- A simple type has the super type that its base is bound to, or none. Then the build has come to
the base at most, and has reported what is wrong with it. -/
theorem ends_simpleSuper {schemas : SchemaSet} {id : TypeId} {name : String}
    {post : Except Failure (Option TypeRef) → Build → Prop} (hnone : post (.ok none) b)
    (hbase : Ends b (load (schemas.baseOf id) name) fun r b' =>
      (∀ t, r = .ok t → post (.ok (some t)) b') ∧
        ∀ level text, post (.ok none) (b'.report level text)) :
    Ends b (simpleSuper schemas load id name) post := by
  unfold simpleSuper
  dsimp only
  split
  · exact hnone
  · simp only [ends_bind, ends_attempt]
    apply hbase.mono
    rintro (failure | t) b₁ ⟨hsome, hreported⟩
    · exact hreported _ _
    · dsimp only
      split
      · exact hsome t rfl
      · exact hreported _ _

/-- So it is with a complex type, the super type of which is complex and is not made of the same
definition. -/
theorem ends_complexSuper {schemas : SchemaSet} {id : TypeId} {name : String}
    {post : Except Failure (Option ComplexId) → Build → Prop} (hnone : post (.ok none) b)
    (hbase : schemas.baseOf id ≠ id → Ends b (load (schemas.baseOf id) name) fun r b' =>
      (∀ c, r = .ok (.complex c) → post (.ok (some c)) b') ∧
        ∀ level text, post (.ok none) (b'.report level text)) :
    Ends b (complexSuper schemas load id name) post := by
  unfold complexSuper
  dsimp only
  split
  · exact hnone
  · next hroot =>
    simp only [ends_bind, ends_attempt]
    apply (hbase fun heq => hroot (.inl heq)).mono
    rintro (failure | t) b₁ ⟨hsome, hreported⟩
    · exact hreported _ _
    · cases t with
      | complex c => exact hsome c rfl
      | primitive | simple | list => exact hreported _ _

/-- The base of a simple type is found or left out. -/
theorem succeeds_simpleSuper (hload : Loads setting load) (h : setting.Sound b)
    (schemas : SchemaSet) (id : TypeId) (name : String) :
    Ends b (simpleSuper schemas load id name) fun r b' => Advances setting none b b' ∧
      ∃ super, r = .ok super ∧ ∀ t, super = some t → setting.Settled b' t := by
  refine ends_simpleSuper ⟨.refl _ h, none, rfl, some_of_none⟩ ((hload b _ name h).mono ?_)
  rintro r b₁ ⟨hadv, ht⟩
  refine ⟨fun t hr => ⟨hadv, some t, rfl, ?_⟩, fun _ _ => ?_⟩
  · rintro _ ⟨⟩
    exact ht t hr
  · exact ⟨hadv.quiet rfl rfl, none, rfl, some_of_none⟩

/-- The super type of a complex type is found or left out. -/
theorem succeeds_complexSuper (hload : Loads setting load) (h : setting.Sound b)
    (schemas : SchemaSet) (id : TypeId) (name : String) :
    Ends b (complexSuper schemas load id name) fun r b' => Advances setting none b b' ∧
      ∃ super, r = .ok super ∧ ∀ c, super = some c → setting.Settled b' (.complex c) := by
  refine ends_complexSuper ⟨.refl _ h, none, rfl, some_of_none⟩ fun _ =>
    (hload b _ name h).mono ?_
  rintro r b₁ ⟨hadv, ht⟩
  refine ⟨fun c hr => ⟨hadv, some c, rfl, ?_⟩, fun _ _ => ?_⟩
  · rintro _ ⟨⟩
    exact ht _ hr
  · exact ⟨hadv.quiet rfl rfl, none, rfl, some_of_none⟩

/-! ## Simple types and lists -/

/-- How a simple type is made: its base is bound or left out, and it has the constraints of its
facets unless it is a list or a union. -/
theorem ends_buildSimple {schemas : SchemaSet} {id : TypeId} {definition : Xsd.SimpleType}
    {mid : Except Failure (Option TypeRef) → Build → Prop}
    {post : Except Failure TypeRef → Build → Prop}
    (hsuper : Ends b (simpleSuper schemas load id name) mid)
    (hbase : ∀ failure b₁, mid (.error failure) b₁ → post (.error failure) b₁)
    (hfacets : ∀ super b₁ failure, mid (.ok super) b₁ →
      constraints definition.facets = .error failure → post (.error failure) b₁)
    (hmade : ∀ super b₁ restrictions, mid (.ok super) b₁ →
      (definition.variety = .atomic → constraints definition.facets = .ok restrictions) →
      (definition.variety ≠ .atomic → restrictions = []) →
      let made := b₁.store.addSimple ⟨name, b₁.scope.schemaName, super, restrictions⟩
      post (.ok (.simple made.1)) { b₁ with store := made.2 }) :
    Ends b (buildSimple schemas load id name definition) post := by
  unfold buildSimple
  rw [ends_bind]
  apply hsuper.mono
  rintro (failure | super) b₁ hmid
  · exact hbase failure b₁ hmid
  · dsimp only
    split
    · rw [ends_bind, ends_liftExcept]
      cases hc : constraints definition.facets with
      | error failure => exact hfacets super b₁ failure hmid hc
      | ok restrictions =>
        exact hmade super b₁ restrictions hmid (fun _ => hc) fun hne => absurd ‹_› hne
    · next hvariety =>
      exact hmade super b₁ [] hmid (fun hatomic => absurd hatomic hvariety) fun _ => rfl

theorem builds_buildSimple (hload : Loads setting load) (h : setting.Sound b) (id : TypeId)
    (name : String) (definition : Xsd.SimpleType) :
    Ends b (buildSimple setting.set load id name definition) (Builds setting name b) := by
  refine ends_buildSimple (succeeds_simpleSuper hload h _ id name) ?_ ?_ ?_
  · rintro failure b₁ ⟨hadv, -⟩
    exact .ofError hadv failure
  · rintro super b₁ failure ⟨hadv, -⟩ -
    exact .ofError hadv failure
  rintro super b₁ restrictions ⟨hadv, _, ⟨⟩, hsuper⟩ - -
  let t : SimpleType := ⟨name, b₁.scope.schemaName, super, restrictions⟩
  let b₂ : Build := { b₁ with store := (b₁.store.addSimple t).2 }
  have hmade : Advances setting none b₁ b₂ := .ofStore hadv.sound (Store.grows_addSimple t) rfl
  have ht : b₂.store.simple (b₁.store.addSimple t).1 = t := Store.simple_addSimple _ _
  refine ⟨hadv.trans hmade, ?_, ?_, ?_, ?_⟩
  · rintro _ ⟨⟩
    exact Store.has_addSimple t
  · rintro _ ⟨⟩
    exact congrArg SimpleType.name ht
  · rintro _ ⟨⟩
    exact congrArg (fun t : SimpleType => some t.schema) ht
  · rintro _ u ⟨⟩ (hu | _ | _ | _)
    have hu : super = some u := (congrArg SimpleType.super ht).symm.trans hu
    exact .settled (hmade.settled hadv.sound (hsuper u hu))

/-- How a list type is made: its items are of a primitive, or of what their name means. -/
theorem ends_buildList {definition : TypeDefinition} {item : TypeId}
    {post : Except Failure TypeRef → Build → Prop}
    (hunnamed : post (.error .unnamedType) b)
    (hmissing : ∀ n, post (.error (.missingItemType n (setting.set.type item).displayName)) b)
    (hmade : ∀ n type, definition.name = some n →
      ((∃ p, type = .primitive p) ∨ b.scope.lookup? b.store setting.registry
        (setting.set.type item).displayName = some type) →
      let made := b.store.addList (.ofItem n b.scope.schemaName type)
      post (.ok (.list made.1)) { b with store := made.2 }) :
    Ends b (buildList setting definition item) post := by
  unfold buildList
  cases hn : definition.name with
  | none => exact hunnamed
  | some n =>
    dsimp only
    split
    · cases Repository.Primitive.ofBuiltin? (setting.set.type item).displayName with
      | none => exact hmissing n
      | some p => exact hmade n (.primitive p) hn (.inl ⟨p, rfl⟩)
    · rw [ends_bind, ends_lookup?]
      cases hfound : b.scope.lookup? b.store setting.registry
          (setting.set.type item).displayName with
      | none => exact hmissing n
      | some type => exact hmade n type hn (.inr hfound)

theorem builds_buildList (h : setting.Sound b) (definition : TypeDefinition) (itemId : TypeId)
    (hname : ∀ n, definition.name = some n → n = name) :
    Ends b (buildList setting definition itemId) (Builds setting name b) := by
  refine ends_buildList (.ofError (.refl _ h) _) (fun _ => .ofError (.refl _ h) _) ?_
  intro n type hn hitem
  have hsettled : setting.Settled b type := by
    obtain ⟨p, rfl⟩ | hfound := hitem
    · exact .primitive p
    · exact h.settled_of_lookup? hfound
  let l : ListType := .ofItem n b.scope.schemaName type
  let b₁ : Build := { b with store := (b.store.addList l).2 }
  have hmade : Advances setting none b b₁ := .ofStore h (Store.grows_addList l) rfl
  have hl : b₁.store.list (b.store.addList l).1 = l := Store.list_addList _ _
  refine ⟨hmade, ?_, ?_, ?_, ?_⟩
  · rintro _ ⟨⟩
    exact Store.has_addList l
  · rintro _ ⟨⟩
    exact (congrArg ListType.name hl).trans (hname n hn)
  · rintro _ ⟨⟩
    exact congrArg (fun l : ListType => some l.schema) hl
  · rintro _ u ⟨⟩ (_ | _ | _ | _)
    rw [hl]
    exact .settled (hmade.settled h hsettled)

/-! ## Complex types -/

theorem advances_addAttributes (hload : Loads setting load) (schemas : SchemaSet)
    (uses : List AttributeUse) (h : setting.Sound b) (ho : IsOpen b.store b.scope target) :
    Ends b (addAttributes schemas load target uses) fun _ b' =>
      Advances setting (some target) b b' := by
  induction uses generalizing b with
  | nil => exact .refl _ h
  | cons use uses ih =>
    unfold addAttributes
    simp only [ends_bind, ends_attempt]
    apply (hload b _ _ h).mono
    rintro (failure | t) b₁ ⟨hadv, ht⟩
    · exact hadv.weaken _
    · have ho₁ := hadv.grows.isOpen ho
      let field := attributeField (schemas.attr use.declaration) t
      have hfield : Advances setting (some target) b₁ (b₁.addField target field) :=
        .addField hadv.sound ho₁ (.settled (ht t rfl))
      have hadv' := (hadv.weaken (some target)).trans hfield
      exact (ih hadv'.sound (hadv'.grows.isOpen ho)).mono fun _ _ hadv'' => hadv'.trans hadv''

theorem fills_makeContent (hload : Loads setting load) (h : setting.Sound b)
    (ho : IsOpen b.store b.scope target) (hfields : (b.store.complex target).fields = [])
    (definition : Xsd.ComplexType) :
    Ends b (makeContent setting load definition target) (Fills setting target b) := by
  unfold makeContent
  split
  · exact .ofAdvances (.refl _ h) ho
  · exact .ofAdvances (.refl _ h) ho
  · exact fills_addContent hload _ h ho hfields
  · exact .ofError (.refl _ h) _

/-- Attributes are added to the type, unless a list has taken its place. -/
theorem fills_makeAttributes (hload : Loads setting load) (ho : IsOpen b.store b.scope target)
    {type : TypeRef} (h : Fills setting target b (.ok type) b') (id : TypeId)
    (definition : Xsd.ComplexType) :
    Ends b' (makeAttributes setting load id definition target type) fun r b'' =>
      Fills setting target b (r.map fun _ => type) b'' := by
  unfold makeAttributes
  rw [ends_bind, ends_get]
  dsimp only
  cases hlist : type.isList with
  | true =>
    rw [if_pos rfl]
    split
    · exact h.quiet rfl rfl
    · exact h
  | false =>
    have htype : type = .complex target := by
      apply (h.result type rfl).resolve_right
      intro hl
      rw [hlist] at hl
      cases hl
    subst htype
    rw [if_neg Bool.false_ne_true]
    apply (advances_addAttributes hload _ _ h.sound (h.isOpen ho)).mono
    rintro (failure | _) b₂ hadv
    · exact (h.trans hadv).fail failure
    · exact h.trans hadv

/-- Content and attributes. -/
theorem fills_fillComplex (hload : Loads setting load) (h : setting.Sound b)
    (ho : IsOpen b.store b.scope target) (hfields : (b.store.complex target).fields = [])
    (id : TypeId) (definition : Xsd.ComplexType) :
    Ends b (fillComplex setting load id definition target) (Fills setting target b) := by
  unfold fillComplex
  rw [ends_bind]
  apply (fills_makeContent hload h ho hfields definition).mono
  rintro (failure | type) b₁ hf
  · exact hf
  · dsimp only
    rw [ends_bind]
    apply (fills_makeAttributes hload ho hf id definition).mono
    rintro (failure | _) b₂ hf'
    · exact hf'
    · exact hf'

/-- A type may be opened under its name when its super type has been bound, unless that has bound
the name. -/
theorem Advances.openedNamed (h : setting.Sound b) (hname : NewName setting b name)
    (hadv : Advances setting none b b') (hn : b'.scope.lookupLocal? name = none)
    {super : Option ComplexId}
    (hsuper : ∀ above, super = some above → setting.Settled b' (.complex above)) :
    Advances setting none b' (b'.opened name super) := by
  have hglobal := (hadv.lookupGlobal?_eq h name).trans (lookup?_eq_none_iff.mp hname.lookup_eq).1
  exact .opened hadv.sound (lookup?_eq_none_iff.mpr ⟨hglobal, hn⟩)
    (fun k hk => absurd hk (hname.ne_item k)) hname.not_isList hsuper

/-- The build when a complex type could not be filled: the scope is cut at a mark. -/
def Build.abandon (name : String) (mark : Nat) (b : Build) : Build :=
  let (dropped, scope) := b.scope.truncate mark
  { b with scope }.report .debug
    s!"complex type {name} failed, dropping {dropped} types built for it"

/-- How a complex type is made: its super type is bound or left out, and unless it has bound the
name, the type is opened and filled. If it cannot be filled, the scope is cut where the type was
opened. -/
theorem ends_buildComplex (hload : Loads setting load) (h : setting.Sound b) {id : TypeId}
    {definition : Xsd.ComplexType} {mid : Except Failure (Option ComplexId) → Build → Prop}
    {post : Except Failure TypeRef → Build → Prop}
    (hsuper : Ends b (complexSuper setting.set load id name) mid)
    (htaken : ∀ super b₁, mid (.ok super) b₁ → Advances setting none b b₁ →
      b₁.scope.lookupLocal? name ≠ none →
      post (.error (.typeCollision name)) (b₁.withStub name super))
    (hopened : ∀ super b₁, mid (.ok super) b₁ → Advances setting none b b₁ →
      (∀ above, super = some above → setting.Settled b₁ (.complex above)) →
      b₁.scope.lookupLocal? name = none →
      Ends (b₁.opened name super)
        (fillComplex setting load id definition (b₁.nextComplex name super)) fun r b₂ =>
          match r with
          | .ok t => post (.ok t) b₂
          | .error failure => post (.error failure) (b₂.abandon name b₁.scope.size)) :
    Ends b (buildComplex setting load id name definition) post := by
  unfold buildComplex
  rw [ends_bind]
  apply ((succeeds_complexSuper hload h _ id name).and hsuper).mono
  rintro r b₁ ⟨⟨hadv, super, rfl, hsettled⟩, hmid⟩
  simp only [ends_bind, ends_mark]
  -- The super type may have bound the name, as a type can be used inside its own base.
  cases hn : b₁.scope.lookupLocal? name with
  | some other =>
    rw [ends_openComplex_of_some hn (hadv.sound.has _ _ hn)]
    exact htaken super b₁ hmid hadv (hn ▸ Option.some_ne_none other)
  | none =>
    rw [ends_openComplex_of_none hn]
    simp only [ends_attempt]
    apply (hopened super b₁ hmid hadv hsettled hn).mono
    rintro (failure | t) b₂ hpost
    · exact hpost
    · exact hpost

/-- A complex type is built whole, or nothing of what was built for it is left in the scope. -/
theorem enters_buildComplex (hload : Loads setting load) (h : setting.Sound b)
    (hname : NewName setting b name) (id : TypeId) (definition : Xsd.ComplexType) :
    Ends b (buildComplex setting load id name definition) fun r b' =>
      Advances setting none b b' ∧ ∀ t, r = .ok t → b'.scope.lookupLocal? name = some t := by
  refine ends_buildComplex hload h (succeeds_complexSuper hload h _ id name) ?_ ?_
  · intro super b₁ _ hadv _
    exact ⟨hadv.trans (.withStub hadv.sound name super), ok_of_error⟩
  · intro super b₁ _ hadv hsettled hn
    have hopened : Advances setting none b₁ (b₁.opened name super) :=
      hadv.openedNamed h hname hn hsettled
    have hstub := b₁.complex_opened name super
    refine (fills_fillComplex hload hopened.sound (isOpen_opened _ _ b₁) ?_ id definition).mono ?_
    · rw [hstub]
      rfl
    · intro r b₂ hf
      have hfilled := hf.advances hn hopened
      cases r with
      | ok t =>
        -- What is under the name now is the type, or the list that took its place.
        refine ⟨hadv.trans hfilled, ?_⟩
        rintro _ ⟨⟩
        have hl := hf.lookup_eq t rfl
        rwa [hstub] at hl
      | error failure =>
        refine ⟨?_, ok_of_error⟩
        exact hadv.trans ((hfilled.restored hadv.sound rfl).quiet rfl rfl)

/-! ## Loading -/

theorem primitiveFor_eq_ok_iff {t : TypeRef} :
    primitiveFor name = .ok t ↔ ∃ p, Primitive.ofBuiltin? name = some p ∧ t = .primitive p := by
  unfold primitiveFor
  cases Primitive.ofBuiltin? name with
  | none => exact ⟨nofun, nofun⟩
  | some p => simp [eq_comm]

/-- How a definition is bound: to what its name means already, or to a primitive, or to a type that
is made and comes into the scope. -/
theorem ends_loadStep {id : TypeId} {fieldName : String}
    {post : Except Failure TypeRef → Build → Prop}
    (hunnamed : ∀ failure, typeName setting.set (setting.set.type id) fieldName = .error failure →
      post (.error failure) b)
    (hfound : ∀ name found, typeName setting.set (setting.set.type id) fieldName = .ok name →
      b.scope.lookup? b.store setting.registry name = some found → post (.ok found) b)
    (hprimitive : ∀ name, typeName setting.set (setting.set.type id) fieldName = .ok name →
      b.scope.lookup? b.store setting.registry name = none →
      (setting.set.type id).namespaceUri = Xsd.schemaNamespace → post (primitiveFor name) b)
    (hmade : ∀ name, typeName setting.set (setting.set.type id) fieldName = .ok name →
      b.scope.lookup? b.store setting.registry name = none →
      (setting.set.type id).namespaceUri ≠ Xsd.schemaNamespace → Ends b (do
        let type ← buildType setting load id name
        BuildM.register type
        return type) post) :
    Ends b (loadStep setting load id fieldName) post := by
  unfold loadStep
  rw [ends_bind, ends_liftExcept]
  cases hname : typeName setting.set (setting.set.type id) fieldName with
  | error failure => exact hunnamed failure hname
  | ok name =>
    simp only [ends_bind, ends_lookup?]
    cases hl : b.scope.lookup? b.store setting.registry name with
    | some found => exact hfound name found hname hl
    | none =>
      dsimp only
      split
      · next hns => exact hprimitive name hname hl hns
      · next hns => exact hmade name hname hl hns

/-- A type that has been built comes into the scope, unless another one is there under its name. -/
theorem loads_register (h : setting.Sound b) (hname : NewName setting b name) {t : TypeRef}
    (hb : Builds setting name b (.ok t) b') :
    Ends b' (do
      BuildM.register t
      return t) fun r b'' => Advances setting none b b'' ∧
        ∀ t, r = .ok t → setting.Settled b'' t := by
  have hnameOf := hb.nameOf_eq t rfl
  cases hn : b'.scope.lookupLocal? name with
  | some other =>
    by_cases ho : other = t
    · subst ho
      rw [ends_bind, ends_register_of_self (hnameOf.symm ▸ hn)]
      refine ⟨hb.advances, ?_⟩
      rintro _ ⟨⟩
      exact hb.advances.sound.settled_of_lookupLocal? hn
    · rw [ends_bind, ends_register_of_other (hnameOf.symm ▸ hn) ho]
      exact ⟨hb.advances, ok_of_error⟩
  | none =>
    rw [ends_bind, ends_register_of_none (hnameOf.symm ▸ hn)]
    have hglobal := (hb.advances.lookupGlobal?_eq h name).trans
      (lookup?_eq_none_iff.mp hname.lookup_eq).1
    have hentered : Advances setting none b' (b'.replace t) := by
      refine ⟨grows_replace (hnameOf.symm ▸ hn), ?_⟩
      refine hb.advances.sound.enter (hb.has t rfl) (hb.schemaOf?_eq t rfl) ?_ ?_ ?_ ?_
      · exact hnameOf.symm ▸ lookup?_eq_none_iff.mpr ⟨hglobal, hn⟩
      · exact fun k hk => absurd (hnameOf.symm.trans hk) (hname.ne_item k)
      · exact hnameOf.symm ▸ hname.not_isList
      · exact fun u hu => hb.closed t u rfl hu
    refine ⟨hb.advances.trans hentered, ?_⟩
    rintro _ ⟨⟩
    apply hentered.sound.settled_of_lookupLocal? (n := name)
    exact (Scope.lookupLocal?_replace _ _ _ _).trans (if_pos hnameOf.symm)

theorem builds_buildType (hload : Loads setting load) (h : setting.Sound b) {id : TypeId}
    {fieldName : String} (hn : typeName setting.set (setting.set.type id) fieldName = .ok name)
    (hname : NewName setting b name) :
    Ends b (buildType setting load id name) (Builds setting name b) := by
  unfold buildType
  dsimp only
  split
  · exact (enters_buildComplex hload h hname id _).mono fun _ _ ⟨hadv, hl⟩ => .ofLocal hadv hl
  · split
    · apply builds_buildList h _ _
      intro n hdef
      exact Except.ok.inj ((typeName_of_name hdef).symm.trans hn)
    · exact builds_buildSimple hload h id name _
    · exact builds_buildSimple hload h id name _

/-- One type is bound with the invariant if those that it refers to are. -/
theorem loads_loadStep (hset : setting.set.PlainNames) (hload : Loads setting load) :
    Loads setting (loadStep setting load) := by
  intro b id fieldName h
  refine ends_loadStep (fun _ _ => ⟨.refl _ h, ok_of_error⟩) ?_ ?_ ?_
  · intro name found _ hl
    refine ⟨.refl _ h, ?_⟩
    rintro _ ⟨⟩
    exact h.settled_of_lookup? hl
  · intro name _ _ _
    refine ⟨.refl _ h, fun t ht => ?_⟩
    obtain ⟨p, -, rfl⟩ := primitiveFor_eq_ok_iff.mp ht
    exact .primitive p
  · intro name hn hl _
    -- No synthesized name of a group or of a list is the name of a definition.
    have hname : NewName setting b name :=
      ⟨hl, typeName_ne_anonymousListItem hset hn, typeName_not_isList hset hn⟩
    rw [ends_bind]
    apply (builds_buildType hload h hn hname).mono
    rintro (failure | t) b₁ hb
    · exact ⟨hb.advances, ok_of_error⟩
    · exact loads_register h hname hb

/-- By induction on the depth that is left. -/
theorem loads_loadWithin (hset : setting.set.PlainNames) (depth : Nat) :
    Loads setting (loadWithin setting depth) := by
  induction depth with
  | zero => exact fun b id fieldName h => ⟨.refl _ h, ok_of_error⟩
  | succ depth ih => exact loads_loadStep hset ih

theorem loads_load (hset : setting.set.PlainNames) : Loads setting (Binding.load setting) :=
  loads_loadWithin hset _

end SchemaBinding.Binding
