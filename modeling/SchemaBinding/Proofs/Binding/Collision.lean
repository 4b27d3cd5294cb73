import SchemaBinding.Proofs.Binding.Reached
import SchemaBinding.Proofs.Repository.Publication

/-!
# Collisions of types

A type is bound only if its name means nothing, so a collision can come about only if the name is
bound while the type is being built. The types that a complex type refers to in its content find the
type itself, which is in the scope by then. But its super type is bound before, and may have content
that refers back to the type: then a second type of the name is built, and the first one cannot come
into the scope any more. The same is so for the base of a simple type. What is in groups and
attributes does not hand its collisions on; only the sole repeated element of a complex type does,
for which the type becomes a list.

## Main definitions

* `Reenters`: a type whose name is bound again before it comes into the scope

## Main results

* `neverCollides_addAttributes`, `ends_makeContent_collision`, `ends_buildComplex_collision`,
  `ends_buildSimple_collision`: where collisions come from
* `resultOf_load_collision_iff`: when binding a type ends in a collision
* `not_forall_resultOf_load_collision`: two types that refer to each other and collide
-/

namespace SchemaBinding.Binding

open Repository (ComplexId Reachable Store TypeRef)
open Xsd (AttributeUse Occurs Particle SchemaSet TypeId)

/-- The build when the base of a simple type has been bound. -/
def afterBase (setting : Setting) (depth : Nat) (id : TypeId) (name : String) (b : Build) : Build :=
  b.after (simpleSuper setting.set (loadWithin setting depth) id name)

/-- Binding a type ends with the name `collision` bound twice. -/
inductive Reenters (setting : Setting) : Nat → TypeId → String → Build → String → Prop
  /-- The super type of a complex type has bound the name of the type. -/
  | super {depth : Nat} {id : TypeId} {fieldName name : String} {b : Build}
      {definition : Xsd.ComplexType} : Fresh setting id fieldName b name →
      (setting.set.type id).kind = .complex definition →
      (afterSuper setting depth id name b).scope.lookupLocal? name ≠ none →
      Reenters setting (depth + 1) id fieldName b name
  /-- The base of a simple type has bound the name of the type, which could be built else. -/
  | base {depth : Nat} {id : TypeId} {fieldName name : String} {b : Build}
      {definition : Xsd.SimpleType} : Fresh setting id fieldName b name →
      (setting.set.type id).kind = .simple definition →
      (∀ item, definition.variety ≠ .list item) →
      (definition.variety = .atomic → ∃ restrictions,
        constraints definition.facets = .ok restrictions) →
      (afterBase setting depth id name b).scope.lookupLocal? name ≠ none →
      Reenters setting (depth + 1) id fieldName b name
  /-- The type of the one element that a complex type is a list of has had its name bound twice. -/
  | item {depth : Nat} {id : TypeId} {fieldName name collision : String} {b : Build}
      {definition : Xsd.ComplexType} {target : ComplexId} {bounds occurs : Occurs}
      {compositor : Xsd.Compositor} {children : List Particle} {e : Xsd.ElementId} :
      Fresh setting id fieldName b name →
      (setting.set.type id).kind = .complex definition →
      b.resultOf (openNamed setting depth id name) = .ok target →
      ((b.after (openNamed setting depth id name)).store.complex target).super = none →
      definition.explicitContent.getD definition.content =
        .particle (.group bounds compositor children) →
      soleRepeated? children = some (occurs, e) →
      Reenters setting depth (setting.set.element e).type (setting.set.element e).name
        (b.after (openNamed setting depth id name)) collision →
      Reenters setting (depth + 1) id fieldName b collision

section Steps

variable {setting : Setting} {load : Loader} {b : Build} {target : ComplexId}

/-- Whether a step ends in a collision. -/
def Collides {α : Type} (r : Except Failure α) (collision : String) : Prop :=
  r = .error (.typeCollision collision)

theorem collides_ok {α : Type} {a : α} {collision : String} :
    ¬ Collides (.ok a : Except Failure α) collision :=
  nofun

@[simp] theorem collides_ok_iff {α : Type} {a : α} {collision : String} :
    Collides (.ok a) collision ↔ False :=
  iff_of_false collides_ok id

@[simp] theorem collides_error_iff {α : Type} {failure : Failure} {collision : String} :
    Collides (.error failure : Except Failure α) collision ↔ failure = .typeCollision collision :=
  ⟨Except.error.inj, congrArg Except.error⟩

/-- A step that never ends in a collision. -/
def NeverCollides {α : Type} (b : Build) (step : BuildM α) : Prop :=
  Ends b step fun r _ => ∀ collision, ¬ Collides r collision

/-- A collision in the type of an attribute is a failure of the attribute. -/
theorem neverCollides_addAttributes (load : Loader) (schemas : SchemaSet)
    (uses : List AttributeUse) :
    NeverCollides b (addAttributes schemas load target uses) := by
  induction uses generalizing b with
  | nil => exact fun _ => collides_ok
  | cons use uses ih =>
    unfold NeverCollides addAttributes
    simp only [ends_bind, ends_attempt]
    show Ends b (load _ _) _
    rw [ends_iff]
    cases b.resultOf (load (schemas.attr use.declaration).type
      (schemas.attr use.declaration).name) with
    | error failure => rintro _ ⟨⟩
    | ok t => exact ih

theorem neverCollides_makeAttributes (load : Loader) (id : TypeId)
    (definition : Xsd.ComplexType) (type : TypeRef) :
    NeverCollides b (makeAttributes setting load id definition target type) := by
  unfold NeverCollides makeAttributes
  rw [ends_bind, ends_get]
  dsimp only
  split
  · split
    · exact fun _ => nofun
    · exact fun _ => nofun
  · exact neverCollides_addAttributes load _ _

/-- Making the content of a type ends in a collision just if the type is to become a list, and the
type of the one element does. -/
theorem ends_makeContent_collision (definition : Xsd.ComplexType) (collision : String) :
    Ends b (makeContent setting load definition target) fun r _ =>
      Collides r collision ↔ ∃ bounds compositor children occurs e,
        definition.explicitContent.getD definition.content =
          .particle (.group bounds compositor children) ∧
        (b.store.complex target).super = none ∧ soleRepeated? children = some (occurs, e) ∧
        Collides (b.resultOf (load (setting.set.element e).type (setting.set.element e).name))
          collision := by
  unfold makeContent
  split
  · next hcontent => simp [hcontent]
  · next hcontent => simp [hcontent]
  · next bounds compositor children hcontent =>
    unfold addContent
    rw [ends_bind, ends_get]
    dsimp only
    split
    · next occurs e hsuper hsole =>
      unfold promote
      rw [ends_bind, ends_iff]
      cases hr : b.resultOf (load (setting.set.element e).type (setting.set.element e).name) with
      | error failure => simp [hcontent, hsuper, hsole, hr]
      | ok t => exact iff_of_false collides_ok (by simp [hcontent, hsuper, hsole, hr])
    · next hplain =>
      -- Whatever goes wrong with particles, they are left out.
      apply iff_of_false collides_ok
      rintro ⟨_, _, _, _, _, heq, hsuper, hsole, -⟩
      rw [hcontent] at heq
      cases heq
      exact hplain _ _ hsuper hsole
  · next hgroup hcontent =>
    refine iff_of_false (fun hc => ?_) ?_
    · cases hc
    · rintro ⟨_, _, _, _, _, heq, -⟩
      rw [hcontent] at heq
      cases heq
      exact hgroup _ _ _ rfl

/-- Attributes do not matter to it. -/
theorem ends_fillComplex_collision (id : TypeId) (definition : Xsd.ComplexType)
    (collision : String) :
    Ends b (fillComplex setting load id definition target) fun r _ =>
      Collides r collision ↔ Collides (b.resultOf (makeContent setting load definition target))
        collision := by
  unfold fillComplex
  rw [ends_bind, ends_iff]
  cases b.resultOf (makeContent setting load definition target) with
  | error failure => simp
  | ok type =>
    dsimp only
    rw [ends_bind]
    apply (neverCollides_makeAttributes load id definition type).mono
    rintro (failure | _) b₁ h
    · simpa using h collision
    · simp

end Steps

/-! ## Building a type -/

section Build

variable {setting : Setting} {depth : Nat} {b : Build} {id : TypeId} {fieldName name : String}

/-- Building a complex type ends in a collision just if its super type has bound its name, or making
its content does. -/
theorem ends_buildComplex_collision (hset : setting.set.PlainNames) (h : setting.Sound b)
    (definition : Xsd.ComplexType) (collision : String) :
    Ends b (buildComplex setting (loadWithin setting depth) id name definition) fun r _ =>
      Collides r collision ↔
        (collision = name ∧ (afterSuper setting depth id name b).scope.lookupLocal? name ≠ none) ∨
        ∃ target, b.resultOf (openNamed setting depth id name) = .ok target ∧
          Collides ((b.after (openNamed setting depth id name)).resultOf
            (makeContent setting (loadWithin setting depth) definition target)) collision := by
  refine ends_buildComplex_afterSuper hset h ?_ ?_
  · -- The type cannot be opened, and that is the only collision.
    intro super _ hn
    obtain ⟨other, hother⟩ := Option.ne_none_iff_exists'.mp hn
    constructor
    · intro hc
      obtain rfl : name = collision := by simpa using hc
      exact .inl ⟨rfl, hn⟩
    · rintro (⟨rfl, -⟩ | ⟨target, htarget, -⟩)
      · rfl
      · rw [openNamed_of_some hset h hother] at htarget
        cases htarget
  · -- The type is opened, and all depends on its content.
    intro super hsuper _ _ hn
    obtain ⟨hresult, hafter⟩ := openNamed_of_none hsuper hn
    rw [hresult, hafter, hn]
    apply (ends_fillComplex_collision id definition collision).mono
    intro r b₁ hr
    have hcases : Collides r collision ↔
        (collision = name ∧ (none : Option TypeRef) ≠ none) ∨ ∃ target,
          (.ok ((afterSuper setting depth id name b).nextComplex name super) :
            Except Failure ComplexId) = .ok target ∧
          Collides (((afterSuper setting depth id name b).opened name super).resultOf
            (makeContent setting (loadWithin setting depth) definition target)) collision := by
      rw [hr]
      constructor
      · exact fun hc => .inr ⟨_, rfl, hc⟩
      · rintro (⟨-, hne⟩ | ⟨target, htarget, hc⟩)
        · exact absurd rfl hne
        · cases htarget
          exact hc
    cases r with
    | ok t => exact hcases
    | error failure => exact hcases

/-- A facet without meaning is no collision. -/
theorem constraints_ne_collision {facets : Xsd.FacetSet} {collision : String} :
    constraints facets ≠ .error (.typeCollision collision) := by
  unfold constraints stringLength
  split
  · nofun
  · split <;> nofun

/-- Building a simple type and putting it into the scope ends in a collision just if its base has
bound its name, and it can be built else. -/
theorem ends_buildSimple_collision (hset : setting.set.PlainNames) (h : setting.Sound b)
    (definition : Xsd.SimpleType) (collision : String) :
    Ends b (do
      let type ← buildSimple setting.set (loadWithin setting depth) id name definition
      BuildM.register type
      return type) fun r _ =>
      Collides r collision ↔ collision = name ∧
        (definition.variety = .atomic → ∃ restrictions,
          constraints definition.facets = .ok restrictions) ∧
        (afterBase setting depth id name b).scope.lookupLocal? name ≠ none := by
  obtain ⟨hadv, super, hsuper, -⟩ :=
    succeeds_simpleSuper (loads_loadWithin hset depth) h setting.set id name
  have hsuper : b.resultOf (simpleSuper setting.set (loadWithin setting depth) id name) =
    .ok super := hsuper
  have hsound : setting.Sound (afterBase setting depth id name b) := hadv.sound
  have hregister : ∀ restrictions, Ends (afterBase setting depth id name b) (do
      let type ← BuildM.addSimple
        { name, schema := ← BuildM.schemaName, super, constraints := restrictions }
      BuildM.register type
      return type) fun r _ => Collides r collision ↔ collision = name ∧
        (afterBase setting depth id name b).scope.lookupLocal? name ≠ none := by
    intro restrictions
    simp only [ends_bind, ends_schemaName, ends_addSimple]
    let t : Repository.SimpleType :=
      ⟨name, (afterBase setting depth id name b).scope.schemaName, super, restrictions⟩
    have hname : ((afterBase setting depth id name b).store.addSimple t).2.nameOf
        (.simple ((afterBase setting depth id name b).store.addSimple t).1) = name :=
      congrArg Repository.SimpleType.name (Store.simple_addSimple _ _)
    cases hn : (afterBase setting depth id name b).scope.lookupLocal? name with
    | none =>
      apply (ends_register_of_none (hname.symm ▸ hn)).mpr
      exact iff_of_false collides_ok fun hc => hc.2 rfl
    | some other =>
      have hne : other ≠ .simple ((afterBase setting depth id name b).store.addSimple t).1 := by
        rintro rfl
        exact Store.not_has_addSimple t (hsound.has _ _ hn)
      apply (ends_register_of_other (hname.symm ▸ hn) hne).mpr
      rw [hname]
      simp [eq_comm]
  unfold buildSimple
  rw [ends_bind, ends_bind, ends_iff, hsuper]
  show Ends (afterBase setting depth id name b) _ _
  dsimp only
  split
  · next hvariety =>
    rw [ends_bind, ends_liftExcept]
    cases hc : constraints definition.facets with
    | error failure =>
      refine iff_of_false (fun hcoll => ?_) ?_
      · obtain rfl := collides_error_iff.mp hcoll
        exact constraints_ne_collision hc
      · rintro ⟨-, hallowed, -⟩
        obtain ⟨restrictions, hr⟩ := hallowed hvariety
        cases hr
    | ok restrictions =>
      refine (hregister restrictions).mono fun r _ hr => hr.trans ?_
      constructor
      · rintro ⟨hname, hn⟩
        exact ⟨hname, fun _ => ⟨restrictions, rfl⟩, hn⟩
      · rintro ⟨hname, -, hn⟩
        exact ⟨hname, hn⟩
  · next hvariety =>
    refine (hregister []).mono fun r _ hr => hr.trans ?_
    constructor
    · rintro ⟨hname, hn⟩
      exact ⟨hname, fun hv => absurd hv hvariety, hn⟩
    · rintro ⟨hname, -, hn⟩
      exact ⟨hname, hn⟩

/-- Building a list binds nothing else. -/
theorem scope_eq_buildList (definition : Xsd.TypeDefinition) (item : TypeId) :
    Ends b (buildList setting definition item) fun r b' =>
      b'.scope = b.scope ∧ ∀ collision, ¬ Collides r collision := by
  refine ends_buildList ⟨rfl, ?_⟩ (fun n => ⟨rfl, ?_⟩) fun n type _ _ => ⟨rfl, ?_⟩
  · rintro collision ⟨⟩
  · rintro collision ⟨⟩
  · rintro collision ⟨⟩

/-- Building a list and putting it into the scope never ends in a collision. -/
theorem neverCollides_buildList (h : setting.Sound b)
    (hn : b.scope.lookupLocal? name = none) {definition : Xsd.TypeDefinition}
    (hname : ∀ n, definition.name = some n → n = name) (item : TypeId) :
    NeverCollides b (do
      let type ← buildList setting definition item
      BuildM.register type
      return type) := by
  unfold NeverCollides
  rw [ends_bind]
  refine ((builds_buildList h definition item hname).and
    (scope_eq_buildList definition item)).mono ?_
  rintro (failure | type) b₁ ⟨hb, hscope, hnever⟩
  · exact fun collision hc => hnever collision hc
  · -- The scope is as it was, and the name means nothing in it.
    have hn' : b₁.scope.lookupLocal? (b₁.store.nameOf type) = none := by
      rw [hb.nameOf_eq type rfl, hscope]
      exact hn
    show Ends b₁ (BuildM.register type >>= fun _ => pure type) _
    rw [ends_bind, ends_register_of_none hn']
    exact fun _ => nofun

/-- Building a complex type and putting it into the scope ends in a collision just if building it
does: it is in the scope already. -/
theorem ends_buildComplex_register (hset : setting.set.PlainNames) (h : setting.Sound b)
    (hname : NewName setting b name) (definition : Xsd.ComplexType) {collision : String} {Q : Prop}
    (hQ : Ends b (buildComplex setting (loadWithin setting depth) id name definition) fun r _ =>
      Collides r collision ↔ Q) :
    Ends b (do
      let type ← buildComplex setting (loadWithin setting depth) id name definition
      BuildM.register type
      return type) fun r _ => Collides r collision ↔ Q := by
  rw [ends_bind]
  apply ((enters_buildComplex (loads_loadWithin hset depth) h hname id definition).and hQ).mono
  rintro (failure | type) b₁ ⟨⟨hadv, hl⟩, hr⟩
  · exact hr
  · have hself : b₁.scope.lookupLocal? (b₁.store.nameOf type) = some type := by
      rw [hadv.sound.nameOf_eq _ _ (hl type rfl)]
      exact hl type rfl
    show Ends b₁ (BuildM.register type >>= fun _ => pure type) _
    rw [ends_bind, ends_register_of_self hself]
    exact hr

end Build

/-! ## Binding a type -/

section Load

variable {setting : Setting} {depth : Nat} {b : Build} {id : TypeId}
  {fieldName name collision : String}

/-- A type is to be built whenever binding it ends in a collision. -/
theorem Reenters.fresh (h : Reenters setting depth id fieldName b collision) :
    ∃ name, Fresh setting id fieldName b name := by
  cases h with
  | super hf _ _ => exact ⟨_, hf⟩
  | base hf _ _ _ _ => exact ⟨_, hf⟩
  | item hf _ _ _ _ _ _ => exact ⟨_, hf⟩

/-- For a complex type, its name is bound with its super type, or twice for its one element. -/
theorem reenters_complex_iff (hset : setting.set.PlainNames)
    (ih : ∀ b id fieldName collision, setting.Sound b →
      (Collides (b.resultOf (loadWithin setting depth id fieldName)) collision ↔
        Reenters setting depth id fieldName b collision))
    (h : setting.Sound b) (hf : Fresh setting id fieldName b name)
    {definition : Xsd.ComplexType} (hkind : (setting.set.type id).kind = .complex definition) :
    Reenters setting (depth + 1) id fieldName b collision ↔
      (collision = name ∧ (afterSuper setting depth id name b).scope.lookupLocal? name ≠ none) ∨
      ∃ target, b.resultOf (openNamed setting depth id name) = .ok target ∧
        Collides ((b.after (openNamed setting depth id name)).resultOf
          (makeContent setting (loadWithin setting depth) definition target)) collision := by
  have hopened : setting.Sound (b.after (openNamed setting depth id name)) :=
    Advances.sound (ends_openNamed hset h depth (hf.newName hset))
  have hcontent : ∀ target, Collides ((b.after (openNamed setting depth id name)).resultOf
      (makeContent setting (loadWithin setting depth) definition target)) collision ↔ _ :=
    fun target => ends_makeContent_collision definition collision
  constructor
  · intro hr
    cases hr with
    | super hf' _ hn => exact .inl ⟨(hf.name_eq hf').symm, hf.name_eq hf' ▸ hn⟩
    | base _ hkind' _ _ _ =>
      rw [hkind] at hkind'
      cases hkind'
    | item hf' hkind' htarget hsuper hgroup hsole hr =>
      -- Both are about the same definition, under the same name.
      obtain rfl := hf.name_eq hf'
      rw [hkind] at hkind'
      cases hkind'
      refine .inr ⟨_, htarget, (hcontent _).mpr ?_⟩
      exact ⟨_, _, _, _, _, hgroup, hsuper, hsole, (ih _ _ _ _ hopened).mpr hr⟩
  · rintro (⟨rfl, hn⟩ | ⟨target, htarget, hc⟩)
    · exact .super hf hkind hn
    · obtain ⟨_, _, _, _, _, hgroup, hsuper, hsole, hc⟩ := (hcontent target).mp hc
      exact .item hf hkind htarget hsuper hgroup hsole ((ih _ _ _ _ hopened).mp hc)

/-- For a simple type that is no list, its name is bound with its base. -/
theorem reenters_simple_iff (hf : Fresh setting id fieldName b name)
    {definition : Xsd.SimpleType} (hkind : (setting.set.type id).kind = .simple definition) :
    Reenters setting (depth + 1) id fieldName b collision ↔
      (∀ item, definition.variety ≠ .list item) ∧ collision = name ∧
      (definition.variety = .atomic → ∃ restrictions,
        constraints definition.facets = .ok restrictions) ∧
      (afterBase setting depth id name b).scope.lookupLocal? name ≠ none := by
  constructor
  · intro hr
    cases hr with
    | super _ hkind' _ =>
      rw [hkind] at hkind'
      cases hkind'
    | base hf' hkind' hvariety hallowed hn =>
      obtain rfl := hf.name_eq hf'
      rw [hkind] at hkind'
      cases hkind'
      exact ⟨hvariety, rfl, hallowed, hn⟩
    | item _ hkind' _ _ _ _ _ =>
      rw [hkind] at hkind'
      cases hkind'
  · rintro ⟨hvariety, rfl, hallowed, hn⟩
    exact .base hf hkind hvariety hallowed hn

/-- The names of types are no collisions. -/
theorem typeName_ne_collision {schemas : SchemaSet} {definition : Xsd.TypeDefinition} :
    typeName schemas definition fieldName ≠ .error (.typeCollision collision) := by
  unfold typeName
  split
  · nofun
  · split <;> nofun
  · split <;> nofun

theorem primitiveFor_ne_collision : primitiveFor name ≠ .error (.typeCollision collision) := by
  unfold primitiveFor
  split <;> nofun

/-- Building a type and putting it into the scope, if the types that it refers to are bound with
collisions where they should. -/
theorem ends_buildType_collision (hset : setting.set.PlainNames)
    (ih : ∀ b id fieldName collision, setting.Sound b →
      (Collides (b.resultOf (loadWithin setting depth id fieldName)) collision ↔
        Reenters setting depth id fieldName b collision))
    (h : setting.Sound b) (hf : Fresh setting id fieldName b name) :
    Ends b (do
      let type ← buildType setting (loadWithin setting depth) id name
      BuildM.register type
      return type) fun r _ =>
      Collides r collision ↔ Reenters setting (depth + 1) id fieldName b collision := by
  unfold buildType
  dsimp only
  split
  · next definition hkind =>
    apply ends_buildComplex_register hset h (hf.newName hset) definition
    apply (ends_buildComplex_collision hset h definition collision).mono
    intro r _ hr
    exact hr.trans (reenters_complex_iff hset ih h hf hkind).symm
  · next definition hkind =>
    have hsimple : ∀ {variety : Xsd.Variety}, definition.variety = variety →
        (∀ item, variety ≠ .list item) → Ends b (do
          let type ← buildSimple setting.set (loadWithin setting depth) id name definition
          BuildM.register type
          return type) fun r _ =>
          Collides r collision ↔ Reenters setting (depth + 1) id fieldName b collision := by
      intro variety hvariety hlist
      apply (ends_buildSimple_collision hset h definition collision).mono
      intro r _ hr
      rw [hr, reenters_simple_iff hf hkind, hvariety]
      exact (and_iff_right hlist).symm
    split
    · next item hvariety =>
      have hlocal := (lookup?_eq_none_iff.mp hf.lookup_eq).2
      have hname : ∀ n, (setting.set.type id).name = some n → n = name :=
        fun n hdef => Except.ok.inj ((typeName_of_name hdef).symm.trans hf.typeName_eq)
      apply (neverCollides_buildList h hlocal hname item).mono
      intro r _ hr
      apply iff_of_false (hr collision)
      intro hr'
      exact ((reenters_simple_iff hf hkind).mp hr').1 item hvariety
    · next hvariety => exact hsimple hvariety nofun
    · next members hvariety => exact hsimple hvariety nofun

/-- One step of binding. -/
theorem ends_loadStep_collision (hset : setting.set.PlainNames)
    (ih : ∀ b id fieldName collision, setting.Sound b →
      (Collides (b.resultOf (loadWithin setting depth id fieldName)) collision ↔
        Reenters setting depth id fieldName b collision))
    (h : setting.Sound b) :
    Ends b (loadStep setting (loadWithin setting depth) id fieldName) fun r _ =>
      Collides r collision ↔ Reenters setting (depth + 1) id fieldName b collision := by
  refine ends_loadStep ?_ ?_ ?_ ?_
  · intro failure hn
    refine iff_of_false (fun hc => ?_) fun hr => ?_
    · obtain rfl := collides_error_iff.mp hc
      exact typeName_ne_collision hn
    · obtain ⟨name, hf⟩ := hr.fresh
      rw [hf.typeName_eq] at hn
      cases hn
  · intro name found hn hl
    apply iff_of_false collides_ok
    intro hr
    obtain ⟨name', hf⟩ := hr.fresh
    obtain rfl : name = name' := Except.ok.inj (hn.symm.trans hf.typeName_eq)
    rw [hf.lookup_eq] at hl
    cases hl
  · intro name _ _ hns
    apply iff_of_false (fun hc => primitiveFor_ne_collision hc)
    intro hr
    obtain ⟨name', hf⟩ := hr.fresh
    exact hf.not_builtin hns
  · exact fun name hn hl hns => ends_buildType_collision hset ih h ⟨hn, hl, hns⟩

/-- By induction on the depth that is left. -/
theorem resultOf_loadWithin_collision_iff (hset : setting.set.PlainNames) (h : setting.Sound b) :
    Collides (b.resultOf (loadWithin setting depth id fieldName)) collision ↔
      Reenters setting depth id fieldName b collision := by
  induction depth generalizing b id fieldName collision with
  | zero => exact iff_of_false nofun nofun
  | succ depth ih => exact ends_loadStep_collision hset (fun _ _ _ _ hb => ih hb) h

end Load

/-- **When binding a type ends in a collision.** Whatever has been compiled before, and whatever has
been built of the schema, this is so just if the name of the type, of the definition itself or of
the sole repeated element that it consists of, is bound with its base before the type comes into the
scope. -/
theorem resultOf_load_collision_iff {r : Repository} (hr : Reachable r) {set : SchemaSet}
    (hset : set.Accepted) (request : Request) (log : Log) {b : Build}
    (hb : Reached ⟨set, r.registry⟩ (.start r.store request.name log) b) (depth : Nat)
    (id : TypeId) (fieldName collision : String) :
    b.resultOf (loadWithin ⟨set, r.registry⟩ depth id fieldName) =
        .error (.typeCollision collision) ↔
      Reenters ⟨set, r.registry⟩ depth id fieldName b collision :=
  resultOf_loadWithin_collision_iff hset.plainNames
    (hb.sound hset.plainNames (sound_start hr.consistent.fits request.name log))

/-! ## Two types that collide -/

/-- A schema with a type whose base has an element of the type. -/
def loopText : String :=
  "<schema xmlns=\"http://www.w3.org/2001/XMLSchema\" xmlns:t=\"t\" targetNamespace=\"t\">" ++
  "<complexType name=\"B\"><sequence><element name=\"n\" type=\"t:D\"/></sequence>" ++
  "</complexType><complexType name=\"D\"><complexContent><extension base=\"t:B\"/>" ++
  "</complexContent></complexType><element name=\"a\" type=\"t:D\"/></schema>"

/-- The set of that schema, as the first one that is compiled. -/
def loopSetting : Setting := ⟨.ofText loopText, .empty⟩

section Loop

set_option maxRecDepth 100000

/-- The schema is accepted. All types but the built-in ones are in one namespace; the derived type
cannot be bound. -/
theorem loop_facts :
    (SchemaSet.readText loopText).isOk = true ∧
    (∀ t ∈ loopSetting.set.types, t.namespaceUri = Xsd.schemaNamespace ∨ t.namespaceUri = "t") ∧
    (loopSetting.set.type ⟨47⟩).name = some "D" ∧
    (loopSetting.set.type ⟨47⟩).isComplex = true ∧
    (Build.start .empty "s" #[]).resultOf (load loopSetting ⟨47⟩ "a") =
      .error (.typeCollision "D") := by
  decide +kernel

theorem accepted_loop : (SchemaSet.ofText loopText).Accepted :=
  SchemaSet.accepted_ofText loop_facts.1

/-- The name of the derived type is bound with its base. -/
theorem reenters_loop :
    Reenters loopSetting (depthOf loopSetting.set) ⟨47⟩ "a" (.start .empty "s" #[]) "D" :=
  (resultOf_load_collision_iff .empty accepted_loop ⟨"s", "p", false⟩ #[] .start _ ⟨47⟩ "a"
    "D").mp loop_facts.2.2.2.2

/-- Binding a complex type can end in a collision though all types are in one namespace and no
schema has been compiled before. -/
theorem not_forall_resultOf_load_collision :
    ¬ ∀ set, SchemaSet.Accepted set → ∀ namespaceUri,
      (∀ t ∈ set.types, t.namespaceUri = Xsd.schemaNamespace ∨ t.namespaceUri = namespaceUri) →
      ∀ r : Repository, r.registry.Vacant → ∀ (request : Request) log b,
      Reached ⟨set, r.registry⟩ (.start r.store request.name log) b →
      ∀ id n, (set.type id).name = some n → (set.type id).isComplex = true →
      ∀ fieldName collision,
        b.resultOf (load ⟨set, r.registry⟩ id fieldName) ≠ .error (.typeCollision collision) := by
  intro h
  obtain ⟨-, hns, hname, hcomplex, hcollision⟩ := loop_facts
  exact h _ accepted_loop "t" hns .empty ⟨rfl, rfl⟩ ⟨"s", "p", false⟩ #[] _ .start ⟨47⟩ "D" hname
    hcomplex "a" "D" hcollision

end Loop

end SchemaBinding.Binding
