import SchemaBinding.Proofs.Binding.Mentions
import SchemaBinding.Proofs.Binding.Reached

/-!
# Where types are bound

Binding a definition binds its base at once, and what it mentions while its content is made. A
loader cannot be told from another one that does the same there: whatever a definition is made of,
it is bound alike with both. By induction on the particles of content. While a schema is built, its
global declarations are bound one after the other in states that are reached.

## Main definitions

* `Alike`, `Agrees`: two steps that do the same when they are run from a build
* `Course`: what holds at all moments at which a part of content is made

## Main results

* `alike_addParticles`, `agrees_makeContent`, `agrees_addAttributes`: content and attributes
* `agrees_loadStep`: binding a type definition
* `Reached.globalFields`: where global declarations are bound
-/

namespace SchemaBinding.Binding

open Repository (ComplexId TypeRef)
open Xsd (AttributeUse Occurs Particle SchemaSet TypeId)
open Xsd.Particle (Contains)

section Steps

variable {α β : Type} {b : Build}

/-- Two steps that cannot fail do the same when they are run from a build. -/
def Alike (b : Build) (step step' : StepM α) : Prop := step.run b = step'.run b

/-- Two steps do the same when they are run from a build. -/
def Agrees (b : Build) (step step' : BuildM α) : Prop := Alike b step.run step'.run

theorem Alike.bind {x x' : StepM α} {f f' : α → StepM β} (hx : Alike b x x')
    (hf : Alike (b.afterStep x) (f (x.run b).1) (f' (x.run b).1)) :
    Alike b (x >>= f) (x' >>= f') := by
  show (f (x.run b).1).run (x.run b).2 = (f' (x'.run b).1).run (x'.run b).2
  rw [← hx]
  exact hf

theorem Agrees.bind {x x' : BuildM α} {f f' : α → BuildM β} (hx : Agrees b x x')
    (hf : ∀ a, b.resultOf x = .ok a → Agrees (b.after x) (f a) (f' a)) :
    Agrees b (x >>= f) (x' >>= f') := by
  unfold Agrees
  rw [ExceptT.run_bind, ExceptT.run_bind]
  apply Alike.bind hx
  cases hr : (x.run.run b).1 with
  | error failure => rfl
  | ok a => exact hf a hr

/-- What is done with a result does not tell the steps apart that have given it. -/
theorem Agrees.andThen {x x' : BuildM α} (hx : Agrees b x x') (f : α → BuildM β) :
    Agrees b (x >>= f) (x' >>= f) :=
  hx.bind fun _ _ => rfl

/-- Different steps may follow the same one. -/
theorem Agrees.after {x : BuildM α} {f f' : α → BuildM β}
    (hf : ∀ a, b.resultOf x = .ok a → Agrees (b.after x) (f a) (f' a)) :
    Agrees b (x >>= f) (x >>= f') :=
  Agrees.bind rfl hf

theorem Agrees.get {f f' : Build → BuildM β} (h : Agrees b (f b) (f' b)) :
    Agrees b (get >>= f) (get >>= f') :=
  h

theorem Agrees.schemaName {f f' : String → BuildM β}
    (h : Agrees b (f b.scope.schemaName) (f' b.scope.schemaName)) :
    Agrees b (BuildM.schemaName >>= f) (BuildM.schemaName >>= f') :=
  h

theorem Agrees.mark {f f' : Nat → BuildM β} (h : Agrees b (f b.scope.size) (f' b.scope.size)) :
    Agrees b (BuildM.mark >>= f) (BuildM.mark >>= f') :=
  h

theorem Agrees.liftState {x x' : StepM α} (hx : Alike b x x') :
    Agrees b (liftM x) (liftM x') := by
  show Alike b (x >>= fun a => (pure (Except.ok a) : StepM (Except Failure α)))
    (x' >>= fun a => pure (Except.ok a))
  exact hx.bind rfl

/-- Builds that agree fail alike, so they may be attempted. -/
theorem Agrees.attempt {x x' : BuildM α} (hx : Agrees b x x') :
    Agrees b (BuildM.attempt x) (BuildM.attempt x') :=
  Agrees.liftState hx

end Steps

/-- What holds of a build and of the complex type whose content is made in it, when items of a group
are opened or a part of the content has been made with a loader. -/
structure Course (setting : Setting) (load : Loader) (At : Build → ComplexId → Prop) : Prop where
  item : ∀ {b target item}, At b target → b.resultOf (openItem target) = .ok item →
    At (b.after (openItem target)) item
  particle : ∀ {b target} (p : Particle), At b target →
    At (b.afterStep (addParticle setting load target p)) target
  use : ∀ {b target} (use : AttributeUse), At b target →
    At (b.after (addAttributes setting.set load target [use])) target

/-- Two loaders bind a definition alike whenever a part of content is made. -/
def AlikeAt (At : Build → ComplexId → Prop) (load load' : Loader) (id : TypeId)
    (fieldName : String) : Prop :=
  ∀ {b target}, At b target → Agrees b (load id fieldName) (load' id fieldName)

variable {setting : Setting} {load load' : Loader} {At : Build → ComplexId → Prop} {b : Build}
  {target : ComplexId}

/-! ## Content -/

theorem after_openItem :
    b.after (openItem target) = b.after (BuildM.openComplex
      (Naming.anonymousListItem (b.store.complex target).name) (b.store.complex target).super) := by
  unfold openItem
  rw [after_get]

theorem resultOf_openItem :
    b.resultOf (openItem target) = b.resultOf (BuildM.openComplex
      (Naming.anonymousListItem (b.store.complex target).name) (b.store.complex target).super) := by
  unfold openItem
  rw [resultOf_get]

/-- What holds when content begins holds after any of its particles. -/
theorem Course.particles (hm : Course setting load At) (h : At b target) (ps : List Particle) :
    At (b.afterStep (addParticles setting load target ps)) target := by
  induction ps generalizing b with
  | nil =>
    unfold addParticles
    exact h
  | cons p ps ih =>
    unfold addParticles
    exact ih (hm.particle p h)

/-- Repeated groups are made into lists alike, if their items are filled alike. -/
theorem agrees_groupEntry (hm : Course setting load At) (h : At b target) (occurs : Occurs)
    {fill fill' : ComplexId → BuildM TypeRef}
    (hfill : ∀ b item, At b item → Agrees b (fill item) (fill' item)) :
    Agrees b (groupEntry target occurs fill) (groupEntry target occurs fill') := by
  unfold groupEntry
  apply Agrees.get
  apply Agrees.schemaName
  apply Agrees.mark
  apply Agrees.after
  intro item hitem
  have hopened := hm.item h (resultOf_openItem.trans hitem)
  rw [after_openItem] at hopened
  exact (hfill _ item hopened).attempt.andThen _

/-- Fields are added alike, or left out alike. -/
theorem alike_addFieldOrSkip {field field' : BuildM Repository.Field} (name : String)
    (h : Agrees b field field') :
    Alike b (addFieldOrSkip target name field) (addFieldOrSkip target name field') :=
  Alike.bind h rfl

/-- Content is made alike of particles whose fields are added alike. -/
theorem agrees_addContent {children : List Particle}
    (hload : ∀ e, Contains children e →
      AlikeAt At load load' (setting.set.element e).type (setting.set.element e).name)
    (hps : ∀ b target, At b target →
      Alike b (addParticles setting load target children)
        (addParticles setting load' target children))
    (h : At b target) :
    Agrees b (addContent setting load target children)
      (addContent setting load' target children) := by
  unfold addContent
  apply Agrees.get
  split
  · next hsole => exact (hload _ (contains_of_soleRepeated? hsole) h).andThen _
  · exact (Agrees.liftState (hps b target h)).andThen _

mutual

/-- A particle is added alike if the types of the elements in it are bound alike, by recursion on
the particle. -/
theorem alike_addParticle {b : Build} {target : ComplexId} (hm : Course setting load At)
    (p : Particle)
    (hload : ∀ e, Contains [p] e →
      AlikeAt At load load' (setting.set.element e).type (setting.set.element e).name)
    (h : At b target) :
    Alike b (addParticle setting load target p) (addParticle setting load' target p) := by
  match p with
  | .element occurs id =>
    unfold addParticle
    apply alike_addFieldOrSkip
    exact (hload id (.element List.mem_cons_self) h).andThen _
  | .group occurs compositor children =>
    have hchildren : ∀ e, Contains children e →
        AlikeAt At load load' (setting.set.element e).type (setting.set.element e).name :=
      fun e he => hload e (.group List.mem_cons_self he)
    unfold addParticle
    split
    · apply Alike.bind rfl
      apply alike_addFieldOrSkip
      apply agrees_groupEntry hm h
      intro b item h
      exact agrees_addContent hchildren
        (fun b target h => alike_addParticles hm children hchildren h) h
    · exact alike_addParticles hm children hchildren h
  | .wildcard occurs =>
    unfold addParticle
    rfl

theorem alike_addParticles {b : Build} {target : ComplexId} (hm : Course setting load At)
    (ps : List Particle)
    (hload : ∀ e, Contains ps e →
      AlikeAt At load load' (setting.set.element e).type (setting.set.element e).name)
    (h : At b target) :
    Alike b (addParticles setting load target ps) (addParticles setting load' target ps) := by
  match ps with
  | [] =>
    unfold addParticles
    rfl
  | p :: ps =>
    unfold addParticles
    apply Alike.bind (alike_addParticle hm p (fun e he => hload e (he.mono (by simp))) h)
    exact alike_addParticles hm ps (fun e he => hload e (he.mono (List.subset_cons_self p ps)))
      (hm.particle p h)

end

section Content

variable (definition : Xsd.ComplexType)

/-- Content is made alike if the types of the elements in it are bound alike. -/
theorem agrees_makeContent (hm : Course setting load At)
    (hload : ∀ e, Contains (particlesOf definition) e →
      AlikeAt At load load' (setting.set.element e).type (setting.set.element e).name)
    (h : At b target) :
    Agrees b (makeContent setting load definition target)
      (makeContent setting load' definition target) := by
  unfold makeContent
  split
  · rfl
  · rfl
  · next children hcontent =>
    simp only [particlesOf, hcontent] at hload
    exact agrees_addContent hload (fun b target h => alike_addParticles hm _ hload h) h
  · rfl

/-- When content has been made, what held at its beginning holds if the type has kept its place. -/
theorem ends_makeContent_at (hm : Course setting load At) (h : At b target) :
    Ends b (makeContent setting load definition target) fun r b' =>
      ∀ type, r = .ok type → type.isList = false → At b' target := by
  unfold makeContent
  split
  · exact fun _ _ _ => h
  · exact fun _ _ _ => h
  · next children _ =>
    unfold addContent
    rw [ends_bind, ends_get]
    dsimp only
    split
    · -- A list has taken the place of the type, or the item could not be bound.
      unfold promote
      rw [ends_bind, ends_iff]
      split
      · rintro _ ⟨⟩ hlist
        cases hlist
      · exact ok_of_error
    · rw [ends_bind, ends_liftState]
      exact fun _ _ _ => hm.particles h children
  · rintro _ ⟨⟩

end Content

/-! ## Attributes -/

/-- One attribute is added to a type. -/
theorem after_addAttributes_singleton {schemas : SchemaSet} {use : AttributeUse}
    {type : TypeRef} (h : b.resultOf
      (load (schemas.attr use.declaration).type (schemas.attr use.declaration).name) = .ok type) :
    b.after (addAttributes schemas load target [use]) =
      (b.after (load (schemas.attr use.declaration).type
        (schemas.attr use.declaration).name)).addField target
        (attributeField (schemas.attr use.declaration) type) := by
  have hadd : Ends b (addAttributes schemas load target [use]) fun _ b' => b' =
      (b.after (load (schemas.attr use.declaration).type
        (schemas.attr use.declaration).name)).addField target
        (attributeField (schemas.attr use.declaration) type) := by
    unfold addAttributes
    simp only [ends_bind, ends_attempt]
    rw [ends_iff, h]
    rfl
  exact hadd

/-- Attributes are added alike if their types are bound alike. -/
theorem agrees_addAttributes (hm : Course setting load At) (uses : List AttributeUse)
    (hload : ∀ use ∈ uses, AlikeAt At load load' (setting.set.attr use.declaration).type
      (setting.set.attr use.declaration).name)
    (h : At b target) :
    Agrees b (addAttributes setting.set load target uses)
      (addAttributes setting.set load' target uses) := by
  induction uses generalizing b with
  | nil => rfl
  | cons use uses ih =>
    unfold addAttributes
    apply Agrees.bind (hload use List.mem_cons_self h).attempt
    intro r hr
    cases r with
    | error failure => rfl
    | ok type =>
      have hused := hm.use use h
      rw [after_addAttributes_singleton (Except.ok.inj hr)] at hused
      exact ih (fun use huse => hload use (List.mem_cons_of_mem _ huse)) hused

/-! ## Types -/

/-- Two loaders bind what a definition mentions alike, whenever a part of its content is made. -/
def AlikeInside (setting : Setting) (At : Build → ComplexId → Prop) (load load' : Loader)
    (id : TypeId) : Prop :=
  ∀ {id' fieldName}, Mentions setting.set id id' fieldName → AlikeAt At load load' id' fieldName

section Types

variable {id : TypeId} {definition : Xsd.ComplexType} (hm : Course setting load At)
  (hkind : (setting.set.type id).kind = .complex definition)
  (hinside : AlikeInside setting At load load' id)
include hm hkind hinside

/-- Attributes are added alike to the type, and not at all when a list has taken its place. -/
theorem agrees_makeAttributes {type : TypeRef} (h : type.isList = false → At b target) :
    Agrees b (makeAttributes setting load id definition target type)
      (makeAttributes setting load' id definition target type) := by
  unfold makeAttributes
  apply Agrees.get
  dsimp only
  split
  · rfl
  · next hlist =>
    exact agrees_addAttributes hm _ (fun use huse => hinside (.use hkind huse))
      (h (Bool.eq_false_iff.mpr hlist))

/-- Complex types are filled alike, content first and then attributes. -/
theorem agrees_fillComplex (h : At b target) :
    Agrees b (fillComplex setting load id definition target)
      (fillComplex setting load' id definition target) := by
  unfold fillComplex
  apply Agrees.bind (agrees_makeContent definition hm (fun e he => hinside (.element hkind he)) h)
  intro type htype
  apply Agrees.andThen
  exact agrees_makeAttributes hm hkind hinside (ends_makeContent_at definition hm h type htype)

end Types

section Load

variable {id : TypeId} {name fieldName : String}

/-- A base is bound alike, unless the type is its own base. -/
def AlikeBase (setting : Setting) (b : Build) (load load' : Loader) (id : TypeId) (name : String) :
    Prop :=
  setting.set.baseOf id ≠ id →
    Agrees b (load (setting.set.baseOf id) name) (load' (setting.set.baseOf id) name)

theorem agrees_simpleSuper (hbase : AlikeBase setting b load load' id name) :
    Agrees b (simpleSuper setting.set load id name) (simpleSuper setting.set load' id name) := by
  unfold simpleSuper
  dsimp only
  split
  · rfl
  · next hne => exact (hbase hne).attempt.andThen _

theorem agrees_complexSuper (hbase : AlikeBase setting b load load' id name) :
    Agrees b (complexSuper setting.set load id name) (complexSuper setting.set load' id name) := by
  unfold complexSuper
  dsimp only
  split
  · rfl
  · next hne => exact (hbase fun heq => hne (.inl heq)).attempt.andThen _

/-- Opening a complex type leads to a moment at which its content is made. -/
def Opens (setting : Setting) (b : Build) (load : Loader) (At : Build → ComplexId → Prop)
    (id : TypeId) (name : String) : Prop :=
  ∀ {super target}, b.resultOf (complexSuper setting.set load id name) = .ok super →
    (b.after (complexSuper setting.set load id name)).resultOf
      (BuildM.openComplex name super) = .ok target →
    At ((b.after (complexSuper setting.set load id name)).after
      (BuildM.openComplex name super)) target

/-- Complex types are built alike, if their super types are bound alike, and the types inside them
from any state with the type open. -/
theorem agrees_buildComplex (hm : Course setting load At) {definition : Xsd.ComplexType}
    (hkind : (setting.set.type id).kind = .complex definition)
    (hbase : AlikeBase setting b load load' id name) (hopens : Opens setting b load At id name)
    (hinside : AlikeInside setting At load load' id) :
    Agrees b (buildComplex setting load id name definition)
      (buildComplex setting load' id name definition) := by
  unfold buildComplex
  apply Agrees.bind (agrees_complexSuper hbase)
  intro super hsuper
  -- From here on, both make the same type, and the content is made with it in the scope.
  apply Agrees.mark
  apply Agrees.after
  intro target htarget
  exact (agrees_fillComplex hm hkind hinside (hopens hsuper htarget)).attempt.andThen _

/-- Types of all kinds are built alike. -/
theorem agrees_buildType (hm : Course setting load At)
    (hbase : AlikeBase setting b load load' id name)
    (hopens : ∀ {definition}, (setting.set.type id).kind = .complex definition →
      Opens setting b load At id name)
    (hinside : AlikeInside setting At load load' id) :
    Agrees b (buildType setting load id name) (buildType setting load' id name) := by
  unfold buildType
  dsimp only
  split
  · next hkind => exact agrees_buildComplex hm hkind hbase (hopens hkind) hinside
  · split
    · rfl
    · exact (agrees_simpleSuper hbase).andThen _
    · exact (agrees_simpleSuper hbase).andThen _

/-- Binding a type does not tell loaders apart that bind its base alike and, once it has been
opened, what it mentions. -/
theorem agrees_loadStep
    (h : ∀ {name}, Fresh setting id fieldName b name → ∃ At, Course setting load At ∧
      AlikeBase setting b load load' id name ∧
      (∀ {definition}, (setting.set.type id).kind = .complex definition →
        Opens setting b load At id name) ∧
      AlikeInside setting At load load' id) :
    Agrees b (loadStep setting load id fieldName) (loadStep setting load' id fieldName) := by
  unfold loadStep
  apply Agrees.after
  intro name hname
  apply Agrees.after
  rintro (_ | found) hn
  · dsimp only
    split
    · rfl
    · next hns =>
      obtain ⟨At, hm, hbase, hopens, hinside⟩ := h ⟨hname, Except.ok.inj hn, hns⟩
      exact (agrees_buildType hm hbase hopens hinside).andThen _
  · rfl

end Load

/-! ## Global declarations -/

section Globals

variable {first : Build}

/-- A global declaration is bound in a reached state, and leaves one. -/
theorem Reached.globalField? (hb : Reached setting first b) (declared : String) (id : TypeId)
    (fieldName : String) {field : TypeRef → BuildM Repository.Field}
    (hfield : ∀ t (b : Build), b.after (field t) = b) :
    Passes b (globalField? declared (Binding.load setting id fieldName >>= field)) fun _ b' =>
      Reached setting first b' := by
  have hloaded : Reached setting first (b.after (Binding.load setting id fieldName)) :=
    .loaded _ id fieldName hb
  unfold Binding.globalField?
  rw [passes_bind, passes_run, ends_bind, ends_iff]
  cases b.resultOf (Binding.load setting id fieldName) with
  | error failure => exact .reported hloaded rfl rfl
  | ok t =>
    dsimp only
    rw [ends_iff, hfield]
    cases Build.resultOf _ (field t) with
    | error failure => exact .reported hloaded rfl rfl
    | ok f => exact hloaded

/-- So are all of them. -/
theorem Reached.globalFields (hb : Reached setting first b) (source : Xsd.Schema) :
    Passes b (globalFields setting source) fun _ b' => Reached setting first b' := by
  unfold Binding.globalFields
  simp only [passes_bind, passes_pure]
  refine (passes_mapM (fun e b hb => ?_) hb).mono fun _ b' hb' => passes_mapM (fun a b hb => ?_) hb'
  · exact hb.globalField? _ _ _ fun _ _ => rfl
  · exact hb.globalField? _ _ _ fun _ _ => rfl

end Globals

end SchemaBinding.Binding
