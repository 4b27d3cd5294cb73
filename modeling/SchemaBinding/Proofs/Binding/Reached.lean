import SchemaBinding.Proofs.Binding.Compilation

/-!
# Moments of a build

The states in which a type is bound while a schema is built: at the start, after global declarations
have been bound, and in the midst of complex types that are being filled. All of them are sound.

## Main definitions

* `Build.after`, `Build.resultOf`: how a step ends
* `Fresh`: a definition for which a type is to be built
* `afterSuper`: the build when the super type of a complex type has been bound
* `Reached`: the states in which types are bound

## Main results

* `openNamed_of_none`, `openNamed_of_some`: when a complex type is opened
* `ends_buildComplex_afterSuper`: how a complex type is made
* `Reached.sound`: the invariant in all of them
-/

namespace SchemaBinding.Binding

open Repository (ComplexId Store TypeRef)
open Xsd (AttributeUse Particle TypeId)

namespace Build

variable {α : Type}

/-- The build that a step leaves. -/
def after (b : Build) (step : BuildM α) : Build := (step.run.run b).2

/-- The result of a step. -/
def resultOf (b : Build) (step : BuildM α) : Except Failure α := (step.run.run b).1

/-- The build that a step leaves that cannot fail. -/
def afterStep (b : Build) (step : StepM α) : Build := (step.run b).2

end Build

section Steps

variable {α β : Type} {b : Build}

/-- How a step ends, in terms of its result and the build that it leaves. -/
theorem ends_iff {step : BuildM α} {post : Except Failure α → Build → Prop} :
    Ends b step post ↔ post (b.resultOf step) (b.after step) :=
  Iff.rfl

/-- How a step ends is how it ends. -/
theorem ends_self (b : Build) (step : BuildM α) :
    Ends b step fun r b' => r = b.resultOf step ∧ b' = b.after step :=
  ⟨rfl, rfl⟩

theorem after_bind {x : BuildM α} {f : α → BuildM β} {a : α}
    (h : b.resultOf x = .ok a) : b.after (x >>= f) = (b.after x).after (f a) := by
  have hbind : Ends b (x >>= f) fun _ b' => b' = (b.after x).after (f a) := by
    rw [ends_bind, ends_iff, h]
    rfl
  exact hbind

theorem resultOf_bind {x : BuildM α} {f : α → BuildM β} {a : α}
    (h : b.resultOf x = .ok a) : b.resultOf (x >>= f) = (b.after x).resultOf (f a) := by
  have hbind : Ends b (x >>= f) fun r _ => r = (b.after x).resultOf (f a) := by
    rw [ends_bind, ends_iff, h]
    rfl
  exact hbind

theorem after_get {f : Build → BuildM α} : b.after (get >>= f) = b.after (f b) := rfl

theorem resultOf_get {f : Build → BuildM α} :
    b.resultOf (get >>= f) = b.resultOf (f b) :=
  rfl

end Steps

/-- A complex type is opened under a name, after its super type has been bound. -/
def openNamed (setting : Setting) (depth : Nat) (id : TypeId) (name : String) :
    BuildM ComplexId := do
  let super ← complexSuper setting.set (loadWithin setting depth) id name
  BuildM.openComplex name super

/-- The items of a repeated group of `target` are opened. -/
def openItem (target : ComplexId) : BuildM ComplexId := do
  let whole := (← get).store.complex target
  BuildM.openComplex (Naming.anonymousListItem whole.name) whole.super

/-- A definition is one for which a type is to be built: its name means nothing, and it is not built
in. -/
structure Fresh (setting : Setting) (id : TypeId) (fieldName : String) (b : Build)
    (name : String) : Prop where
  typeName_eq : typeName setting.set (setting.set.type id) fieldName = .ok name
  lookup_eq : b.scope.lookup? b.store setting.registry name = none
  not_builtin : (setting.set.type id).namespaceUri ≠ Xsd.schemaNamespace

/-- The build when the super type of a complex type has been bound. -/
def afterSuper (setting : Setting) (depth : Nat) (id : TypeId) (name : String) (b : Build) :
    Build :=
  b.after (complexSuper setting.set (loadWithin setting depth) id name)

/-- The states in which types are bound while a schema is built. -/
inductive Reached (setting : Setting) (first : Build) : Build → Prop
  /-- The first global declaration is bound at the start. -/
  | start : Reached setting first first
  /-- Further types are bound when one has been, or could not be, bound. -/
  | loaded {b : Build} (depth : Nat) (id : TypeId) (fieldName : String) :
      Reached setting first b →
      Reached setting first (b.after (loadWithin setting depth id fieldName))
  /-- Messages and diagnostics come in between. -/
  | reported {b b' : Build} : Reached setting first b → b'.store = b.store →
      b'.scope = b.scope → Reached setting first b'
  /-- The types of the content of a complex type are bound when it has been opened. -/
  | opened {b : Build} (depth : Nat) (id : TypeId) (fieldName name : String) (target : ComplexId) :
      Reached setting first b →
      typeName setting.set (setting.set.type id) fieldName = .ok name →
      b.scope.lookup? b.store setting.registry name = none →
      b.resultOf (openNamed setting depth id name) = .ok target →
      Reached setting first (b.after (openNamed setting depth id name))
  /-- The types of the content of a repeated group are bound when its items have been opened. -/
  | openedItem {b : Build} (target item : ComplexId) : Reached setting first b →
      IsOpen b.store b.scope target → b.resultOf (openItem target) = .ok item →
      Reached setting first (b.after (openItem target))
  /-- A particle comes after other particles. -/
  | particle {b : Build} (depth : Nat) (target : ComplexId) (p : Particle) :
      Reached setting first b → IsOpen b.store b.scope target →
      Reached setting first (b.afterStep (addParticle setting (loadWithin setting depth) target p))
  /-- An attribute comes after content and other attributes. -/
  | used {b : Build} (depth : Nat) (target : ComplexId) (use : AttributeUse) :
      Reached setting first b → IsOpen b.store b.scope target →
      Reached setting first
        (b.after (addAttributes setting.set (loadWithin setting depth) target [use]))

section Opening

variable {setting : Setting} {depth : Nat} {b : Build} {id : TypeId} {fieldName name : String}

theorem Fresh.newName (hset : setting.set.PlainNames) (h : Fresh setting id fieldName b name) :
    NewName setting b name :=
  ⟨h.lookup_eq, typeName_ne_anonymousListItem hset h.typeName_eq,
    typeName_not_isList hset h.typeName_eq⟩

/-- Binding such a definition builds its type, and puts it into the scope. -/
theorem Fresh.ends_loadStep {load : Loader} {post : Except Failure TypeRef → Build → Prop}
    (h : Fresh setting id fieldName b name) :
    Ends b (loadStep setting load id fieldName) post ↔ Ends b (do
      let type ← buildType setting load id name
      BuildM.register type
      return type) post := by
  unfold loadStep
  rw [ends_bind, ends_liftExcept, h.typeName_eq]
  dsimp only
  rw [ends_bind, ends_lookup?, h.lookup_eq]
  dsimp only
  rw [if_neg h.not_builtin]

theorem Fresh.name_eq {name' : String} (h : Fresh setting id fieldName b name)
    (h' : Fresh setting id fieldName b name') : name = name' :=
  Except.ok.inj (h.typeName_eq.symm.trans h'.typeName_eq)

theorem advances_afterSuper (hset : setting.set.PlainNames) (h : setting.Sound b) (depth : Nat)
    (id : TypeId) (name : String) :
    Advances setting none b (afterSuper setting depth id name b) ∧
      ∃ super, b.resultOf (complexSuper setting.set (loadWithin setting depth) id name) =
        .ok super := by
  obtain ⟨hadv, super, hsuper, -⟩ :=
    succeeds_complexSuper (loads_loadWithin hset depth) h setting.set id name
  exact ⟨hadv, super, hsuper⟩

/-- If the super type has not bound the name of a type, the type is opened. -/
theorem openNamed_of_none {super : Option ComplexId}
    (hsuper : b.resultOf (complexSuper setting.set (loadWithin setting depth) id name) = .ok super)
    (hn : (afterSuper setting depth id name b).scope.lookupLocal? name = none) :
    b.resultOf (openNamed setting depth id name) =
        .ok ((afterSuper setting depth id name b).nextComplex name super) ∧
      b.after (openNamed setting depth id name) =
        (afterSuper setting depth id name b).opened name super := by
  have hopen : Ends (afterSuper setting depth id name b) (BuildM.openComplex name super)
      fun r b' => r = .ok ((afterSuper setting depth id name b).nextComplex name super) ∧
        b' = (afterSuper setting depth id name b).opened name super :=
    (ends_openComplex_of_none hn).mpr ⟨rfl, rfl⟩
  exact ⟨(resultOf_bind hsuper).trans hopen.1, (after_bind hsuper).trans hopen.2⟩

/-- If the super type has bound the name of a type, the type is not opened. -/
theorem openNamed_of_some (hset : setting.set.PlainNames) (h : setting.Sound b) {other : TypeRef}
    (hn : (afterSuper setting depth id name b).scope.lookupLocal? name = some other) :
    b.resultOf (openNamed setting depth id name) = .error (.typeCollision name) := by
  obtain ⟨hadv, super, hsuper⟩ := advances_afterSuper hset h depth id name
  have hopen : Ends (afterSuper setting depth id name b) (BuildM.openComplex name super)
      fun r _ => r = .error (.typeCollision name) :=
    (ends_openComplex_of_some hn (hadv.sound.has _ _ hn)).mpr rfl
  exact (resultOf_bind hsuper).trans hopen

/-- How a complex type is made, in terms of the build in which its super type has been bound. -/
theorem ends_buildComplex_afterSuper (hset : setting.set.PlainNames) (h : setting.Sound b)
    {definition : Xsd.ComplexType} {post : Except Failure TypeRef → Build → Prop}
    (htaken : ∀ super,
      b.resultOf (complexSuper setting.set (loadWithin setting depth) id name) = .ok super →
      (afterSuper setting depth id name b).scope.lookupLocal? name ≠ none →
      post (.error (.typeCollision name))
        ((afterSuper setting depth id name b).withStub name super))
    (hopened : ∀ super,
      b.resultOf (complexSuper setting.set (loadWithin setting depth) id name) = .ok super →
      Advances setting none b (afterSuper setting depth id name b) →
      (∀ above, super = some above →
        setting.Settled (afterSuper setting depth id name b) (.complex above)) →
      (afterSuper setting depth id name b).scope.lookupLocal? name = none →
      Ends ((afterSuper setting depth id name b).opened name super)
        (fillComplex setting (loadWithin setting depth) id definition
          ((afterSuper setting depth id name b).nextComplex name super)) fun r b₂ =>
            match r with
            | .ok t => post (.ok t) b₂
            | .error failure => post (.error failure)
              (b₂.abandon name (afterSuper setting depth id name b).scope.size)) :
    Ends b (buildComplex setting (loadWithin setting depth) id name definition) post := by
  refine ends_buildComplex (loads_loadWithin hset depth) h (ends_self b _) ?_ ?_
  · rintro super _ ⟨hsuper, rfl⟩ - hn
    exact htaken super hsuper.symm hn
  · rintro super _ ⟨hsuper, rfl⟩ hadv hsettled hn
    exact hopened super hsuper.symm hadv hsettled hn

end Opening

variable {setting : Setting} {first b : Build}

/-- A complex type is opened, or its name has been bound with its super type. -/
theorem ends_openNamed (hset : setting.set.PlainNames) (h : setting.Sound b) (depth : Nat)
    {id : TypeId} {name : String} (hname : NewName setting b name) :
    Ends b (openNamed setting depth id name) fun _ b' => Advances setting none b b' := by
  unfold openNamed
  rw [ends_bind]
  apply (succeeds_complexSuper (loads_loadWithin hset depth) h _ id name).mono
  rintro r b₁ ⟨hadv, super, rfl, hsuper⟩
  dsimp only
  cases hn : b₁.scope.lookupLocal? name with
  | some other =>
    rw [ends_openComplex_of_some hn (hadv.sound.has _ _ hn)]
    exact hadv.trans (.withStub hadv.sound name super)
  | none =>
    rw [ends_openComplex_of_none hn]
    exact hadv.trans (hadv.openedNamed h hname hn hsuper)

/-- The items of a group are opened, or there are items of the type already. -/
theorem ends_openItem (h : setting.Sound b) {target : ComplexId}
    (ho : IsOpen b.store b.scope target) :
    Ends b (openItem target) fun _ b' => Advances setting none b b' := by
  unfold openItem
  rw [ends_bind, ends_get]
  dsimp only
  cases hn : b.scope.lookupLocal? (Naming.anonymousListItem (b.store.complex target).name) with
  | some other =>
    rw [ends_openComplex_of_some hn (h.has _ _ hn)]
    exact .withStub h _ _
  | none =>
    rw [ends_openComplex_of_none hn]
    exact .openedItem h ho hn

/-- The invariant holds whenever a type is bound. -/
theorem Reached.sound (hset : setting.set.PlainNames) (hfirst : setting.Sound first)
    (h : Reached setting first b) : setting.Sound b := by
  induction h with
  | start => exact hfirst
  | loaded depth id fieldName _ ih => exact (loads_loadWithin hset depth _ id fieldName ih).1.sound
  | reported _ hstore hscope ih =>
    rw [Setting.Sound, hstore, hscope]
    exact ih
  | opened depth id fieldName name target _ htype hn _ ih =>
    have hname : NewName setting _ name :=
      ⟨hn, typeName_ne_anonymousListItem hset htype, typeName_not_isList hset htype⟩
    exact Advances.sound (ends_openNamed hset ih depth hname)
  | openedItem target item _ ho _ ih => exact Advances.sound (ends_openItem ih ho)
  | particle depth target p _ ho ih =>
    exact Advances.sound (advances_addParticle (loads_loadWithin hset depth) p ih ho)
  | used depth target use _ ho ih =>
    exact Advances.sound (advances_addAttributes (loads_loadWithin hset depth) _ [use] ih ho)

end SchemaBinding.Binding
