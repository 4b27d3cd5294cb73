import SchemaBinding.Proofs.Binding.Soundness
import SchemaBinding.Proofs.Outcome

/-!
# Single steps of a build

How each single step of a build ends, and what opening a complex type and going back to a mark do
to a sound build.

## Main definitions

* `Advances`: what every part of a build promises of the state that it leaves
* `Build.opened`: the build after a complex type has been opened

## Main results

* `ends_register_of_none`, `ends_register_of_other`: when a type comes into the scope
* `ends_openComplex_of_none`, `ends_openComplex_of_some`: when a complex type is opened
* `Advances.opened`, `isOpen_opened`: opening a type
* `truncate_size`: going back to a mark
-/

namespace SchemaBinding.Binding

open Repository (ComplexId ComplexType Field ListId ListType Scope SimpleType Store TypeRef)

section Rules

variable {α : Type} {b : Build}

@[simp] theorem ends_attempt {step : BuildM α}
    {post : Except Failure (Except Failure α) → Build → Prop} :
    Ends b (BuildM.attempt step) post ↔ Ends b step fun r b' => post (.ok r) b' :=
  Iff.rfl

@[simp] theorem ends_report {level : Log.Level} {text : String}
    {post : Except Failure PUnit → Build → Prop} :
    Ends b (BuildM.report level text) post ↔ post (.ok ⟨⟩) (b.report level text) :=
  Iff.rfl

@[simp] theorem ends_schemaName {post : Except Failure String → Build → Prop} :
    Ends b BuildM.schemaName post ↔ post (.ok b.scope.schemaName) b :=
  Iff.rfl

@[simp] theorem ends_mark {post : Except Failure Nat → Build → Prop} :
    Ends b BuildM.mark post ↔ post (.ok b.scope.size) b :=
  Iff.rfl

@[simp] theorem ends_lookup? {setting : Setting} {n : String}
    {post : Except Failure (Option TypeRef) → Build → Prop} :
    Ends b (BuildM.lookup? setting n) post ↔
      post (.ok (b.scope.lookup? b.store setting.registry n)) b :=
  Iff.rfl

@[simp] theorem ends_rollback {mark : Nat} {post : Except Failure Nat → Build → Prop} :
    Ends b (BuildM.rollback mark) post ↔
      post (.ok (b.scope.truncate mark).1) { b with scope := (b.scope.truncate mark).2 } :=
  Iff.rfl

@[simp] theorem ends_addSimple {t : SimpleType} {post : Except Failure TypeRef → Build → Prop} :
    Ends b (BuildM.addSimple t) post ↔
      post (.ok (.simple (b.store.addSimple t).1)) { b with store := (b.store.addSimple t).2 } :=
  Iff.rfl

@[simp] theorem ends_addList {t : ListType} {post : Except Failure TypeRef → Build → Prop} :
    Ends b (BuildM.addList t) post ↔
      post (.ok (.list (b.store.addList t).1)) { b with store := (b.store.addList t).2 } :=
  Iff.rfl

@[simp] theorem ends_addComplex {t : ComplexType}
    {post : Except Failure ComplexId → Build → Prop} :
    Ends b (BuildM.addComplex t) post ↔
      post (.ok (b.store.addComplex t).1) { b with store := (b.store.addComplex t).2 } :=
  Iff.rfl

/-- A type is registered if its name is free, and otherwise the step fails. -/
theorem ends_register {t : TypeRef} {post : Except Failure PUnit → Build → Prop} :
    Ends b (BuildM.register t) post ↔
      match b.scope.register b.store t with
      | .ok scope => post (.ok ⟨⟩) { b with scope }
      | .error failure => post (.error failure) b := by
  unfold BuildM.register
  simp only [ends_bind, ends_get, ends_liftExcept]
  cases b.scope.register b.store t <;> simp

/-- A type whose name means nothing in the scope comes into the scope. -/
theorem ends_register_of_none {t : TypeRef} {post : Except Failure PUnit → Build → Prop}
    (h : b.scope.lookupLocal? (b.store.nameOf t) = none) :
    Ends b (BuildM.register t) post ↔ post (.ok ⟨⟩) (b.replace t) := by
  rw [ends_register, Scope.register_of_none h]
  rfl

/-- A type that is in the scope stays there. -/
theorem ends_register_of_self {t : TypeRef} {post : Except Failure PUnit → Build → Prop}
    (h : b.scope.lookupLocal? (b.store.nameOf t) = some t) :
    Ends b (BuildM.register t) post ↔ post (.ok ⟨⟩) b := by
  rw [ends_register, Scope.register_of_some h, if_pos rfl]

/-- Under the name of another type, none comes into the scope. -/
theorem ends_register_of_other {t other : TypeRef} {post : Except Failure PUnit → Build → Prop}
    (h : b.scope.lookupLocal? (b.store.nameOf t) = some other) (hne : other ≠ t) :
    Ends b (BuildM.register t) post ↔ post (.error (.typeCollision (b.store.nameOf t))) b := by
  rw [ends_register, Scope.register_of_some h, if_neg hne]

end Rules

/-! ## Opening a complex type -/

namespace Build

variable (name : String) (super : Option ComplexId) (b : Build)

/-- A complex type of the schema that is built, still without fields. -/
def stub : ComplexType := ⟨name, b.scope.schemaName, super, []⟩

/-- The identity of the next complex type. -/
def nextComplex : ComplexId := (b.store.addComplex (b.stub name super)).1

/-- The build with a complex type that is in no scope. -/
def withStub : Build := { b with store := (b.store.addComplex (b.stub name super)).2 }

/-- The build after a complex type has been opened. -/
def opened : Build := (b.withStub name super).replace (.complex (b.nextComplex name super))

/-- What is made for a complex type to begin with is its stub. -/
theorem complex_nextComplex :
    (b.withStub name super).store.complex (b.nextComplex name super) = b.stub name super :=
  Store.complex_addComplex _ _

theorem complex_opened :
    (b.opened name super).store.complex (b.nextComplex name super) = b.stub name super :=
  Store.complex_addComplex _ _

/-- The complex type that comes next has not been there before. -/
theorem not_has_nextComplex : ¬ b.store.Has (.complex (b.nextComplex name super)) :=
  Store.not_has_addComplex _

theorem has_nextComplex : (b.opened name super).store.Has (.complex (b.nextComplex name super)) :=
  Store.has_addComplex _

/-- A stub has the name that the type will have. -/
theorem nameOf_nextComplex :
    (b.withStub name super).store.nameOf (.complex (b.nextComplex name super)) = name :=
  congrArg ComplexType.name (b.complex_nextComplex name super)

end Build

section Opening

variable {name : String} {super : Option ComplexId} {b : Build}
  {post : Except Failure ComplexId → Build → Prop}

/-- A complex type whose name means nothing in the scope is opened. -/
theorem ends_openComplex_of_none (h : b.scope.lookupLocal? name = none) :
    Ends b (BuildM.openComplex name super) post ↔
      post (.ok (b.nextComplex name super)) (b.opened name super) := by
  have hn : (b.withStub name super).scope.lookupLocal? ((b.withStub name super).store.nameOf
      (.complex (b.nextComplex name super))) = none := by
    rw [b.nameOf_nextComplex name super]
    exact h
  unfold BuildM.openComplex
  simp only [ends_bind, ends_schemaName, ends_addComplex]
  exact ends_register_of_none hn

/-- Under the name of a type that is in the scope, no complex type is opened. -/
theorem ends_openComplex_of_some {other : TypeRef} (h : b.scope.lookupLocal? name = some other)
    (hhas : b.store.Has other) :
    Ends b (BuildM.openComplex name super) post ↔
      post (.error (.typeCollision name)) (b.withStub name super) := by
  have hn : (b.withStub name super).scope.lookupLocal? ((b.withStub name super).store.nameOf
      (.complex (b.nextComplex name super))) = some other := by
    rw [b.nameOf_nextComplex name super]
    exact h
  have hne : other ≠ .complex (b.nextComplex name super) := by
    rintro rfl
    exact b.not_has_nextComplex name super hhas
  unfold BuildM.openComplex
  simp only [ends_bind, ends_schemaName, ends_addComplex]
  apply (ends_register_of_other hn hne).trans
  rw [b.nameOf_nextComplex name super]

end Opening

/-! ## Sound builds -/

/-- The invariant of a build. -/
abbrev Setting.Sound (setting : Setting) (b : Build) : Prop :=
  Binding.Sound setting.registry b.store b.scope

/-- A type that is settled in a build. -/
abbrev Setting.Settled (setting : Setting) (b : Build) (t : TypeRef) : Prop :=
  Binding.Settled setting.registry b.store b.scope t

/-- A type that may be mentioned in a build. -/
abbrev Setting.Held (setting : Setting) (b : Build) (t : TypeRef) : Prop :=
  Binding.Held setting.registry b.store b.scope t

/-- What every part of a build promises: it leaves a sound build, in which no type has changed but
for further fields of `target`. -/
structure Advances (setting : Setting) (target : Option ComplexId) (b b' : Build) : Prop where
  grows : Build.Grows target b b'
  sound : setting.Sound b'

namespace Advances

variable {setting : Setting} {target : Option ComplexId} {b b' b'' : Build}

theorem refl (target : Option ComplexId) (h : setting.Sound b) : Advances setting target b b :=
  ⟨.refl _ _, h⟩

theorem trans (h : Advances setting target b b') (h' : Advances setting target b' b'') :
    Advances setting target b b'' :=
  ⟨h.grows.trans h'.grows, h'.sound⟩

theorem weaken (target : Option ComplexId) (h : Advances setting none b b') :
    Advances setting target b b' :=
  ⟨h.grows.weaken target, h.sound⟩

/-- Messages and diagnostics make no difference. -/
theorem quiet (h : Advances setting target b b') (hstore : b''.store = b'.store)
    (hscope : b''.scope = b'.scope) : Advances setting target b b'' := by
  refine ⟨⟨?_, ?_, ?_⟩, ?_⟩
  · exact hstore ▸ h.grows.store
  · exact hscope ▸ h.grows.schemaName_eq
  · exact hscope ▸ h.grows.locals_prefix
  · rw [Setting.Sound, hstore, hscope]
    exact h.sound

/-- A type in the scope may get a field of a type that may be mentioned. -/
theorem addField (h : setting.Sound b) {c : ComplexId} (ho : IsOpen b.store b.scope c)
    {field : Field} (hf : setting.Held b field.type) :
    Advances setting (some c) b (b.addField c field) :=
  ⟨⟨Store.grows_addField ho.has field, rfl, List.prefix_rfl⟩, h.addField ho hf⟩

/-- Types may be made without coming into the scope. -/
theorem ofStore (h : setting.Sound b) (hg : b.store.Grows none b'.store)
    (hs : b'.scope = b.scope) : Advances setting none b b' :=
  ⟨⟨hg, congrArg _ hs, hs ▸ List.prefix_rfl⟩, h.grow hg hs⟩

theorem settled {t : TypeRef} (h : Advances setting none b b') (hb : setting.Sound b)
    (ht : setting.Settled b t) : setting.Settled b' t :=
  ht.grow hb.fits h.grows nofun

/-- Names that no other schema has published stay without a type of another schema. -/
theorem lookupGlobal?_eq (h : Advances setting target b b') (hb : setting.Sound b) (n : String) :
    b'.scope.lookupGlobal? b'.store setting.registry n =
      b.scope.lookupGlobal? b.store setting.registry n :=
  hb.fits.lookupGlobal?_eq h.grows.store h.grows.schemaName_eq n

end Advances

section Changes

variable {setting : Setting} {b b' : Build}

/-- A type that cannot be opened is in no scope. -/
theorem Advances.withStub (h : setting.Sound b) (name : String) (super : Option ComplexId) :
    Advances setting none b (b.withStub name super) :=
  .ofStore h (Store.grows_addComplex _) rfl

/-- A complex type may be opened under a name that means nothing yet. -/
theorem Advances.opened {name : String} {super : Option ComplexId} (h : setting.Sound b)
    (hn : b.scope.lookup? b.store setting.registry name = none)
    (hitem : ∀ k, name = Naming.anonymousListItem k → b.scope.lookupLocal? k ≠ none)
    (hlist : ¬ Naming.IsList name)
    (hsuper : ∀ above, super = some above → setting.Settled b (.complex above)) :
    Advances setting none b (b.opened name super) := by
  have hmade := Advances.withStub h name super
  have hname := b.nameOf_nextComplex name super
  have hn' : (b.withStub name super).scope.lookup? (b.withStub name super).store
      setting.registry name = none := by
    rw [lookup?_eq_none_iff] at hn ⊢
    exact ⟨(hmade.lookupGlobal?_eq h name).trans hn.1, hn.2⟩
  refine ⟨hmade.grows.trans (grows_replace ?_), ?_⟩
  · rw [hname]
    exact (lookup?_eq_none_iff.mp hn').2
  · refine hmade.sound.enter (Store.has_addComplex _) ?_ ?_ ?_ ?_ ?_
    · exact congrArg (fun t : ComplexType => some t.schema) (b.complex_nextComplex name super)
    · rw [hname]
      exact hn'
    · rw [hname]
      exact hitem
    · rw [hname]
      exact hlist
    · have hstub := b.complex_nextComplex name super
      rintro u (_ | hs | hf | _)
      · rw [hstub] at hs
        exact .settled (hmade.settled h (hsuper _ hs))
      · rw [hstub] at hf
        cases hf

/-- A complex type that has been opened is open. -/
theorem isOpen_opened (name : String) (super : Option ComplexId) (b : Build) :
    IsOpen (b.opened name super).store (b.opened name super).scope (b.nextComplex name super) where
  has := b.has_nextComplex name super
  lookup_eq := by
    rw [b.complex_opened name super]
    refine (Scope.lookupLocal?_replace _ _ _ _).trans (if_pos ?_)
    exact (b.nameOf_nextComplex name super).symm

/-- Going back to a mark gives the scope of that time. -/
theorem truncate_size {scope scope' : Scope} (hs : scope'.schemaName = scope.schemaName)
    (hp : scope.locals.entries <+: scope'.locals.entries) :
    (scope'.truncate scope.size).2 = scope := by
  obtain ⟨schemaName, locals⟩ := scope
  obtain ⟨schemaName', locals'⟩ := scope'
  cases hs
  exact congrArg (Scope.mk _) (OrderedMap.take_of_prefix hp)

end Changes

end SchemaBinding.Binding
