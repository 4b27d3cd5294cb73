import SchemaBinding.Proofs.Binding.Asking
import SchemaBinding.Proofs.Binding.Reached
import SchemaBinding.Proofs.Repository.Renaming

/-!
# The same build in another registry

A schema is built twice, from the same set, but for the second time in a store that has grown and
with other schemas published. If all names that are looked up mean the same, the second build does
what the first one did: it makes the same types, under other identities, and leaves out the same
declarations. The registry has no other part in a build.

## Main definitions

* `Rerun`: what the second build finds
* `Rerun.Mirrors`: two builds that have done the same
* `Rerun.Copies`, `Rerun.Follows`: two steps that do the same, if names mean the same

## Main results

* `Rerun.copies_bind`, `Rerun.follows_bind`, …: rules
* `Rerun.Mirrors.lookupLocal?_eq`: what a name means in the scope
* `Rerun.follows_openComplex`, `Rerun.copies_addField`, …: the steps of a build
-/

namespace SchemaBinding.Binding

open Repository (ComplexId ComplexType Field ListType Scope Shift SimpleType Store TypeRef)

/-- A build that is made again: what the store has become, the name of the schema, and the names
that mean the same as before. -/
structure Rerun where
  shift : Shift
  schemaName : String
  Names : String → Prop

/-- Results are in a relation, or the failures are the same. -/
inductive Matches {α β : Type} (R : α → β → Prop) : Except Failure α → Except Failure β → Prop
  | ok {a : α} {b : β} : R a b → Matches R (.ok a) (.ok b)
  | error (failure : Failure) : Matches R (.error failure) (.error failure)

namespace Rerun

variable (v : Rerun)

/-- Two builds have done the same: the types that they have made are the same, but for their
identities. -/
structure Mirrors (b b' : Build) : Prop where
  store : v.shift.Mirrors b.store b'.store
  schemaName_eq : b.scope.schemaName = v.schemaName
  scope_eq : b'.scope = b.scope.rename v.shift.ids
  diagnostics_eq : b'.diagnostics = b.diagnostics

/-- The names that have been noted are among those that mean the same. -/
def Agrees (b : Build) : Prop := ∀ n ∈ b.log.notes, v.Names n

/-- The same type, by its other identity. -/
def SameType (t t' : TypeRef) : Prop := t' = t.rename v.shift.ids

/-- The same field, with its type by the other identity. -/
def SameField (f f' : Field) : Prop := f' = f.rename v.shift.ids

/-- The same complex type, which the build has made. -/
def SameTarget (c c' : ComplexId) : Prop :=
  ¬ v.shift.old.Has (.complex c) ∧ c' = v.shift.ids.complex c

/-- The same super type, if there is one. -/
def SameSuper (c c' : Option ComplexId) : Prop := c' = c.map v.shift.ids.complex

section Rules

variable {α α' β β' : Type} {R : α → α' → Prop} {Q : β → β' → Prop}

/-- The second step does what the first one does when all names noted by then mean the same. In any
case the first one takes notes only, and it could have been followed. -/
def Copies (R : α → α' → Prop) (x : StepM α) (x' : StepM α') : Prop :=
  ∀ b b', v.Mirrors b b' →
    b.log.notes ⊆ (b.afterStep x).log.notes ∧
    (∃ a' c', R (x.run b).1 a' ∧ v.Mirrors (b.afterStep x) c') ∧
    (v.Agrees (b.afterStep x) →
      R (x.run b).1 (x'.run b').1 ∧ v.Mirrors (b.afterStep x) (b'.afterStep x'))

/-- The same of steps that may fail: they fail alike. -/
def Follows (R : α → α' → Prop) (x : BuildM α) (x' : BuildM α') : Prop :=
  v.Copies (Matches R) x.run x'.run

variable {v}

/-- A step that depends on no names. -/
theorem copies_of_forall {x : StepM α} {x' : StepM α'}
    (h : ∀ b b', v.Mirrors b b' → b.log.notes ⊆ (b.afterStep x).log.notes ∧
      R (x.run b).1 (x'.run b').1 ∧ v.Mirrors (b.afterStep x) (b'.afterStep x')) :
    v.Copies R x x' := by
  intro b b' hb
  obtain ⟨hnotes, hR, hM⟩ := h b b' hb
  exact ⟨hnotes, ⟨_, _, hR, hM⟩, fun _ => ⟨hR, hM⟩⟩

theorem copies_pure {a : α} {a' : α'} (h : R a a') : v.Copies R (pure a) (pure a') :=
  copies_of_forall fun _ _ hb => ⟨List.Subset.refl _, h, hb⟩

theorem copies_bind {x : StepM α} {x' : StepM α'} {f : α → StepM β} {f' : α' → StepM β'}
    (hx : v.Copies R x x') (hf : ∀ a a', R a a' → v.Copies Q (f a) (f' a')) :
    v.Copies Q (x >>= f) (x' >>= f') := by
  intro b b' hb
  obtain ⟨hnotes, ⟨a', c', hR, hM⟩, hcopy⟩ := hx b b' hb
  obtain ⟨hnotes', hsome, -⟩ := hf _ a' hR _ c' hM
  refine ⟨List.Subset.trans hnotes hnotes', hsome, fun hnames => ?_⟩
  obtain ⟨hR, hM⟩ := hcopy fun n hn => hnames n (hnotes' hn)
  exact (hf _ _ hR _ _ hM).2.2 hnames

theorem copies_get {f : Build → StepM β} {f' : Build → StepM β'}
    (h : ∀ b b', v.Mirrors b b' → v.Copies Q (f b) (f' b')) :
    v.Copies Q (get >>= f) (get >>= f') :=
  fun b b' hb => h b b' hb b b' hb

theorem copies_modify {f f' : Build → Build} (hlog : ∀ b, b.log.notes ⊆ (f b).log.notes)
    (h : ∀ b b', v.Mirrors b b' → v.Mirrors (f b) (f' b')) :
    v.Copies Eq (modify f : StepM PUnit) (modify f') :=
  copies_of_forall fun b b' hb => ⟨hlog b, rfl, h b b' hb⟩

/-- Steps one after the other. -/
theorem copies_mapM {γ : Type} {g : α → α'} {f : γ → StepM α} {f' : γ → StepM α'}
    (h : ∀ c, v.Copies (fun a a' => a' = g a) (f c) (f' c)) (cs : List γ) :
    v.Copies (fun as as' => as' = as.map g) (cs.mapM f) (cs.mapM f') := by
  induction cs with
  | nil => exact copies_pure rfl
  | cons c cs ih =>
    rw [List.mapM_cons, List.mapM_cons]
    refine copies_bind (h c) fun a a' ha => ?_
    refine copies_bind ih fun as as' has => copies_pure ?_
    rw [ha, has, List.map_cons]

/-! ### Steps that may fail -/

theorem follows_pure {a : α} {a' : α'} (h : R a a') : v.Follows R (pure a) (pure a') :=
  copies_pure (.ok h)

theorem follows_throw (failure : Failure) :
    v.Follows R (throw failure : BuildM α) (throw failure : BuildM α') :=
  copies_pure (.error failure)

theorem follows_bind {x : BuildM α} {x' : BuildM α'} {f : α → BuildM β} {f' : α' → BuildM β'}
    (hx : v.Follows R x x') (hf : ∀ a a', R a a' → v.Follows Q (f a) (f' a')) :
    v.Follows Q (x >>= f) (x' >>= f') := by
  unfold Follows
  rw [ExceptT.run_bind, ExceptT.run_bind]
  refine copies_bind hx fun r r' hr => ?_
  cases hr with
  | ok hR => exact hf _ _ hR
  | error failure => exact copies_pure (.error failure)

/-- A step that says nothing, by how it ends. -/
theorem follows_of_ends {x : BuildM α} {x' : BuildM α'}
    (h : ∀ b b', v.Mirrors b b' → Ends b x fun r c => Ends b' x' fun r' c' =>
      c.log = b.log ∧ Matches R r r' ∧ v.Mirrors c c') : v.Follows R x x' := by
  refine copies_of_forall fun b b' hb => ?_
  obtain ⟨hlog, hR, hM⟩ := h b b' hb
  exact ⟨fun n hn => (congrArg Log.notes hlog).symm ▸ hn, hR, hM⟩

theorem follows_get {f : Build → BuildM β} {f' : Build → BuildM β'}
    (h : ∀ b b', v.Mirrors b b' → v.Follows Q (f b) (f' b')) :
    v.Follows Q (get >>= f) (get >>= f') :=
  fun b b' hb => h b b' hb b b' hb

/-- Whether a step has failed is the same in both builds. -/
theorem follows_attempt {x : BuildM α} {x' : BuildM α'} (h : v.Follows R x x') :
    v.Follows (Matches R) (BuildM.attempt x) (BuildM.attempt x') :=
  copies_bind h fun _ _ hr => copies_pure (.ok hr)

theorem follows_liftState {x : StepM α} {x' : StepM α'} (h : v.Copies R x x') :
    v.Follows R (liftM x) (liftM x') :=
  copies_bind h fun _ _ hr => copies_pure (.ok hr)

theorem follows_liftExcept (x : Except Failure α) :
    v.Follows Eq (liftM x : BuildM α) (liftM x) := by
  cases x with
  | ok a => exact follows_pure rfl
  | error failure => exact follows_throw failure

theorem follows_modify {f f' : Build → Build} (hlog : ∀ b, b.log.notes ⊆ (f b).log.notes)
    (h : ∀ b b', v.Mirrors b b' → v.Mirrors (f b) (f' b')) :
    v.Follows Eq (modify f : BuildM PUnit) (modify f') :=
  follows_liftState (copies_modify hlog h)

end Rules

/-! ## Single steps -/

section Steps

variable {v} {b b' : Build}

theorem notes_subset_report (level : Log.Level) (text : String) (b : Build) :
    b.log.notes ⊆ (b.report level text).log.notes := by
  rw [Build.report, Log.notes_add]
  exact List.subset_append_left _ _

/-- Messages make no difference. -/
theorem follows_report (level : Log.Level) (text text' : String) :
    v.Follows Eq (BuildM.report level text) (BuildM.report level text') := by
  refine follows_modify (notes_subset_report level text) ?_
  exact fun b b' hb => ⟨hb.store, hb.schemaName_eq, hb.scope_eq, hb.diagnostics_eq⟩

theorem copies_report {level : Log.Level} {text text' : Build → String} :
    v.Copies Eq (modify fun b => b.report level (text b) : StepM PUnit)
      (modify fun b => b.report level (text' b)) := by
  refine copies_modify (fun b => notes_subset_report level _ b) ?_
  exact fun b b' hb => ⟨hb.store, hb.schemaName_eq, hb.scope_eq, hb.diagnostics_eq⟩

theorem Mirrors.skip (hb : v.Mirrors b b') (declaration : String) (failure : Failure) :
    v.Mirrors (b.skip declaration failure) (b'.skip declaration failure) :=
  ⟨hb.store, hb.schemaName_eq, hb.scope_eq, congrArg (· ++ [_]) hb.diagnostics_eq⟩

theorem notes_subset_skip (declaration : String) (failure : Failure) (b : Build) :
    b.log.notes ⊆ (b.skip declaration failure).log.notes := by
  rw [Build.skip, Log.notes_add]
  exact List.subset_append_left _ _

theorem follows_schemaName : v.Follows Eq BuildM.schemaName BuildM.schemaName := by
  refine copies_of_forall fun b b' hb => ⟨List.Subset.refl _, .ok ?_, hb⟩
  exact (congrArg Scope.schemaName hb.scope_eq).symm

theorem Mirrors.size_eq (hb : v.Mirrors b b') : b'.scope.size = b.scope.size := by
  rw [hb.scope_eq]
  exact OrderedMap.size_mapValues _ _

theorem follows_mark : v.Follows Eq BuildM.mark BuildM.mark := by
  refine copies_of_forall fun b b' hb => ⟨List.Subset.refl _, .ok ?_, hb⟩
  exact hb.size_eq.symm

theorem follows_rollback (mark : Nat) :
    v.Follows Eq (BuildM.rollback mark) (BuildM.rollback mark) := by
  refine copies_of_forall fun b b' hb => ⟨List.Subset.refl _, .ok ?_, ?_⟩
  · show b.scope.size - mark = b'.scope.size - mark
    rw [hb.size_eq]
  · refine ⟨hb.store, hb.schemaName_eq, ?_, hb.diagnostics_eq⟩
    show (b'.scope.truncate mark).2 = (b.scope.truncate mark).2.rename v.shift.ids
    rw [hb.scope_eq]
    exact congrArg (Scope.mk _) (OrderedMap.take_mapValues _ _ _)

theorem follows_addSimple {t t' : SimpleType} (h : t' = t.rename v.shift.ids) :
    v.Follows v.SameType (BuildM.addSimple t) (BuildM.addSimple t') := by
  subst h
  refine copies_of_forall fun b b' hb => ⟨List.Subset.refl _, .ok ?_, ?_⟩
  · exact congrArg TypeRef.simple (hb.store.addSimple t).1
  · exact ⟨(hb.store.addSimple t).2, hb.schemaName_eq, hb.scope_eq, hb.diagnostics_eq⟩

theorem follows_addList {t t' : ListType} (h : t' = t.rename v.shift.ids) :
    v.Follows v.SameType (BuildM.addList t) (BuildM.addList t') := by
  subst h
  refine copies_of_forall fun b b' hb => ⟨List.Subset.refl _, .ok ?_, ?_⟩
  · exact congrArg TypeRef.list (hb.store.addList t).1
  · exact ⟨(hb.store.addList t).2, hb.schemaName_eq, hb.scope_eq, hb.diagnostics_eq⟩

theorem follows_addComplex {t t' : ComplexType} (h : t' = t.rename v.shift.ids) :
    v.Follows v.SameTarget (BuildM.addComplex t) (BuildM.addComplex t') := by
  subst h
  refine copies_of_forall fun b b' hb => ⟨List.Subset.refl _, .ok ⟨?_, ?_⟩, ?_⟩
  · exact fun hhas => Store.not_has_addComplex t (hb.store.grows.has _ hhas)
  · exact (hb.store.addComplex t).1
  · exact ⟨(hb.store.addComplex t).2, hb.schemaName_eq, hb.scope_eq, hb.diagnostics_eq⟩

/-- What a name means in the scope is the same type. -/
theorem Mirrors.lookupLocal?_eq (hb : v.Mirrors b b') (n : String) :
    b'.scope.lookupLocal? n = (b.scope.lookupLocal? n).map (·.rename v.shift.ids) := by
  rw [hb.scope_eq]
  exact OrderedMap.get?_mapValues _ _ _

theorem Mirrors.replace (hb : v.Mirrors b b') (t : TypeRef) :
    v.Mirrors (b.replace t) (b'.replace (t.rename v.shift.ids)) := by
  refine ⟨hb.store, hb.schemaName_eq, ?_, hb.diagnostics_eq⟩
  show b'.scope.replace b'.store _ = _
  rw [Scope.replace, hb.store.nameOf_eq, hb.scope_eq]
  exact congrArg (Scope.mk _) (OrderedMap.insert_mapValues _ _ _ _)

theorem follows_register {t t' : TypeRef} (h : v.SameType t t') :
    v.Follows Eq (BuildM.register t) (BuildM.register t') := by
  subst h
  apply follows_of_ends
  intro b b' hb
  have hname := hb.store.nameOf_eq t
  have hlocal := hb.lookupLocal?_eq (b.store.nameOf t)
  rw [← hname] at hlocal
  cases hn : b.scope.lookupLocal? (b.store.nameOf t) with
  | none =>
    rw [hname, hn, ← hname] at hlocal
    rw [ends_register_of_none hn, ends_register_of_none hlocal]
    exact ⟨rfl, .ok rfl, hb.replace t⟩
  | some other =>
    rw [hname, hn, ← hname] at hlocal
    by_cases heq : other = t
    · subst heq
      rw [ends_register_of_self hn, ends_register_of_self hlocal]
      exact ⟨rfl, .ok rfl, hb⟩
    · have hne : other.rename v.shift.ids ≠ t.rename v.shift.ids := by simpa using heq
      rw [ends_register_of_other hn heq, ends_register_of_other hlocal hne, hname]
      exact ⟨rfl, .error _, hb⟩

/-- A field is added to a type that the build has made. -/
theorem copies_addField {target target' : ComplexId} {f f' : Field}
    (ht : v.SameTarget target target') (hf : v.SameField f f') :
    v.Copies Eq (modify (Build.addField target f) : StepM PUnit)
      (modify (Build.addField target' f')) := by
  obtain ⟨hnew, rfl⟩ := ht
  subst hf
  refine copies_modify (fun _ => List.Subset.refl _) fun b b' hb => ?_
  exact ⟨hb.store.addField hnew f, hb.schemaName_eq, hb.scope_eq, hb.diagnostics_eq⟩

/-- Complex types are opened in both builds, below the same super type. -/
theorem follows_openComplex (name : String) {super super' : Option ComplexId}
    (h : v.SameSuper super super') :
    v.Follows v.SameTarget (BuildM.openComplex name super) (BuildM.openComplex name super') := by
  subst h
  unfold BuildM.openComplex
  refine follows_bind follows_schemaName fun _ schema heq => ?_
  subst heq
  refine follows_bind (follows_addComplex rfl) fun id id' hid => ?_
  obtain ⟨hnew, rfl⟩ := hid
  refine follows_bind (follows_register rfl) fun _ _ _ => ?_
  exact follows_pure ⟨hnew, rfl⟩

end Steps

end Rerun

end SchemaBinding.Binding
