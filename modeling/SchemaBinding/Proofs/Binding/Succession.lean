import Mathlib.Data.List.Infix
import SchemaBinding.Proofs.Binding.Reached

/-!
# Successive builds

Whatever a build is like, sound or not, no step of it takes away a type that was made or a name that
was known before the step. What a step puts under a name is always a type that is made in the step;
this also holds where types that fail are dropped from the scope, and where a list takes the place
of a complex type.

## Main definitions

* `Build.Precedes`: one build comes before another one
* `Proceeds`: a loader that leaves builds which come after

## Main results

* `Build.Precedes.put`, `Build.Precedes.truncated`, …: single changes
* `precedes_addParticles`, `precedes_addContent`: content
* `precedes_buildComplex`, `precedes_buildType`: new types
* `proceeds_loadWithin`, `Reached.precedes`: binding types, and all moments of a build
-/

namespace SchemaBinding.Binding

open Repository (ComplexId ComplexType Field ListType SimpleType Store TypeRef)
open Xsd (AttributeUse ElementDeclaration Occurs Particle SchemaSet TypeDefinition TypeId)

/-- One build comes before another one: the types that it has made are still there, the names that
it knows are still known, in the same order, and a name only comes to mean another type if that type
is made in between. -/
structure Build.Precedes (b b' : Build) : Prop where
  has : ∀ t, b.store.Has t → b'.store.Has t
  keys_prefix : b.scope.locals.keys <+: b'.scope.locals.keys
  new : ∀ n t, b'.scope.lookupLocal? n = some t →
    b.scope.lookupLocal? n = some t ∨ ¬ b.store.Has t

/-- An insertion takes no key away, and changes the order of none. -/
theorem keys_prefix_insert {κ α : Type} [DecidableEq κ] (m : OrderedMap κ α) (k : κ) (v : α) :
    m.keys <+: (m.insert k v).keys := by
  by_cases hk : k ∈ m.keys
  · rw [OrderedMap.keys_insert_of_mem v hk]
  · unfold OrderedMap.keys
    rw [OrderedMap.entries_insert_of_not_mem v hk, List.map_append]
    exact List.prefix_append _ _

/-- What a name means is under a key. -/
theorem mem_keys_of_lookupLocal? {scope : Repository.Scope} {n : String} {t : TypeRef}
    (h : scope.lookupLocal? n = some t) : n ∈ scope.locals.keys :=
  List.mem_map_of_mem (OrderedMap.get?_eq_some_iff.mp h)

/-- A name is free in a scope if no type of the scope has it. -/
theorem lookupLocal?_eq_none_iff {scope : Repository.Scope} {n : String} :
    scope.lookupLocal? n = none ↔ n ∉ scope.locals.keys :=
  OrderedMap.get?_eq_none_iff

/-- A further field makes no type. -/
theorem has_addField (store : Store) (id : ComplexId) (field : Field) (t : TypeRef) :
    (store.addField id field).Has t ↔ store.Has t := by
  cases t with
  | complex c => simp [Store.Has, Store.addField]
  | primitive | simple | list => exact Iff.rfl

namespace Build.Precedes

variable {b b' b'' : Build} {t : TypeRef}

theorem refl (b : Build) : b.Precedes b := ⟨fun _ h => h, List.prefix_rfl, fun _ _ h => .inl h⟩

theorem trans (h : b.Precedes b') (h' : b'.Precedes b'') : b.Precedes b'' where
  has t ht := h'.has t (h.has t ht)
  keys_prefix := h.keys_prefix.trans h'.keys_prefix
  new n t ht := (h'.new n t ht).elim (h.new n t) fun hnew => .inr fun hold => hnew (h.has t hold)

/-- A type that is not there later was not there before. -/
theorem not_has (h : b.Precedes b') (ht : ¬ b'.store.Has t) : ¬ b.store.Has t :=
  fun hold => ht (h.has t hold)

/-- Names of types stay taken. -/
theorem mem_keys (h : b.Precedes b') {n : String} (hn : n ∈ b.scope.locals.keys) :
    n ∈ b'.scope.locals.keys :=
  h.keys_prefix.subset hn

/-- Types may be made without coming into the scope. -/
theorem made (h : b.Precedes b') (hstore : ∀ t, b'.store.Has t → b''.store.Has t)
    (hscope : b''.scope = b'.scope) : b.Precedes b'' where
  has t ht := hstore t (h.has t ht)
  keys_prefix := hscope ▸ h.keys_prefix
  new := hscope ▸ h.new

/-- Messages and diagnostics make no difference. -/
theorem quiet (h : b.Precedes b') (hstore : b''.store = b'.store)
    (hscope : b''.scope = b'.scope) : b.Precedes b'' :=
  h.made (fun _ ht => hstore.symm ▸ ht) hscope

/-- A new type may be put under its name. -/
theorem put (h : b.Precedes b') (ht : ¬ b.store.Has t) : b.Precedes (b'.replace t) where
  has := h.has
  keys_prefix := h.keys_prefix.trans (keys_prefix_insert _ _ _)
  new n u hu := by
    have hlookup := Repository.Scope.lookupLocal?_replace b'.store b'.scope t n
    rw [show (b'.replace t).scope = b'.scope.replace b'.store t from rfl, hlookup] at hu
    split at hu
    · cases hu
      exact .inr ht
    · exact h.new n u hu

/-- The scope may be cut down to a size that it had. -/
theorem truncated (h : b.Precedes b') {size : Nat} (hsize : b.scope.size ≤ size) :
    b.Precedes { b' with scope := (b'.scope.truncate size).2 } where
  has := h.has
  keys_prefix := by
    show b.scope.locals.keys <+: (b'.scope.locals.entries.take size).map Prod.fst
    rw [List.map_take]
    refine List.prefix_take_iff.mpr ⟨h.keys_prefix, ?_⟩
    exact (List.length_map _).trans_le hsize
  new n u hu := by
    apply h.new n u
    have hmem : (n, u) ∈ b'.scope.locals.entries.take size := OrderedMap.get?_eq_some_iff.mp hu
    exact OrderedMap.get?_eq_some_iff.mpr (List.mem_of_mem_take hmem)

theorem addField (h : b.Precedes b') (target : ComplexId) (field : Field) :
    b.Precedes (b'.addField target field) :=
  h.made (fun t ht => (has_addField _ _ _ t).mpr ht) rfl

end Build.Precedes

/-! ## Single steps -/

section Steps

variable {b b' : Build}

/-- Whether a new type can be put into the scope or not, the build comes after. -/
theorem precedes_register (h : b.Precedes b') {t : TypeRef} (ht : ¬ b.store.Has t) :
    Ends b' (BuildM.register t) fun _ b'' => b.Precedes b'' := by
  cases hl : b'.scope.lookupLocal? (b'.store.nameOf t) with
  | none =>
    rw [ends_register_of_none hl]
    exact h.put ht
  | some other =>
    by_cases ho : other = t
    · subst ho
      rw [ends_register_of_self hl]
      exact h
    · rw [ends_register_of_other hl ho]
      exact h

/-- A complex type that is opened is new, and its name is known from then on. -/
theorem precedes_openComplex (name : String) (super : Option ComplexId) :
    Ends b (BuildM.openComplex name super) fun r b' => b.Precedes b' ∧
      ∀ c, r = .ok c → ¬ b.store.Has (.complex c) ∧ name ∈ b'.scope.locals.keys := by
  have hmade : b.Precedes (b.withStub name super) :=
    (Build.Precedes.refl b).made (Store.grows_addComplex _).has rfl
  have hnew := b.not_has_nextComplex name super
  have hname := b.nameOf_nextComplex name super
  have hregister : Ends (b.withStub name super)
      (BuildM.register (.complex (b.nextComplex name super))) fun r b' => b.Precedes b' ∧
        ∀ u, r = .ok u → name ∈ b'.scope.locals.keys := by
    refine (precedes_register hmade hnew).and ?_
    rw [ends_register]
    split
    · next scope hs =>
      intro _ _
      exact hname ▸ mem_keys_of_lookupLocal? (Repository.Scope.lookupLocal?_of_register hs)
    · exact ok_of_error
  unfold BuildM.openComplex
  simp only [ends_bind, ends_schemaName, ends_addComplex]
  apply hregister.mono
  rintro (failure | u) b₁ ⟨hb₁, hkey⟩
  · exact ⟨hb₁, ok_of_error⟩
  · refine ⟨hb₁, ?_⟩
    rintro _ ⟨⟩
    exact ⟨hnew, hkey u rfl⟩

end Steps

/-- A loader leaves builds that come after those in which it is run. -/
def Proceeds (load : Loader) : Prop :=
  ∀ b id fieldName, Ends b (load id fieldName) fun _ b' => b.Precedes b'

variable {setting : Setting} {load : Loader} {b b' : Build} {target : ComplexId}

/-! ## Content -/

section Content

theorem precedes_addFieldOrSkip (name : String) {field : BuildM Field}
    (hfield : Ends b field fun _ b' => b.Precedes b') :
    Passes b (addFieldOrSkip target name field) fun _ b' => b.Precedes b' := by
  unfold addFieldOrSkip
  rw [passes_bind, passes_run]
  apply hfield.mono
  rintro (failure | f) b₁ h
  · exact h.quiet rfl rfl
  · exact h.addField target f

/-- The items of a repeated group go again if their content cannot be made. -/
theorem precedes_groupEntry (occurs : Occurs) {fill : ComplexId → BuildM TypeRef}
    (hfill : ∀ b item, Ends b (fill item) fun _ b' => b.Precedes b') :
    Ends b (groupEntry target occurs fill) fun _ b' => b.Precedes b' := by
  refine ends_groupEntry ((precedes_openComplex _ _).mono ?_)
  rintro r b₁ ⟨h, -⟩
  refine ⟨fun _ _ => h, fun item _ => (hfill b₁ item).mono fun r b₂ h' => ?_⟩
  exact ⟨fun _ _ => (h.trans h').truncated le_rfl,
    fun _ _ => (h.trans h').made (Store.grows_addList _).has rfl⟩

variable (hload : Proceeds load)
include hload

theorem precedes_elementEntry (occurs : Occurs) (e : ElementDeclaration) :
    Ends b (elementEntry load occurs e) fun _ b' => b.Precedes b' := by
  refine ends_elementEntry ((hload b e.type e.name).mono fun r b₁ h => ⟨fun _ _ => h, ?_⟩)
  exact fun _ _ => ⟨fun _ => h.made (Store.grows_addList _).has rfl, fun _ => h⟩

/-- The list that takes the place of a complex type is new. -/
theorem precedes_promote (occurs : Occurs) (e : ElementDeclaration) :
    Ends b (promote load target occurs e) fun r b' => b.Precedes b' ∧
      ∀ t, r = .ok t → ¬ b.store.Has t := by
  refine ends_promote ((hload b e.type e.name).mono fun r b₁ h =>
    ⟨fun _ _ => ⟨h, ok_of_error⟩, fun item _ => ?_⟩)
  let l := b₁.promotedList occurs e item target
  have hnew : ¬ b.store.Has (.list (b₁.store.addList l).1) :=
    h.not_has (Store.not_has_addList l)
  have hmade : b.Precedes (b₁.withPromoted occurs e item target) :=
    h.made (Store.grows_addList l).has rfl
  refine ⟨hmade.put hnew, ?_⟩
  rintro _ ⟨⟩
  exact hnew

/-- Content is made into fields of the type that is open, or into a new list. -/
theorem precedes_addContent_of {children : List Particle}
    (hps : ∀ b target, Passes b (addParticles setting load target children) fun _ b' =>
      b.Precedes b') :
    Ends b (addContent setting load target children) fun r b' => b.Precedes b' ∧
      ∀ t, r = .ok t → t = .complex target ∨ ¬ b.store.Has t := by
  unfold addContent
  rw [ends_bind, ends_get]
  dsimp only
  split
  · exact (precedes_promote hload _ _).mono fun _ _ h => ⟨h.1, fun t ht => .inr (h.2 t ht)⟩
  · rw [ends_bind, ends_liftState]
    apply (hps b target).mono
    intro _ b₁ h
    refine ⟨h, ?_⟩
    rintro _ ⟨⟩
    exact .inl rfl

end Content

mutual

/-- Adding a particle takes no type away, by recursion on the particle. -/
theorem precedes_addParticle {b : Build} {target : ComplexId} (hload : Proceeds load)
    (p : Particle) :
    Passes b (addParticle setting load target p) fun _ b' => b.Precedes b' := by
  match p with
  | .element occurs id =>
    unfold addParticle
    exact precedes_addFieldOrSkip _ (precedes_elementEntry hload occurs _)
  | .group occurs compositor children =>
    unfold addParticle
    split
    · rw [passes_bind, passes_get]
      refine precedes_addFieldOrSkip _ (precedes_groupEntry occurs fun b item => ?_)
      exact (precedes_addContent_of hload
        fun b target => precedes_addParticles hload children).mono fun _ _ h => h.1
    · exact precedes_addParticles hload children
  | .wildcard occurs =>
    unfold addParticle
    exact (Build.Precedes.refl b).quiet rfl rfl

theorem precedes_addParticles {b : Build} {target : ComplexId} (hload : Proceeds load)
    (ps : List Particle) :
    Passes b (addParticles setting load target ps) fun _ b' => b.Precedes b' := by
  match ps with
  | [] =>
    unfold addParticles
    exact .refl b
  | p :: ps =>
    unfold addParticles
    rw [passes_bind]
    apply (precedes_addParticle hload p).mono
    intro _ b₁ h
    exact (precedes_addParticles hload ps).mono fun _ _ h' => h.trans h'

end

/-! ## Types -/

section Types

variable (hload : Proceeds load) (schemas : SchemaSet) (id : TypeId) (name : String)
include hload

theorem precedes_addContent (children : List Particle) :
    Ends b (addContent setting load target children) fun r b' => b.Precedes b' ∧
      ∀ t, r = .ok t → t = .complex target ∨ ¬ b.store.Has t :=
  precedes_addContent_of hload fun _ _ => precedes_addParticles hload children

theorem precedes_makeContent (definition : Xsd.ComplexType) :
    Ends b (makeContent setting load definition target) fun r b' => b.Precedes b' ∧
      ∀ t, r = .ok t → t = .complex target ∨ ¬ b.store.Has t := by
  have hself : b.Precedes b ∧ ∀ t, (.ok (.complex target) : Except Failure TypeRef) = .ok t →
      t = .complex target ∨ ¬ b.store.Has t :=
    ⟨.refl b, fun t ht => .inl (Except.ok.inj ht).symm⟩
  unfold makeContent
  split
  · exact hself
  · exact hself
  · exact precedes_addContent hload _
  · exact ⟨.refl b, ok_of_error⟩

theorem precedes_addAttributes (uses : List AttributeUse) :
    Ends b (addAttributes schemas load target uses) fun _ b' => b.Precedes b' := by
  induction uses generalizing b with
  | nil => exact .refl b
  | cons use uses ih =>
    unfold addAttributes
    simp only [ends_bind, ends_attempt]
    apply (hload b _ _).mono
    rintro (failure | t) b₁ h
    · exact h
    · exact ih.mono fun _ _ h' => (h.addField target _).trans h'

theorem precedes_makeAttributes (definition : Xsd.ComplexType) (type : TypeRef) :
    Ends b (makeAttributes setting load id definition target type) fun _ b' => b.Precedes b' := by
  unfold makeAttributes
  rw [ends_bind, ends_get]
  dsimp only
  split
  · split
    · exact (Build.Precedes.refl b).quiet rfl rfl
    · exact .refl b
  · exact precedes_addAttributes hload _ _

/-- A type that is filled stays what it is, or becomes a list that has not been there. -/
theorem precedes_fillComplex (definition : Xsd.ComplexType) :
    Ends b (fillComplex setting load id definition target) fun r b' => b.Precedes b' ∧
      ∀ t, r = .ok t → t = .complex target ∨ ¬ b.store.Has t := by
  unfold fillComplex
  rw [ends_bind]
  apply (precedes_makeContent hload definition).mono
  rintro (failure | type) b₁ ⟨h, hnew⟩
  · exact ⟨h, ok_of_error⟩
  · dsimp only
    rw [ends_bind]
    apply (precedes_makeAttributes hload id definition type).mono
    rintro (failure | _) b₂ h'
    · exact ⟨h.trans h', ok_of_error⟩
    · exact ⟨h.trans h', hnew⟩

theorem precedes_simpleSuper :
    Ends b (simpleSuper schemas load id name) fun _ b' => b.Precedes b' :=
  ends_simpleSuper (.refl b) ((hload b _ name).mono fun _ _ h =>
    ⟨fun _ _ => h, fun _ _ => h.quiet rfl rfl⟩)

theorem precedes_complexSuper :
    Ends b (complexSuper schemas load id name) fun _ b' => b.Precedes b' :=
  ends_complexSuper (.refl b) fun _ => (hload b _ name).mono fun _ _ h =>
    ⟨fun _ _ => h, fun _ _ => h.quiet rfl rfl⟩

theorem precedes_buildSimple (definition : Xsd.SimpleType) :
    Ends b (buildSimple schemas load id name definition) fun r b' => b.Precedes b' ∧
      ∀ t, r = .ok t → ¬ b.store.Has t := by
  refine ends_buildSimple (precedes_simpleSuper hload schemas id name) ?_ ?_ ?_
  · exact fun failure b₁ h => ⟨h, ok_of_error⟩
  · exact fun super b₁ failure h _ => ⟨h, ok_of_error⟩
  · intro super b₁ restrictions h _ _
    refine ⟨h.made (Store.grows_addSimple _).has rfl, ?_⟩
    rintro _ ⟨⟩
    exact h.not_has (Store.not_has_addSimple _)

omit hload in
theorem precedes_buildList (definition : TypeDefinition) (item : TypeId) :
    Ends b (buildList setting definition item) fun r b' => b.Precedes b' ∧
      ∀ t, r = .ok t → ¬ b.store.Has t := by
  refine ends_buildList ⟨.refl b, ok_of_error⟩ (fun _ => ⟨.refl b, ok_of_error⟩) ?_
  intro n type _ _
  refine ⟨(Build.Precedes.refl b).made (Store.grows_addList _).has rfl, ?_⟩
  rintro _ ⟨⟩
  exact Store.not_has_addList _

/-- What a complex type leaves when it could be built is new; when it could not, the scope is cut
down to what it was when the type was opened. -/
theorem precedes_buildComplex (definition : Xsd.ComplexType) :
    Ends b (buildComplex setting load id name definition) fun r b' => b.Precedes b' ∧
      ∀ t, r = .ok t → ¬ b.store.Has t := by
  unfold buildComplex
  rw [ends_bind]
  apply (precedes_complexSuper hload _ id name).mono
  rintro (failure | super) b₁ h
  · exact ⟨h, ok_of_error⟩
  · simp only [ends_bind, ends_mark]
    apply (precedes_openComplex name super).mono
    rintro (failure | target) b₂ ⟨h', hopen⟩
    · exact ⟨h.trans h', ok_of_error⟩
    · simp only [ends_attempt]
      apply (precedes_fillComplex hload id definition).mono
      rintro (failure | type) b₃ ⟨h'', hnew⟩
      · simp only [ends_bind, ends_rollback, ends_report, ends_throw]
        have hback := (h'.trans h'').truncated (le_refl b₁.scope.size)
        exact ⟨(h.trans hback).quiet rfl rfl, ok_of_error⟩
      · refine ⟨(h.trans h').trans h'', ?_⟩
        rintro _ ⟨⟩
        rcases hnew type rfl with rfl | htype
        · exact h.not_has (hopen target rfl).1
        · exact (h.trans h').not_has htype

/-- A type that is built is new, of whatever kind it is. -/
theorem precedes_buildType :
    Ends b (buildType setting load id name) fun r b' => b.Precedes b' ∧
      ∀ t, r = .ok t → ¬ b.store.Has t := by
  unfold buildType
  dsimp only
  split
  · exact precedes_buildComplex hload id name _
  · split
    · exact precedes_buildList _ _
    · exact precedes_buildSimple hload _ id name _
    · exact precedes_buildSimple hload _ id name _

end Types

/-- One step of binding goes on from where the build is, if binding the types it needs does. -/
theorem proceeds_loadStep (hload : Proceeds load) : Proceeds (loadStep setting load) := by
  intro b id fieldName
  refine ends_loadStep (fun _ _ => .refl b) (fun _ _ _ _ => .refl b) (fun _ _ _ _ => .refl b) ?_
  intro name _ _ _
  rw [ends_bind]
  apply (precedes_buildType hload id name).mono
  rintro (failure | t) b₁ ⟨h, hnew⟩
  · exact h
  · dsimp only
    rw [ends_bind]
    apply (precedes_register h (hnew t rfl)).mono
    rintro (failure | _) b₂ h'
    · exact h'
    · exact h'

/-- By induction on the depth that is left. -/
theorem proceeds_loadWithin (depth : Nat) : Proceeds (loadWithin setting depth) := by
  induction depth with
  | zero => exact fun b _ _ => .refl b
  | succ depth ih => exact proceeds_loadStep ih

/-- All moments of a build come after its first one. -/
theorem Reached.precedes {first : Build} (h : Reached setting first b) : first.Precedes b := by
  induction h with
  | start => exact .refl first
  | loaded depth id fieldName _ ih => exact ih.trans (proceeds_loadWithin depth _ id fieldName)
  | reported _ hstore hscope ih => exact ih.quiet hstore hscope
  | @opened b depth id _ name _ _ _ _ _ ih =>
    refine ih.trans (show Ends b (openNamed setting depth id name) fun _ b' => b.Precedes b' from ?_)
    unfold openNamed
    rw [ends_bind]
    apply (precedes_complexSuper (proceeds_loadWithin depth) _ id name).mono
    rintro (failure | super) b₁ h
    · exact h
    · exact (precedes_openComplex name super).mono fun _ _ h' => h.trans h'.1
  | @openedItem b target _ _ _ _ ih =>
    refine ih.trans (show Ends b (openItem target) fun _ b' => b.Precedes b' from ?_)
    unfold openItem
    rw [ends_bind, ends_get]
    exact (precedes_openComplex _ _).mono fun _ _ h => h.1
  | particle depth target p _ _ ih =>
    exact ih.trans (precedes_addParticle (proceeds_loadWithin depth) p)
  | used depth target use _ _ ih =>
    exact ih.trans (precedes_addAttributes (proceeds_loadWithin depth) _ [use])

end SchemaBinding.Binding
