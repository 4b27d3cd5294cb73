import Mathlib.Data.Finset.Card
import Mathlib.Data.Prod.Lex
import Mathlib.Logic.Function.Iterate
import Mathlib.Logic.Relation
import Mathlib.Order.WellFounded
import SchemaBinding.Proofs.Binding.Agreement
import SchemaBinding.Proofs.Binding.Collision
import SchemaBinding.Proofs.Binding.Succession
import SchemaBinding.Proofs.Xsd.Bases

/-!
# Binding types comes to an end

Whatever is in the registry and in the scope, no chain of calls goes on for ever. A call leads on to
a part of some content, to the base of a type, or, when a complex type has been opened, to what it
is made of; then the name of the type is known, which was not known before. Names that are known
stay known, so there are as many such steps at most as there are complex types, and between two of
them there are no more than the bases of a type and the parts of its content. It follows that the
depth to which types are bound is never used up: what there is at the bottom makes no difference.

## Main definitions

* `Frame`: a call that binds a definition, or makes particles
* `Calls`: the calls that a call makes
* `unknown`: how many names of complex types are not known yet

## Main results

* `Calls.extent_lt`: every call makes smaller ones
* `agrees_loadStep_of_calls`: binding a definition asks nothing of a loader but these calls
* `load_terminates`: binding types comes to an end, and the depth is not used up
-/

namespace SchemaBinding.Binding

open Relation (TransGen)
open Xsd (AttributeUse ElementId Occurs Particle SchemaSet TypeId)
open Xsd.Particle (Contains)

/-- A call, with the build in which it begins: it binds a definition, or makes the fields of
particles. -/
inductive Frame where
  | type (id : TypeId) (fieldName : String) (b : Build)
  | content (ps : List Particle) (b : Build)

/-- The calls that a call makes. The first is the one that calls. -/
inductive Calls (setting : Setting) : Frame → Frame → Prop
  /-- Up the chain of bases. -/
  | base {id : TypeId} {fieldName name : String} {b : Build} : Fresh setting id fieldName b name →
      setting.set.baseOf id ≠ id →
      Calls setting (.type id fieldName b) (.type (setting.set.baseOf id) name b)
  /-- The content of a complex type is made when its name is known. -/
  | content {id : TypeId} {fieldName name : String} {b b' : Build}
      {definition : Xsd.ComplexType} : Fresh setting id fieldName b name →
      (setting.set.type id).kind = .complex definition →
      b.Precedes b' → name ∈ b'.scope.locals.keys →
      Calls setting (.type id fieldName b) (.content (particlesOf definition) b')
  /-- Its attributes are added when its name is known. -/
  | use {id : TypeId} {fieldName name : String} {b b' : Build}
      {definition : Xsd.ComplexType} {hasSuper : Bool} {use : AttributeUse} :
      Fresh setting id fieldName b name → (setting.set.type id).kind = .complex definition →
      use ∈ attributesToAdd setting.set id hasSuper →
      b.Precedes b' → name ∈ b'.scope.locals.keys →
      Calls setting (.type id fieldName b)
        (.type (setting.set.attr use.declaration).type (setting.set.attr use.declaration).name b')
  /-- The type of an element among particles. -/
  | element {ps : List Particle} {occurs : Occurs} {e : ElementId} {b b' : Build} :
      .element occurs e ∈ ps → b.Precedes b' →
      Calls setting (.content ps b)
        (.type (setting.set.element e).type (setting.set.element e).name b')
  /-- The particles of a group among particles. -/
  | group {ps children : List Particle} {occurs : Occurs} {compositor : Xsd.Compositor}
      {b b' : Build} : .group occurs compositor children ∈ ps → b.Precedes b' →
      Calls setting (.content ps b) (.content children b')

/-! ## What gets smaller -/

/-- Whether a definition is that of a complex type whose name is not known yet. -/
def IsUnknown (set : SchemaSet) (b : Build) (id : TypeId) : Prop :=
  (set.type id).isComplex = true ∧
    match typeName set (set.type id) "" with
    | .ok name => name ∉ b.scope.locals.keys
    | .error _ => False

instance (set : SchemaSet) (b : Build) (id : TypeId) : Decidable (IsUnknown set b id) := by
  unfold IsUnknown
  split <;> infer_instance

/-- How many names of complex types are not known yet. -/
def unknown (set : SchemaSet) (b : Build) : Nat :=
  ((Finset.range set.types.size).filter fun i => IsUnknown set b ⟨i⟩).card

/-- What a call has still before it: names, and then bases or parts of content. Content comes before
the bases of the types of its elements. -/
noncomputable def Frame.extent (set : SchemaSet) : Frame → ℕ ×ₗ ℕ
  | .type id _ b => toLex (unknown set b, set.baseDepth id)
  | .content ps b => toLex (unknown set b, set.types.size + sizeOf ps)

section Unknown

variable {set : SchemaSet} {b b' : Build} {id : TypeId}

/-- The name of a complex type does not depend on the field that it is bound for. -/
theorem typeName_of_complex {t : Xsd.TypeDefinition} {definition : Xsd.ComplexType}
    (h : t.kind = .complex definition) (fieldName fieldName' : String) :
    typeName set t fieldName = typeName set t fieldName' := by
  unfold typeName
  rw [h]
  cases t.name <;> rfl

theorem IsUnknown.of_precedes (h : b.Precedes b') (hid : IsUnknown set b' id) :
    IsUnknown set b id := by
  unfold IsUnknown at hid ⊢
  refine ⟨hid.1, ?_⟩
  split at hid
  · exact fun hn => hid.2 (h.mem_keys hn)
  · exact hid.2

theorem filter_unknown_subset (h : b.Precedes b') :
    ((Finset.range set.types.size).filter fun i => IsUnknown set b' ⟨i⟩) ⊆
      (Finset.range set.types.size).filter fun i => IsUnknown set b ⟨i⟩ :=
  Finset.monotone_filter_right _ fun _ _ => IsUnknown.of_precedes h

/-- Names that are known stay known. -/
theorem unknown_le (set : SchemaSet) (h : b.Precedes b') : unknown set b' ≤ unknown set b :=
  Finset.card_le_card (filter_unknown_subset h)

theorem unknown_le_size (set : SchemaSet) (b : Build) : unknown set b ≤ set.types.size :=
  (Finset.card_filter_le _ _).trans (Finset.card_range _).le

variable {setting : Setting} {fieldName name : String}

/-- A definition for which a type is to be built is there. -/
theorem Fresh.index_lt (h : Fresh setting id fieldName b name) :
    id.index < setting.set.types.size := by
  by_contra hid
  apply h.not_builtin
  unfold SchemaSet.type
  rw [Array.getElem?_eq_none (Nat.le_of_not_lt hid)]
  rfl

/-- When the name of a type has become known for which a type is to be built, there are fewer
unknown ones. -/
theorem Fresh.unknown_lt (h : Fresh setting id fieldName b name)
    {definition : Xsd.ComplexType} (hkind : (setting.set.type id).kind = .complex definition)
    (hb : b.Precedes b') (hname : name ∈ b'.scope.locals.keys) :
    unknown setting.set b' < unknown setting.set b := by
  have htype : typeName setting.set (setting.set.type id) "" = .ok name :=
    (typeName_of_complex hkind "" fieldName).trans h.typeName_eq
  have hnew : name ∉ b.scope.locals.keys :=
    lookupLocal?_eq_none_iff.mp (lookup?_eq_none_iff.mp h.lookup_eq).2
  have hcomplex : (setting.set.type id).isComplex = true := by
    simp [Xsd.TypeDefinition.isComplex, Xsd.TypeDefinition.isSimple, hkind]
  apply Finset.card_lt_card
  refine (Finset.ssubset_iff_of_subset (filter_unknown_subset hb)).mpr ⟨id.index, ?_, ?_⟩
  · refine Finset.mem_filter.mpr ⟨Finset.mem_range.mpr h.index_lt, ?_⟩
    unfold IsUnknown
    rw [htype]
    exact ⟨hcomplex, hnew⟩
  · intro hm
    have hunknown : IsUnknown setting.set b' id := (Finset.mem_filter.mp hm).2
    unfold IsUnknown at hunknown
    rw [htype] at hunknown
    exact hunknown.2 hname

end Unknown

section Calls

variable {setting : Setting}

/-- Every call makes smaller ones. -/
theorem Calls.extent_lt (hset : setting.set.Rooted) {outer inner : Frame}
    (h : Calls setting outer inner) : inner.extent setting.set < outer.extent setting.set := by
  rw [Prod.Lex.lt_iff]
  cases h with
  | base hf hne => exact .inr ⟨rfl, hset.baseDepth_lt hf.index_lt hne⟩
  | content hf hkind hb hname => exact .inl (hf.unknown_lt hkind hb hname)
  | use hf hkind _ hb hname => exact .inl (hf.unknown_lt hkind hb hname)
  | @element ps occurs e b b' hm hb =>
    rcases (unknown_le setting.set hb).lt_or_eq with hlt | heq
    · exact .inl hlt
    · refine .inr ⟨heq, ?_⟩
      have hpos : 0 < sizeOf ps := (Nat.zero_le _).trans_lt (List.sizeOf_lt_of_mem hm)
      exact (setting.set.baseDepth_le _).trans_lt (Nat.lt_add_of_pos_right hpos)
  | @group ps children occurs compositor b b' hm hb =>
    rcases (unknown_le setting.set hb).lt_or_eq with hlt | heq
    · exact .inl hlt
    · refine .inr ⟨heq, Nat.add_lt_add_left ?_ _⟩
      have hgroup := List.sizeOf_lt_of_mem hm
      simp only [Particle.group.sizeOf_spec] at hgroup
      omega

theorem wellFounded_calls (hset : setting.set.Rooted) :
    WellFounded fun inner outer => Calls setting outer inner :=
  Subrelation.wf (fun h => Calls.extent_lt hset h)
    (InvImage.wf (Frame.extent setting.set) wellFounded_lt)

/-- How deep a call that binds a definition may lead. -/
def rank (set : SchemaSet) (b : Build) (id : TypeId) : Nat :=
  unknown set b * (set.types.size + 1) + set.baseDepth id

theorem rank_lt_depthOf (set : SchemaSet) (b : Build) (id : TypeId) :
    rank set b id < depthOf set := by
  have hunknown := Nat.mul_le_mul_right (set.types.size + 1) (unknown_le_size set b)
  have hbase := set.baseDepth_le id
  unfold rank depthOf
  rw [Nat.add_mul, Nat.one_mul]
  omega

/-- Calls that are made through other calls lead less deep, too. -/
theorem rank_lt_of_calls (hset : setting.set.Rooted) {id id' : TypeId}
    {fieldName fieldName' : String} {b b' : Build}
    (h : TransGen (Calls setting) (.type id fieldName b) (.type id' fieldName' b')) :
    rank setting.set b' id' < rank setting.set b id := by
  have hlt : ∀ {outer inner}, TransGen (Calls setting) outer inner →
      inner.extent setting.set < outer.extent setting.set := by
    intro outer inner h
    induction h with
    | single h => exact h.extent_lt hset
    | tail _ h ih => exact (h.extent_lt hset).trans ih
  have hbase' := setting.set.baseDepth_le id'
  unfold rank
  rcases Prod.Lex.lt_iff.mp (hlt h) with hunknown | ⟨heq, hbase⟩
  · have hmul := Nat.mul_le_mul_right (setting.set.types.size + 1) (Nat.succ_le_of_lt hunknown)
    simp only [Frame.extent, ofLex_toLex, Nat.succ_eq_add_one, Nat.add_mul] at hmul
    omega
  · simp only [Frame.extent, ofLex_toLex] at heq hbase
    rw [heq]
    omega

/-- An element among particles is called through the groups that it is in. -/
theorem calls_of_contains {ps : List Particle} {e : ElementId} (h : Contains ps e) (b : Build) :
    TransGen (Calls setting) (.content ps b)
      (.type (setting.set.element e).type (setting.set.element e).name b) := by
  induction h with
  | element hm => exact .single (.element hm (.refl b))
  | group hm _ ih => exact .head (.group hm (.refl b)) ih

end Calls

/-! ## What is asked of a loader -/

section Load

variable {setting : Setting} {load load' : Loader} {b : Build} {id : TypeId}
  {fieldName name : String}

/-- While the content of a type is made, its name is known. -/
theorem course_precedes (hload : Proceeds load) :
    Course setting load fun b' _ => b.Precedes b' ∧ name ∈ b'.scope.locals.keys where
  item := by
    rintro b' target item ⟨hb, hname⟩ -
    rw [after_openItem]
    have hopen : b'.Precedes (b'.after (BuildM.openComplex
        (Naming.anonymousListItem (b'.store.complex target).name) (b'.store.complex target).super)) :=
      (precedes_openComplex _ _).1
    exact ⟨hb.trans hopen, hopen.mem_keys hname⟩
  particle := by
    rintro b' target p ⟨hb, hname⟩
    have hp : b'.Precedes (b'.afterStep (addParticle setting load target p)) :=
      precedes_addParticle hload p
    exact ⟨hb.trans hp, hp.mem_keys hname⟩
  use := by
    rintro b' target use ⟨hb, hname⟩
    have huse : b'.Precedes (b'.after (addAttributes setting.set load target [use])) :=
      precedes_addAttributes hload _ [use]
    exact ⟨hb.trans huse, huse.mem_keys hname⟩

/-- Binding a definition asks nothing of a loader but the calls that it makes. -/
theorem agrees_loadStep_of_calls (hload : Proceeds load)
    (h : ∀ id' fieldName' b',
      TransGen (Calls setting) (.type id fieldName b) (.type id' fieldName' b') →
      Agrees b' (load id' fieldName') (load' id' fieldName')) :
    Agrees b (loadStep setting load id fieldName) (loadStep setting load' id fieldName) := by
  apply agrees_loadStep
  intro name hf
  refine ⟨fun b' _ => b.Precedes b' ∧ name ∈ b'.scope.locals.keys, course_precedes hload,
    fun hne => h _ _ _ (.single (.base hf hne)), ?_, ?_⟩
  · intro definition hkind super target hsuper htarget
    have hb : b.Precedes (b.after (complexSuper setting.set load id name)) :=
      precedes_complexSuper hload _ id name
    let before := b.after (complexSuper setting.set load id name)
    obtain ⟨hb', hopened⟩ : before.Precedes (before.after (BuildM.openComplex name super)) ∧
        ∀ c, before.resultOf (BuildM.openComplex name super) = .ok c → _ :=
      precedes_openComplex name super
    exact ⟨hb.trans hb', (hopened target htarget).2⟩
  · rintro _ _ hm b' target ⟨hb, hname⟩
    cases hm with
    | element hkind he => exact h _ _ _ (.head (.content hf hkind hb hname) (calls_of_contains he b'))
    | use hkind huse => exact h _ _ _ (.single (.use hf hkind huse hb hname))

/-- To a depth that exceeds its rank, a definition is bound alike with whatever is at the bottom. By
induction on the depth. -/
theorem agrees_iterate (hset : setting.set.Rooted) (bottom : Loader) {depth steps : Nat}
    (hdepth : rank setting.set b id < depth) (hsteps : rank setting.set b id < steps) :
    Agrees b (loadWithin setting depth id fieldName)
      ((loadStep setting)^[steps] bottom id fieldName) := by
  induction depth generalizing b id fieldName steps with
  | zero => cases hdepth
  | succ depth ih =>
    cases steps with
    | zero => cases hsteps
    | succ steps =>
      rw [Function.iterate_succ_apply']
      apply agrees_loadStep_of_calls (proceeds_loadWithin depth)
      intro id' fieldName' b' hcalls
      have hrank := rank_lt_of_calls hset hcalls
      exact ih (by omega) (by omega)

/-- Binding to a depth is so many single steps. -/
theorem loadWithin_eq_iterate (setting : Setting) (depth : Nat) :
    loadWithin setting depth = (loadStep setting)^[depth] (loadWithin setting 0) := by
  induction depth with
  | zero => rfl
  | succ depth ih =>
    rw [Function.iterate_succ_apply', ← ih]
    rfl

end Load

/-- **Binding types comes to an end.** In a set that has been read, whatever is in the registry and
in the build, every call makes smaller ones, and so every chain of calls comes to an end: each call
is to a part of the content, to the base of a type, or to what a complex type is made of whose name
was not known before. Binding a definition asks nothing of a loader but these calls. So a definition
is bound as if there were no bound on the depth: further steps, and what there is below them, make
no difference, and binding is one step that binds what the definition refers to in the same way. -/
theorem load_terminates {setting : Setting} (hset : setting.set.Accepted) :
    (∀ outer inner, Calls setting outer inner →
      inner.extent setting.set < outer.extent setting.set) ∧
    (WellFounded fun inner outer => Calls setting outer inner) ∧
    (∀ load load' id fieldName b, Proceeds load →
      (∀ id' fieldName' b',
        TransGen (Calls setting) (.type id fieldName b) (.type id' fieldName' b') →
        Agrees b' (load id' fieldName') (load' id' fieldName')) →
      Agrees b (loadStep setting load id fieldName) (loadStep setting load' id fieldName)) ∧
    (∀ bottom steps id fieldName b, depthOf setting.set ≤ steps →
      Agrees b (load setting id fieldName) ((loadStep setting)^[steps] bottom id fieldName)) ∧
    ∀ id fieldName b,
      Agrees b (load setting id fieldName) (loadStep setting (load setting) id fieldName) := by
  have hrooted : setting.set.Rooted := hset.rooted
  have hiterate : ∀ bottom steps id fieldName b, depthOf setting.set ≤ steps →
      Agrees b (load setting id fieldName) ((loadStep setting)^[steps] bottom id fieldName) :=
    fun bottom steps id fieldName b hsteps => agrees_iterate hrooted bottom
      (rank_lt_depthOf _ b id) ((rank_lt_depthOf _ b id).trans_le hsteps)
  refine ⟨fun _ _ h => h.extent_lt hrooted, wellFounded_calls hrooted, ?_, hiterate,
    fun id fieldName b => ?_⟩
  · exact fun load load' id fieldName b hload h => agrees_loadStep_of_calls hload h
  · have h := hiterate (loadWithin setting 0) (depthOf setting.set + 1) id fieldName b (Nat.le_succ _)
    rw [Function.iterate_succ_apply', ← loadWithin_eq_iterate] at h
    exact h

/-- The base and the derived type that refer to each other are bound as if there were no bound:
types that are nested deeper could be anything. -/
theorem terminates_loop :
    (WellFounded fun inner outer => Calls loopSetting outer inner) ∧
    Agrees (.start .empty "s" #[]) (load loopSetting ⟨47⟩ "a")
      ((loadStep loopSetting)^[depthOf loopSetting.set] (fun _ _ => pure (.primitive .string))
        ⟨47⟩ "a") := by
  have hset : loopSetting.set.Accepted := by
    unfold loopSetting
    dsimp only
    exact accepted_loop
  obtain ⟨-, hwf, -, hsteps, -⟩ := load_terminates hset
  exact ⟨hwf, hsteps _ _ ⟨47⟩ "a" (.start .empty "s" #[]) (Nat.le_refl _)⟩

end SchemaBinding.Binding
