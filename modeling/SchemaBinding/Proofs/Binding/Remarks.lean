import SchemaBinding.Proofs.Binding.Succession

/-!
# Whose diagnostics

Diagnostics are added and never taken away, and each one that is added while a type is bound is of a
declaration in a complex type that is made meanwhile. So a type that was there is not spoken of
while others are bound; only what fills it leaves out declarations of it.

## Main definitions

* `Remark`: a diagnostic of a declaration in a complex type
* `Build.Remarks`: what every part of a build promises of diagnostics
* `RemarksOnly`: what is asked of a loader

## Main results

* `Build.Remarks.trans`, `Build.Remarks.ofGrows`, `Build.Remarks.skip`: single changes
* `remarks_addParticles`, `remarks_buildComplex`: what fills a type, and new types
* `remarksOnly_loadWithin`: binding a type with all that it refers to
-/

namespace SchemaBinding.Binding

open Repository (ComplexId Field Store TypeRef)
open Xsd (AttributeUse ElementDeclaration Occurs Particle SchemaSet TypeDefinition TypeId)

/-- A diagnostic is of a declaration in a complex type. -/
def Remark (store : Store) (c : ComplexId) (d : Diagnostic) : Prop :=
  ∃ part : String, d.declaration = s!"{(store.complex c).name}/{part}"

/-- What every part of a build promises of diagnostics: those that are added are of `target`, or of
types that have been made. -/
structure Build.Remarks (target : Option ComplexId) (b b' : Build) (ds : List Diagnostic) :
    Prop where
  has : ∀ c, b.store.Has (.complex c) → b'.store.Has (.complex c)
  name_eq : ∀ c, b.store.Has (.complex c) →
    (b'.store.complex c).name = (b.store.complex c).name
  diagnostics : b'.diagnostics = b.diagnostics ++ ds
  author : ∀ d ∈ ds, ∃ c, b'.store.Has (.complex c) ∧ Remark b'.store c d ∧
    (some c = target ∨ ¬ b.store.Has (.complex c))

namespace Build.Remarks

variable {target : Option ComplexId} {b b' b'' : Build} {ds ds' : List Diagnostic}

/-- Types may be made, and fields be added. -/
theorem ofGrows {other : Option ComplexId} (target : Option ComplexId)
    (hg : b.store.Grows other b'.store) (hd : b'.diagnostics = b.diagnostics) :
    Remarks target b b' [] where
  has c := hg.has (.complex c)
  name_eq c hc := (hg.extends_complex c hc).name_eq
  diagnostics := hd.trans (List.append_nil _).symm
  author := nofun

theorem refl (target : Option ComplexId) (b : Build) : Remarks target b b [] :=
  ofGrows target (.refl none _) rfl

/-- Messages make no difference. -/
theorem quiet (target : Option ComplexId) (hstore : b'.store = b.store)
    (hd : b'.diagnostics = b.diagnostics) : Remarks target b b' [] := by
  have hg : b.store.Grows none b'.store := by rw [hstore]
  exact ofGrows target hg hd

theorem trans (h : Remarks target b b' ds) (h' : Remarks target b' b'' ds') :
    Remarks target b b'' (ds ++ ds') := by
  refine ⟨fun c hc => h'.has c (h.has c hc), fun c hc => ?_, ?_, fun d hd => ?_⟩
  · rw [h'.name_eq c (h.has c hc), h.name_eq c hc]
  · rw [h'.diagnostics, h.diagnostics, List.append_assoc]
  · rcases List.mem_append.mp hd with hd | hd
    · obtain ⟨c, hc, ⟨part, hpart⟩, hauthor⟩ := h.author d hd
      exact ⟨c, h'.has c hc, ⟨part, by rw [hpart, h'.name_eq c hc]⟩, hauthor⟩
    · obtain ⟨c, hc, hremark, hauthor⟩ := h'.author d hd
      exact ⟨c, hc, hremark, hauthor.imp_right fun hnew hold => hnew (h.has c hold)⟩

/-- Further steps without diagnostics. -/
theorem next (h : Remarks target b b' ds) (h' : Remarks target b' b'' []) :
    Remarks target b b'' ds := by
  have htrans := h.trans h'
  rwa [List.append_nil] at htrans

theorem weaken (target : Option ComplexId) (h : Remarks none b b' ds) : Remarks target b b' ds :=
  ⟨h.has, h.name_eq, h.diagnostics, fun d hd => by
    obtain ⟨c, hc, hremark, hauthor⟩ := h.author d hd
    exact ⟨c, hc, hremark, .inr (hauthor.resolve_left nofun)⟩⟩

/-- A declaration of the type that is filled may be left out. -/
theorem skip {c : ComplexId} (hc : b.store.Has (.complex c)) (part : String) (failure : Failure) :
    Remarks (some c) b (b.skip s!"{(b.store.complex c).name}/{part}" failure)
      [⟨s!"{(b.store.complex c).name}/{part}", failure⟩] where
  has _ h := h
  name_eq _ _ := rfl
  diagnostics := rfl
  author d hd := by
    obtain rfl := List.mem_singleton.mp hd
    exact ⟨c, hc, ⟨part, rfl⟩, .inl rfl⟩

/-- What is said of a type that was not there at first is said of a new type. -/
theorem ofNew {c : ComplexId} (h : Remarks none b b' ds) (hc : ¬ b.store.Has (.complex c))
    (h' : Remarks (some c) b' b'' ds') : Remarks none b b'' (ds ++ ds') := by
  obtain ⟨hhas, hname, hdiagnostics, hauthor⟩ := (h.weaken (some c)).trans h'
  refine ⟨hhas, hname, hdiagnostics, fun d hd => ?_⟩
  obtain ⟨c', hc', hremark, hauthor⟩ := hauthor d hd
  refine ⟨c', hc', hremark, .inr ?_⟩
  rcases hauthor with heq | hnew
  · rwa [Option.some.inj heq]
  · exact hnew

end Build.Remarks

/-- A step adds diagnostics of `target` or of types that it makes. -/
abbrev Adding (target : Option ComplexId) (b b' : Build) : Prop := ∃ ds, b.Remarks target b' ds

/-- What is asked of a loader: it adds diagnostics of types that it makes. -/
def RemarksOnly (load : Loader) : Prop :=
  ∀ b id fieldName, Ends b (load id fieldName) fun _ b' => Adding none b b'

section Adding

variable {target : Option ComplexId} {b b' b'' : Build}

theorem Adding.trans (h : Adding target b b') (h' : Adding target b' b'') :
    Adding target b b'' := by
  obtain ⟨ds, h⟩ := h
  obtain ⟨ds', h'⟩ := h'
  exact ⟨ds ++ ds', h.trans h'⟩

theorem Adding.refl (target : Option ComplexId) (b : Build) : Adding target b b :=
  ⟨[], .refl target b⟩

theorem Adding.next (h : Adding target b b') (h' : b'.Remarks target b'' []) :
    Adding target b b'' :=
  h.trans ⟨[], h'⟩

theorem Adding.weaken (target : Option ComplexId) (h : Adding none b b') : Adding target b b' :=
  h.imp fun _ h => h.weaken target

/-- A complex type is opened, or a type is made that is in no scope. -/
theorem remarks_openComplex (name : String) (super : Option ComplexId) :
    Ends b (BuildM.openComplex name super) fun r b' => b.Remarks none b' [] ∧
      ∀ c, r = .ok c → ¬ b.store.Has (.complex c) ∧ b'.store.Has (.complex c) := by
  have hstub : b.Remarks none (b.withStub name super) [] :=
    .ofGrows none (Store.grows_addComplex _) rfl
  unfold BuildM.openComplex
  simp only [ends_bind, ends_schemaName, ends_addComplex, ends_register]
  split
  · refine ⟨hstub.next (.quiet none rfl rfl), ?_⟩
    rintro _ ⟨⟩
    exact ⟨b.not_has_nextComplex name super, b.has_nextComplex name super⟩
  · exact ⟨hstub, ok_of_error⟩

end Adding

variable {setting : Setting} {load : Loader} {b b' : Build} {target : ComplexId}

/-! ## Content -/

section Content

theorem remarks_addFieldOrSkip (hhas : b.store.Has (.complex target)) (name : String)
    {field : BuildM Field} (hfield : Ends b field fun _ b' => Adding none b b') :
    Passes b (addFieldOrSkip target name field) fun _ b' => Adding (some target) b b' := by
  unfold addFieldOrSkip
  rw [passes_bind, passes_run]
  apply hfield.mono
  rintro (failure | f) b₁ h
  all_goals
    have hhas₁ : b₁.store.Has (.complex target) := by
      obtain ⟨_, h⟩ := h
      exact h.has target hhas
    have h := h.weaken (some target)
  · exact h.trans ⟨_, .skip hhas₁ name failure⟩
  · exact h.next (.ofGrows _ (Store.grows_addField hhas₁ f) rfl)

/-- The items of a repeated group are a new type, and only that is filled. -/
theorem remarks_groupEntry (occurs : Occurs) {fill : ComplexId → BuildM TypeRef}
    (hfill : ∀ b item, b.store.Has (.complex item) →
      Ends b (fill item) fun _ b' => Adding (some item) b b') :
    Ends b (groupEntry target occurs fill) fun _ b' => Adding none b b' := by
  refine ends_groupEntry ((remarks_openComplex _ _).mono ?_)
  rintro r b₁ ⟨h, hitem⟩
  refine ⟨fun _ _ => ⟨[], h⟩, fun item hr => ?_⟩
  obtain ⟨hnew, hhas⟩ := hitem item hr
  apply (hfill b₁ item hhas).mono
  rintro r b₂ ⟨ds, h'⟩
  have hfilled : Adding none b b₂ := ⟨_, h.ofNew hnew h'⟩
  exact ⟨fun _ _ => hfilled.next (.quiet none rfl rfl),
    fun _ _ => hfilled.next (.ofGrows none (Store.grows_addList _) rfl)⟩

variable (hload : RemarksOnly load)
include hload

theorem remarks_elementEntry (occurs : Occurs) (e : ElementDeclaration) :
    Ends b (elementEntry load occurs e) fun _ b' => Adding none b b' := by
  refine ends_elementEntry ((hload b e.type e.name).mono fun r b₁ h => ⟨fun _ _ => h, ?_⟩)
  exact fun _ _ => ⟨fun _ => h.next (.ofGrows none (Store.grows_addList _) rfl), fun _ => h⟩

theorem remarks_promote (occurs : Occurs) (e : ElementDeclaration) :
    Ends b (promote load target occurs e) fun _ b' => Adding none b b' := by
  refine ends_promote ((hload b e.type e.name).mono fun r b₁ h => ⟨fun _ _ => h, ?_⟩)
  exact fun _ _ => h.next (.ofGrows none (Store.grows_addList _) rfl)

/-- Content is remarked on like its particles. -/
theorem remarks_addContent_of (hhas : b.store.Has (.complex target)) {children : List Particle}
    (hps : ∀ b target, b.store.Has (.complex target) →
      Passes b (addParticles setting load target children) fun _ b' =>
        Adding (some target) b b') :
    Ends b (addContent setting load target children) fun _ b' => Adding (some target) b b' := by
  unfold addContent
  rw [ends_bind, ends_get]
  dsimp only
  split
  · exact (remarks_promote hload _ _).mono fun _ _ h => h.weaken _
  · rw [ends_bind, ends_liftState]
    exact hps b target hhas

end Content

mutual

/-- What is remarked while a particle is added, by recursion on the particle. -/
theorem remarks_addParticle {b : Build} {target : ComplexId} (hload : RemarksOnly load)
    (p : Particle) (hhas : b.store.Has (.complex target)) :
    Passes b (addParticle setting load target p) fun _ b' => Adding (some target) b b' := by
  match p with
  | .element occurs id =>
    unfold addParticle
    exact remarks_addFieldOrSkip hhas _ (remarks_elementEntry hload occurs _)
  | .group occurs compositor children =>
    unfold addParticle
    split
    · rw [passes_bind, passes_get]
      refine remarks_addFieldOrSkip hhas _ (remarks_groupEntry occurs fun b item hitem => ?_)
      exact remarks_addContent_of hload hitem
        fun b target hhas => remarks_addParticles hload children hhas
    · exact remarks_addParticles hload children hhas
  | .wildcard occurs =>
    unfold addParticle
    exact ⟨[], .quiet _ rfl rfl⟩

theorem remarks_addParticles {b : Build} {target : ComplexId} (hload : RemarksOnly load)
    (ps : List Particle) (hhas : b.store.Has (.complex target)) :
    Passes b (addParticles setting load target ps) fun _ b' => Adding (some target) b b' := by
  match ps with
  | [] =>
    unfold addParticles
    exact .refl _ b
  | p :: ps =>
    unfold addParticles
    rw [passes_bind]
    apply (remarks_addParticle hload p hhas).mono
    rintro _ b₁ ⟨ds, h⟩
    have hhas₁ := h.has target hhas
    exact (remarks_addParticles hload ps hhas₁).mono fun _ _ h' => Adding.trans ⟨ds, h⟩ h'

end

/-! ## Types -/

section Types

variable (hload : RemarksOnly load) (schemas : SchemaSet) (id : TypeId) (name : String)
include hload

theorem remarks_addContent (hhas : b.store.Has (.complex target)) (children : List Particle) :
    Ends b (addContent setting load target children) fun _ b' => Adding (some target) b b' :=
  remarks_addContent_of hload hhas fun _ _ hhas => remarks_addParticles hload children hhas

/-- Attributes are added without a remark of one's own, for one that fails fails the whole type. -/
theorem remarks_addAttributes (uses : List AttributeUse) (hhas : b.store.Has (.complex target)) :
    Ends b (addAttributes schemas load target uses) fun _ b' => Adding (some target) b b' := by
  induction uses generalizing b with
  | nil => exact .refl _ b
  | cons use uses ih =>
    unfold addAttributes
    simp only [ends_bind, ends_attempt]
    apply (hload b _ _).mono
    rintro (failure | t) b₁ ⟨ds, h⟩
    · exact Adding.weaken _ ⟨ds, h⟩
    · have hhas₁ := h.has target hhas
      have hg := Store.grows_addField hhas₁ (attributeField (schemas.attr use.declaration) t)
      have hfield : Adding (some target) b (b₁.addField target _) :=
        Adding.next ⟨ds, h.weaken _⟩ (.ofGrows _ hg rfl)
      exact (ih (hg.has _ hhas₁)).mono fun _ _ h' => hfield.trans h'

/-- Filling a complex type remarks on its particles only. -/
theorem remarks_fillComplex (definition : Xsd.ComplexType)
    (hhas : b.store.Has (.complex target)) :
    Ends b (fillComplex setting load id definition target) fun _ b' =>
      Adding (some target) b b' := by
  have hcontent : Ends b (makeContent setting load definition target) fun _ b' =>
      Adding (some target) b b' := by
    unfold makeContent
    split
    · exact .refl _ b
    · exact .refl _ b
    · exact remarks_addContent hload hhas _
    · exact .refl _ b
  unfold fillComplex
  rw [ends_bind]
  apply hcontent.mono
  rintro (failure | type) b₁ ⟨ds, h⟩
  · exact ⟨ds, h⟩
  · have hattributes : Ends b₁ (makeAttributes setting load id definition target type) fun _ b' =>
        Adding (some target) b₁ b' := by
      unfold makeAttributes
      rw [ends_bind, ends_get]
      dsimp only
      split
      · split
        · exact ⟨[], .quiet _ rfl rfl⟩
        · exact .refl _ b₁
      · exact remarks_addAttributes hload _ _ (h.has target hhas)
    dsimp only
    rw [ends_bind]
    apply hattributes.mono
    rintro (failure | _) b₂ h'
    · exact Adding.trans ⟨ds, h⟩ h'
    · exact Adding.trans ⟨ds, h⟩ h'

theorem remarks_simpleSuper :
    Ends b (simpleSuper schemas load id name) fun _ b' => Adding none b b' :=
  ends_simpleSuper (.refl _ b) ((hload b _ name).mono fun _ _ h =>
    ⟨fun _ _ => h, fun _ _ => h.next (.quiet none rfl rfl)⟩)

theorem remarks_complexSuper :
    Ends b (complexSuper schemas load id name) fun _ b' => Adding none b b' :=
  ends_complexSuper (.refl _ b) fun _ => (hload b _ name).mono fun _ _ h =>
    ⟨fun _ _ => h, fun _ _ => h.next (.quiet none rfl rfl)⟩

theorem remarks_buildSimple (definition : Xsd.SimpleType) :
    Ends b (buildSimple schemas load id name definition) fun _ b' => Adding none b b' := by
  refine ends_buildSimple (remarks_simpleSuper hload schemas id name) ?_ ?_ ?_
  · exact fun _ _ h => h
  · exact fun _ _ _ h _ => h
  · exact fun super b₁ restrictions h _ _ => h.next (.ofGrows none (Store.grows_addSimple _) rfl)

omit hload in
theorem remarks_buildList (definition : TypeDefinition) (item : TypeId) :
    Ends b (buildList setting definition item) fun _ b' => Adding none b b' := by
  refine ends_buildList (.refl _ b) (fun _ => .refl _ b) ?_
  exact fun n type _ _ => ⟨[], .ofGrows none (Store.grows_addList _) rfl⟩

/-- What a complex type leaves out is said of a new type. -/
theorem remarks_buildComplex (definition : Xsd.ComplexType) :
    Ends b (buildComplex setting load id name definition) fun _ b' => Adding none b b' := by
  unfold buildComplex
  rw [ends_bind]
  apply (remarks_complexSuper hload _ id name).mono
  rintro (failure | super) b₁ ⟨ds, h⟩
  · exact ⟨ds, h⟩
  · simp only [ends_bind, ends_mark]
    apply (remarks_openComplex name super).mono
    rintro (failure | target) b₂ ⟨h', hopen⟩
    · exact ⟨ds, h.next h'⟩
    · obtain ⟨hnew, hhas⟩ := hopen target rfl
      simp only [ends_attempt]
      apply (remarks_fillComplex hload id definition hhas).mono
      rintro r b₃ ⟨ds', h''⟩
      have hfilled : Adding none b b₃ :=
        ⟨_, (h.next h').ofNew (fun hold => hnew (h.has target hold)) h''⟩
      cases r with
      | error failure =>
        simp only [ends_bind, ends_rollback, ends_report, ends_throw]
        exact hfilled.next (.quiet none rfl rfl)
      | ok type => exact hfilled

/-- Building a type of any kind remarks on the types that are made for it. -/
theorem remarks_buildType :
    Ends b (buildType setting load id name) fun _ b' => Adding none b b' := by
  unfold buildType
  dsimp only
  split
  · exact remarks_buildComplex hload id name _
  · split
    · exact remarks_buildList _ _
    · exact remarks_buildSimple hload _ id name _
    · exact remarks_buildSimple hload _ id name _

end Types

/-- One step of binding remarks on types that are made, if binding the types it needs does. -/
theorem remarksOnly_loadStep (hload : RemarksOnly load) :
    RemarksOnly (loadStep setting load) := by
  intro b id fieldName
  refine ends_loadStep (fun _ _ => .refl _ b) (fun _ _ _ _ => .refl _ b)
    (fun _ _ _ _ => .refl _ b) ?_
  intro name _ _ _
  rw [ends_bind]
  apply (remarks_buildType hload id name).mono
  rintro (failure | t) b₁ h
  · exact h
  · dsimp only
    rw [ends_bind, ends_register]
    cases b₁.scope.register b₁.store t with
    | error failure => exact h
    | ok scope => exact h.next (.quiet none rfl rfl)

/-- By induction on the depth that is left. -/
theorem remarksOnly_loadWithin (depth : Nat) : RemarksOnly (loadWithin setting depth) := by
  induction depth with
  | zero => exact fun b _ _ => .refl _ b
  | succ depth ih => exact remarksOnly_loadStep ih

end SchemaBinding.Binding
