import SchemaBinding.Proofs.Binding.Reached
import SchemaBinding.Proofs.Xsd.WellFormed

/-!
# Supported content

Content that is a particle can be made into fields only if the particle is a group. In a well-formed
set it always is, so no type fails because of its content: neither the type that is bound, nor one
that is bound on the way and whose failure is passed on, swallowed or put into a diagnostic.

## Main definitions

* `Failure.isUnsupported`: a failure that goes back to content that is no group
* `Supports`: a step that never meets such content
* `Supported`: a set whose content never makes anything fail

## Main results

* `supports_addContent`, `supports_makeContent`, `supports_addAttributes`: filling a complex type
* `supports_loadWithin`: binding a type
* `supported_of_wellFormed`: well-formed sets
* `wellFormed_of_accepted`: sets that are read are well-formed, and all their content is supported
-/

namespace SchemaBinding.Binding

open Repository (ComplexId Field TypeRef)
open Xsd (AttributeUse ElementDeclaration Occurs Particle SchemaSet TypeId)

/-- Whether a failure is that of content that is no group, or goes back to one. -/
def Failure.isUnsupported : Failure → Bool
  | .unsupportedContent _ => true
  | .attributeType _ _ cause => cause.isUnsupported
  | _ => false

/-- All diagnostics but some old ones are for other reasons than content that is no group. -/
def Blameless (old : List Diagnostic) (b : Build) : Prop :=
  ∀ d ∈ b.diagnostics, d ∈ old ∨ d.failure.isUnsupported = false

/-- A step that neither fails nor leaves a declaration out because of content that is no group. -/
def Supports {α : Type} (old : List Diagnostic) (step : BuildM α) : Prop :=
  ∀ b, Blameless old b → Ends b step fun r b' =>
    Blameless old b' ∧ ∀ failure, r = .error failure → failure.isUnsupported = false

variable {α β : Type} {old : List Diagnostic} {b : Build} {setting : Setting} {load : Loader}
  {target : ComplexId}

/-- A declaration may be left out for a failure that is not due to its content. -/
theorem Blameless.skip (h : Blameless old b) (declaration : String) {failure : Failure}
    (hf : failure.isUnsupported = false) : Blameless old (b.skip declaration failure) := by
  intro d hd
  rcases List.mem_append.mp hd with hd | hd
  · exact h d hd
  · rw [List.mem_singleton.mp hd]
    exact .inr hf

/-! ## Steps put together -/

/-- A step that leaves nothing out. -/
theorem supports_of_quiet {step : BuildM α} (h : ∀ b, Ends b step fun r b' =>
    b'.diagnostics = b.diagnostics ∧ ∀ failure, r = .error failure →
      failure.isUnsupported = false) : Supports old step := by
  intro b hb
  refine (h b).mono fun r b' ⟨hd, hr⟩ => ⟨?_, hr⟩
  unfold Blameless
  rw [hd]
  exact hb

theorem supports_pure (a : α) : Supports old (pure a : BuildM α) :=
  supports_of_quiet fun _ => ⟨rfl, nofun⟩

theorem supports_throw {failure : Failure} (h : failure.isUnsupported = false) :
    Supports old (throw failure : BuildM α) :=
  supports_of_quiet fun _ => ⟨rfl, fun _ hf => Except.error.inj hf ▸ h⟩

theorem supports_liftExcept {x : Except Failure α}
    (h : ∀ failure, x = .error failure → failure.isUnsupported = false) :
    Supports old (liftM x : BuildM α) :=
  supports_of_quiet fun _ => ends_liftExcept.mpr ⟨rfl, h⟩

theorem supports_get : Supports old (get : BuildM Build) :=
  supports_of_quiet fun _ => ⟨rfl, nofun⟩

theorem supports_modify {f : Build → Build} (h : ∀ b, (f b).diagnostics = b.diagnostics) :
    Supports old (modify f : BuildM PUnit) :=
  supports_of_quiet fun b => ⟨h b, error_of_ok⟩

theorem supports_schemaName : Supports old BuildM.schemaName :=
  supports_of_quiet fun _ => ⟨rfl, nofun⟩

theorem supports_report (level : Log.Level) (text : String) :
    Supports old (BuildM.report level text) :=
  supports_of_quiet fun _ => ⟨rfl, nofun⟩

theorem supports_mark : Supports old BuildM.mark := supports_of_quiet fun _ => ⟨rfl, nofun⟩

theorem supports_rollback (mark : Nat) : Supports old (BuildM.rollback mark) :=
  supports_of_quiet fun _ => ⟨rfl, nofun⟩

theorem supports_lookup? (setting : Setting) (name : String) :
    Supports old (BuildM.lookup? setting name) :=
  supports_of_quiet fun _ => ⟨rfl, nofun⟩

theorem supports_addComplex (t : Repository.ComplexType) : Supports old (BuildM.addComplex t) :=
  supports_of_quiet fun _ => ⟨rfl, nofun⟩

theorem supports_addList (t : Repository.ListType) : Supports old (BuildM.addList t) :=
  supports_of_quiet fun _ => ⟨rfl, nofun⟩

theorem supports_register (t : TypeRef) : Supports old (BuildM.register t) := by
  refine supports_of_quiet fun b => ends_register.mpr ?_
  cases hs : b.scope.register b.store t with
  | ok scope => exact ⟨rfl, nofun⟩
  | error failure =>
    refine ⟨rfl, fun _ hf => ?_⟩
    cases hf
    rw [(Repository.Scope.register_eq_error_iff.mp hs).1]
    rfl

theorem Supports.bind {x : BuildM α} {f : α → BuildM β} (hx : Supports old x)
    (hf : ∀ a, Supports old (f a)) : Supports old (x >>= f) := by
  intro b hb
  rw [ends_bind]
  refine (hx b hb).mono ?_
  rintro (failure | a) b₁ ⟨hb₁, hr⟩
  · refine ⟨hb₁, fun _ h => ?_⟩
    cases h
    exact hr failure rfl
  · exact hf a b₁ hb₁

/-- What follows a step whose failure is caught knows that it is not because of content. -/
theorem Supports.attempt {x : BuildM α} {f : Except Failure α → BuildM β} (hx : Supports old x)
    (hok : ∀ a, Supports old (f (.ok a)))
    (herror : ∀ failure, failure.isUnsupported = false → Supports old (f (.error failure))) :
    Supports old (BuildM.attempt x >>= f) := by
  intro b hb
  simp only [ends_bind, ends_attempt]
  refine (hx b hb).mono ?_
  rintro (failure | a) b₁ ⟨hb₁, hr⟩
  · exact herror failure (hr failure rfl) b₁ hb₁
  · exact hok a b₁ hb₁

/-- A complex type is opened whatever its content may be. -/
theorem supports_openComplex (name : String) (super : Option ComplexId) :
    Supports old (BuildM.openComplex name super) := by
  unfold BuildM.openComplex
  refine supports_schemaName.bind fun schema => ?_
  refine (supports_addComplex _).bind fun id => ?_
  exact (supports_register _).bind fun _ => supports_pure _

/-! ## Content -/

section Content

variable (hload : ∀ id fieldName, Supports old (load id fieldName))
include hload

theorem supports_elementEntry (occurs : Occurs) (e : ElementDeclaration) :
    Supports old (elementEntry load occurs e) := by
  unfold elementEntry
  refine (hload e.type e.name).bind fun t => ?_
  split
  · refine supports_schemaName.bind fun schema => ?_
    exact (supports_addList _).bind fun _ => supports_pure _
  · exact supports_get.bind fun _ => supports_pure _

theorem supports_promote (occurs : Occurs) (e : ElementDeclaration) :
    Supports old (promote load target occurs e) := by
  unfold promote
  refine (hload e.type e.name).bind fun t => supports_get.bind fun b => ?_
  refine (supports_report _ _).bind fun _ => supports_schemaName.bind fun schema => ?_
  refine (supports_addList _).bind fun list => ?_
  exact (supports_modify fun _ => rfl).bind fun _ => supports_pure _

omit hload in
/-- A repeated group becomes a list for any content that the group has been given. -/
theorem supports_groupEntry (occurs : Occurs) {fill : ComplexId → BuildM TypeRef}
    (hfill : ∀ item, Supports old (fill item)) : Supports old (groupEntry target occurs fill) := by
  unfold groupEntry
  refine supports_get.bind fun b => supports_schemaName.bind fun schema => ?_
  refine supports_mark.bind fun mark => ?_
  refine (supports_openComplex _ _).bind fun item => (hfill item).attempt (fun t => ?_) ?_
  · exact (supports_addList _).bind fun _ => supports_pure _
  · intro failure hf
    exact (supports_rollback mark).bind fun _ => supports_throw hf

omit hload in
/-- A field is added, or left out for a failure that is not due to content. -/
theorem blameless_addFieldOrSkip (name : String) {field : BuildM Field}
    (hfield : Supports old field) (h : Blameless old b) :
    Passes b (addFieldOrSkip target name field) fun _ b' => Blameless old b' := by
  unfold addFieldOrSkip
  rw [passes_bind, passes_run]
  refine (hfield b h).mono ?_
  rintro (failure | f) b₁ ⟨hb₁, hr⟩
  · exact hb₁.skip _ (hr failure rfl)
  · exact hb₁

/-- Content needs no more than its particles. -/
theorem supports_addContent_of {children : List Particle}
    (hps : ∀ b target, Blameless old b →
      Passes b (addParticles setting load target children) fun _ b' => Blameless old b') :
    Supports old (addContent setting load target children) := by
  have hplain : Supports old (do
      addParticles setting load target children
      return TypeRef.complex target) := by
    intro b hb
    rw [ends_bind, ends_liftState]
    exact (hps b target hb).mono fun _ b' hb' => ⟨hb', nofun⟩
  unfold addContent
  refine supports_get.bind fun b => ?_
  split
  · exact supports_promote hload _ _
  · exact hplain

end Content

mutual

/-- A particle is added without blame on its content, by recursion on the particle. -/
theorem blameless_addParticle {b : Build} {target : ComplexId}
    (hload : ∀ id fieldName, Supports old (load id fieldName)) (p : Particle)
    (h : Blameless old b) :
    Passes b (addParticle setting load target p) fun _ b' => Blameless old b' := by
  match p with
  | .element occurs id =>
    unfold addParticle
    exact blameless_addFieldOrSkip _ (supports_elementEntry hload occurs _) h
  | .group occurs compositor children =>
    unfold addParticle
    split
    · rw [passes_bind, passes_get]
      refine blameless_addFieldOrSkip _ (supports_groupEntry occurs fun item => ?_) h
      exact supports_addContent_of hload fun b target hb => blameless_addParticles hload children hb
    · exact blameless_addParticles hload children h
  | .wildcard occurs =>
    unfold addParticle
    exact h

theorem blameless_addParticles {b : Build} {target : ComplexId}
    (hload : ∀ id fieldName, Supports old (load id fieldName)) (ps : List Particle)
    (h : Blameless old b) :
    Passes b (addParticles setting load target ps) fun _ b' => Blameless old b' := by
  match ps with
  | [] =>
    unfold addParticles
    exact h
  | p :: ps =>
    unfold addParticles
    rw [passes_bind]
    refine (blameless_addParticle hload p h).mono fun _ b₁ hb₁ => ?_
    exact blameless_addParticles hload ps hb₁

end

section Types

variable (hload : ∀ id fieldName, Supports old (load id fieldName))
include hload

/-- Content of particles is supported, whether it becomes fields or a list. -/
theorem supports_addContent (children : List Particle) :
    Supports old (addContent setting load target children) :=
  supports_addContent_of hload fun _ _ hb => blameless_addParticles hload children hb

/-- Here the content must be a group. -/
theorem supports_makeContent {definition : Xsd.ComplexType}
    (hdefinition : definition.Closed setting.set) :
    Supports old (makeContent setting load definition target) := by
  have hclosed : (definition.explicitContent.getD definition.content).Closed setting.set := by
    cases hexplicit : definition.explicitContent with
    | none => exact hdefinition.content
    | some content => exact hdefinition.explicitContent content hexplicit
  unfold makeContent
  split
  · exact supports_pure _
  · exact supports_pure _
  · exact supports_addContent hload _
  · next p hgroup hp =>
    rw [hp] at hclosed
    cases p with
    | group occurs compositor children => exact absurd rfl (hgroup occurs compositor children)
    | element | wildcard => cases hclosed.1

/-! ## Attributes and bases -/

/-- The failure of an attribute passes on that of its type. -/
theorem supports_addAttributes (schemas : SchemaSet) (uses : List AttributeUse) :
    Supports old (addAttributes schemas load target uses) := by
  induction uses with
  | nil =>
    unfold addAttributes
    exact supports_pure _
  | cons use uses ih =>
    unfold addAttributes
    refine (hload _ _).attempt (fun t => ?_) fun failure hf => ?_
    · refine Supports.bind ?_ fun _ => ih
      exact supports_modify fun _ => rfl
    · refine supports_get.bind fun b => Supports.bind (supports_throw ?_) fun _ => ih
      exact hf

theorem supports_makeAttributes (id : TypeId) (definition : Xsd.ComplexType) (type : TypeRef) :
    Supports old (makeAttributes setting load id definition target type) := by
  unfold makeAttributes
  refine supports_get.bind fun b => ?_
  dsimp only
  split
  · split
    · exact supports_report _ _
    · exact supports_pure _
  · exact supports_addAttributes hload _ _

/-- The base of a simple type is left out if it cannot be bound. -/
theorem supports_simpleSuper (schemas : SchemaSet) (id : TypeId) (name : String) :
    Supports old (simpleSuper schemas load id name) := by
  unfold simpleSuper
  dsimp only
  split
  · exact supports_pure _
  · refine (hload _ _).attempt (fun t => ?_) fun failure _ => ?_
    · dsimp only
      split
      · exact supports_pure _
      · exact supports_get.bind fun _ => (supports_report _ _).bind fun _ => supports_pure _
    · exact (supports_report _ _).bind fun _ => supports_pure _

/-- So is the super type of a complex type. -/
theorem supports_complexSuper (schemas : SchemaSet) (id : TypeId) (name : String) :
    Supports old (complexSuper schemas load id name) := by
  unfold complexSuper
  dsimp only
  split
  · exact supports_pure _
  · refine (hload _ _).attempt (fun t => ?_) fun failure _ => ?_
    · cases t with
      | complex super => exact supports_pure _
      | primitive | simple | list =>
        exact supports_get.bind fun _ => (supports_report _ _).bind fun _ => supports_pure _
    · exact (supports_report _ _).bind fun _ => supports_pure _

/-! ## Types -/

theorem supports_buildSimple (schemas : SchemaSet) (id : TypeId) (name : String)
    (definition : Xsd.SimpleType) : Supports old (buildSimple schemas load id name definition) := by
  intro b hb
  refine ends_buildSimple (supports_simpleSuper hload schemas id name b hb) ?_ ?_ ?_
  · intro failure b₁ h
    refine ⟨h.1, ?_⟩
    rintro _ ⟨⟩
    exact h.2 failure rfl
  · intro super b₁ failure h hc
    refine ⟨h.1, ?_⟩
    rintro _ ⟨⟩
    unfold constraints stringLength at hc
    split at hc
    · cases hc
    · split at hc
      · cases hc
      · cases hc
        rfl
  · exact fun super b₁ restrictions h _ _ => ⟨h.1, error_of_ok⟩

omit hload in
theorem supports_buildList (definition : Xsd.TypeDefinition) (item : TypeId) :
    Supports old (buildList setting definition item) := by
  intro b hb
  refine ends_buildList ⟨hb, ?_⟩ (fun n => ⟨hb, ?_⟩) fun n type _ _ => ⟨hb, error_of_ok⟩
  · rintro _ ⟨⟩
    rfl
  · rintro _ ⟨⟩
    rfl

/-- A complex type is built without blame on its content, for the kinds of content that are not
supported are not those of well-formed sets. -/
theorem supports_buildComplex (hset : setting.set.WellFormed) {id : TypeId} (name : String)
    {definition : Xsd.ComplexType} (hk : (setting.set.type id).kind = .complex definition) :
    Supports old (buildComplex setting load id name definition) := by
  unfold buildComplex
  refine (supports_complexSuper hload _ id name).bind fun super => supports_mark.bind fun mark => ?_
  refine (supports_openComplex name super).bind fun target => ?_
  refine Supports.attempt ?_ (fun t => supports_pure _) fun failure hf => ?_
  · unfold fillComplex
    refine (supports_makeContent hload (hset.complex id definition hk)).bind fun t => ?_
    exact (supports_makeAttributes hload id definition t).bind fun _ => supports_pure _
  · exact (supports_rollback mark).bind fun _ => (supports_report _ _).bind fun _ =>
      supports_throw hf

/-- Types of all kinds are built without blame on their content. -/
theorem supports_buildType (hset : setting.set.WellFormed) (id : TypeId) (name : String) :
    Supports old (buildType setting load id name) := by
  unfold buildType
  dsimp only
  split
  · exact supports_buildComplex hload hset name ‹_›
  · split
    · exact supports_buildList _ _
    · exact supports_buildSimple hload _ id name _
    · exact supports_buildSimple hload _ id name _

theorem supports_loadStep (hset : setting.set.WellFormed) (id : TypeId) (fieldName : String) :
    Supports old (loadStep setting load id fieldName) := by
  unfold loadStep
  refine Supports.bind (supports_liftExcept fun failure hf => ?_) fun name => ?_
  · unfold typeName at hf
    split at hf
    · cases hf
    · split at hf
      · cases hf
      · cases hf
        rfl
    · split at hf
      · cases hf
        rfl
      · cases hf
  · refine (supports_lookup? setting name).bind fun found => ?_
    cases found with
    | some t => exact supports_pure _
    | none =>
      dsimp only
      split
      · refine supports_liftExcept fun failure hf => ?_
        unfold primitiveFor at hf
        split at hf
        · cases hf
        · cases hf
          rfl
      · refine (supports_buildType hload hset id name).bind fun t => ?_
        exact (supports_register t).bind fun _ => supports_pure _

end Types

/-- No type fails because of its content. By induction on the depth that is left. -/
theorem supports_loadWithin (hset : setting.set.WellFormed) (depth : Nat) (id : TypeId)
    (fieldName : String) : Supports old (loadWithin setting depth id fieldName) := by
  induction depth generalizing id fieldName with
  | zero => exact supports_throw rfl
  | succ depth ih => exact supports_loadStep ih hset id fieldName

/-! ## Compilations -/

theorem blameless_globalField? (declared : String) {field : BuildM Field}
    (hfield : Supports old field) (h : Blameless old b) :
    Passes b (globalField? declared field) fun _ b' => Blameless old b' := by
  unfold globalField?
  rw [passes_bind, passes_run]
  refine (hfield b h).mono ?_
  rintro (failure | f) b₁ ⟨hb₁, hr⟩
  · exact hb₁.skip _ (hr failure rfl)
  · exact hb₁

theorem blameless_globalFields (hset : setting.set.WellFormed) (source : Xsd.Schema)
    (h : Blameless old b) :
    Passes b (globalFields setting source) fun _ b' => Blameless old b' := by
  have hload : ∀ id fieldName, Supports old (Binding.load setting id fieldName) :=
    supports_loadWithin hset _
  unfold globalFields
  simp only [passes_bind, passes_pure]
  refine (passes_mapM (fun e b hb => ?_) h).mono fun elements b₁ hb₁ =>
    (passes_mapM (fun a b hb => ?_) hb₁).mono fun attributes b₂ hb₂ => hb₂
  · refine blameless_globalField? _ ((hload _ _).bind fun t => ?_) hb
    exact supports_get.bind fun _ => supports_pure _
  · exact blameless_globalField? _ ((hload _ _).bind fun t => supports_pure _) hb

/-- Nothing fails because of the content of the types of a set, wherever a type is bound and however
the set is compiled. -/
structure Supported (set : SchemaSet) : Prop where
  load : ∀ registry depth id fieldName (b : Build) failure,
    b.resultOf (loadWithin ⟨set, registry⟩ depth id fieldName) = .error failure →
      failure.isUnsupported = false
  skipped : ∀ registry depth id fieldName (b : Build),
    ∀ d ∈ (b.after (loadWithin ⟨set, registry⟩ depth id fieldName)).diagnostics,
      d ∈ b.diagnostics ∨ d.failure.isUnsupported = false
  compile : ∀ repository limits request log compilation,
    (compile repository limits request set log).1 = .ok compilation →
      ∀ d ∈ compilation.diagnostics, d.failure.isUnsupported = false

/-- **Well-formed sets are supported**, whatever has been bound before. -/
theorem supported_of_wellFormed {set : SchemaSet} (hset : set.WellFormed) : Supported set where
  load registry depth id fieldName b failure hf := by
    have h : Supports b.diagnostics (loadWithin ⟨set, registry⟩ depth id fieldName) :=
      supports_loadWithin hset depth id fieldName
    exact (h b fun _ hd => .inl hd).2 failure hf
  skipped registry depth id fieldName b := by
    have h : Supports b.diagnostics (loadWithin ⟨set, registry⟩ depth id fieldName) :=
      supports_loadWithin hset depth id fieldName
    exact (h b fun _ hd => .inl hd).1
  compile repository limits request log compilation hc := by
    unfold Binding.compile at hc
    split at hc
    · cases hc
    · split at hc
      · cases hc
        exact nofun
      · next source _ =>
        split at hc
        · cases hc
          exact nofun
        · cases hc
          have h : ∀ b, Blameless [] b → Passes b
              (globalFields ⟨set, repository.registry⟩ source) fun _ b' => Blameless [] b' :=
            fun _ => blameless_globalFields hset source
          intro d hd
          exact (h (.start repository.store request.name _) nofun d hd).resolve_left nofun

/-- A set that is read is well-formed, and nothing fails because of the content of its types. -/
theorem wellFormed_of_accepted {set : SchemaSet} (h : set.Accepted) :
    set.WellFormed ∧ Supported set :=
  ⟨h.wellFormed, supported_of_wellFormed h.wellFormed⟩

/-- A schema with references of all kinds: a base, an item, members, a group, an attribute. -/
def referringText : String :=
  "<schema xmlns=\"http://www.w3.org/2001/XMLSchema\" xmlns:t=\"t\" targetNamespace=\"t\">" ++
  "<complexType name=\"D\"><complexContent><extension base=\"t:B\"><group ref=\"t:g\"/>" ++
  "<attribute name=\"a\" type=\"t:L\"/></extension></complexContent></complexType>" ++
  "<complexType name=\"B\"><sequence><element name=\"e\" type=\"t:U\"/></sequence></complexType>" ++
  "<group name=\"g\"><choice><element name=\"f\"><complexType/></element></choice></group>" ++
  "<simpleType name=\"L\"><list itemType=\"int\"/></simpleType>" ++
  "<simpleType name=\"U\"><union memberTypes=\"t:L string\"/></simpleType></schema>"

section Referring

set_option maxRecDepth 100000

theorem accepted_referring : (SchemaSet.ofText referringText).Accepted :=
  SchemaSet.accepted_ofText (by decide +kernel)

theorem wellFormed_referring : (SchemaSet.ofText referringText).Accepted ∧
    (SchemaSet.ofText referringText).WellFormed ∧ Supported (SchemaSet.ofText referringText) :=
  ⟨accepted_referring, wellFormed_of_accepted accepted_referring⟩

end Referring

end SchemaBinding.Binding
