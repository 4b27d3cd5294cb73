import SchemaBinding.Proofs.Binding.Making

/-!
# The origins of types

Whatever comes into the scope while a schema is built has been made of a definition that is bound
under its name, or of the items of a group. By induction on how deep types are nested; one step of
it is a lemma for each function. A definition whose name means nothing is bound to a type that has
been made of this very definition.

## Main definitions

* `MakesType`: what building the type of a definition promises
* `Declared`: what has become of a global declaration
* `GlobalFields`: the fields of a schema

## Main results

* `makesType_buildSimple`, `makesType_buildComplex`, `makesType_buildType`: new types
* `provides_loadWithin`: binding a type with all that it refers to
* `makesType_loadWithin`: a definition whose name means nothing
* `globalFields_globalFields`, `origins_bindSchema`: the whole build
-/

namespace SchemaBinding.Binding

open Repository (ComplexId ComplexType Field ListType SimpleType Store TypeRef)
open Xsd (AttributeUse SchemaSet TypeId)
open Xsd.Particle (Contains)

/-- What building the type of a definition promises. -/
def MakesType (setting : Setting) (source : Xsd.Schema) (id : TypeId) (b : Build)
    (r : Except Failure TypeRef) (b' : Build) : Prop :=
  Adds setting.set source b b' ∧ ∀ t, r = .ok t → Made setting.set (b.view b') id t

/-- A type of a schema is what a definition of its name is bound to. -/
theorem Named.ofSchema {set : SchemaSet} {store : Store} {id : TypeId} {fieldName n s : String}
    {t : TypeRef} (htype : typeName set (set.type id) fieldName = .ok n) (hhas : store.Has t)
    (hname : store.nameOf t = n) (hs : store.schemaOf? t = some s) :
    Named set store id fieldName t := by
  refine .type htype hhas ?_ hname
  rintro p rfl
  cases hs

section Types

variable {setting : Setting} {source : Xsd.Schema} {load : Loader} {b b' : Build}
  {target : ComplexId} {id : TypeId} {fieldName name : String}

/-! ## Bases -/

/-- The super type of a simple type has an origin, with all that is bound for it. -/
theorem adds_simpleSuper (hprovides : Provides setting source load) (h : setting.Sound b)
    (hasked : Asked setting.set source id fieldName)
    (hname : typeName setting.set (setting.set.type id) fieldName = .ok name) :
    Ends b (simpleSuper setting.set load id name) fun _ b' => Adds setting.set source b b' := by
  refine ends_simpleSuper (.refl b) ((hprovides b _ name h (.base hasked hname)).mono ?_)
  rintro r b₁ ⟨hadds, -⟩
  exact ⟨fun _ _ => hadds, fun _ _ => hadds.quiet rfl rfl (List.Subset.refl _)⟩

/-- The super type of a complex type has an origin, with all that is bound for it. -/
theorem adds_complexSuper (hprovides : Provides setting source load) (h : setting.Sound b)
    (hasked : Asked setting.set source id fieldName)
    (hname : typeName setting.set (setting.set.type id) fieldName = .ok name) :
    Ends b (complexSuper setting.set load id name) fun _ b' => Adds setting.set source b b' := by
  refine ends_complexSuper (.refl b) fun _ => (hprovides b _ name h (.base hasked hname)).mono ?_
  rintro r b₁ ⟨hadds, -⟩
  exact ⟨fun _ _ => hadds, fun _ _ => hadds.quiet rfl rfl (List.Subset.refl _)⟩

/-! ## Simple types and lists -/

/-- A simple type is made of its definition, below the type of its base. -/
theorem makesType_buildSimple (hprovides : Provides setting source load) (h : setting.Sound b)
    (hasked : Asked setting.set source id fieldName)
    (hname : typeName setting.set (setting.set.type id) fieldName = .ok name)
    {definition : Xsd.SimpleType} (hkind : (setting.set.type id).kind = .simple definition)
    (hvariety : ∀ item, definition.variety ≠ .list item) :
    Ends b (buildSimple setting.set load id name definition) (MakesType setting source id b) := by
  refine ends_buildSimple (adds_simpleSuper hprovides h hasked hname) ?_ ?_ ?_
  · exact fun failure b₁ hadds => ⟨hadds, ok_of_error⟩
  · exact fun super b₁ failure hadds _ => ⟨hadds, ok_of_error⟩
  intro super b₁ restrictions hadds hallowed hnone
  let s : SimpleType := ⟨name, b₁.scope.schemaName, super, restrictions⟩
  have hs : (b₁.store.addSimple s).2.simple (b₁.store.addSimple s).1 = s :=
    Store.simple_addSimple _ s
  refine ⟨hadds.next (Store.grows_addSimple s) some_of_none rfl (List.Subset.refl _), ?_⟩
  rintro _ ⟨⟩
  cases hvar : definition.variety with
  | atomic =>
    apply Made.restriction hkind hvar (Store.has_addSimple s)
    rw [hallowed hvar]
    exact congrArg (Except.ok ∘ SimpleType.constraints) hs.symm
  | list item => exact absurd hvar (hvariety item)
  | union members =>
    exact .union hkind hvar (Store.has_addSimple s) <|
      (congrArg SimpleType.constraints hs).trans (hnone fun hatomic => by
        rw [hatomic] at hvar
        cases hvar)

/-- A list is made of its definition, with the items that it names. -/
theorem makesType_buildList {definition : Xsd.SimpleType}
    (hkind : (setting.set.type id).kind = .simple definition) {item : TypeId}
    (hvariety : definition.variety = .list item) :
    Ends b (buildList setting (setting.set.type id) item) (MakesType setting source id b) := by
  refine ends_buildList ⟨.refl b, ok_of_error⟩ (fun _ => ⟨.refl b, ok_of_error⟩) ?_
  intro n type hn _
  let l : ListType := .ofItem n b.scope.schemaName type
  refine ⟨(Adds.refl b).next (Store.grows_addList l) some_of_none rfl (List.Subset.refl _), ?_⟩
  rintro _ ⟨⟩
  exact .list hkind hvariety hn (Store.has_addList l)

/-! ## Complex types -/

/-- Each attribute is given its field, and its type has an origin. -/
theorem adds_addAttributes (hload : Loads setting load) (hprovides : Provides setting source load)
    {uses : List AttributeUse}
    (hasked : ∀ use ∈ uses, Asked setting.set source (setting.set.attr use.declaration).type
      (setting.set.attr use.declaration).name)
    (h : setting.Sound b) (ho : IsOpen b.store b.scope target) :
    Ends b (addAttributes setting.set load target uses) fun r b' => Adds setting.set source b b' ∧
      (r = .ok ⟨⟩ → ∃ attributes,
        (b'.store.complex target).fields = (b.store.complex target).fields ++ attributes ∧
        List.Forall₂ (fun use => AttributeField setting.set b'.store use.declaration) uses
          attributes) := by
  induction uses generalizing b with
  | nil => exact ⟨.refl b, fun _ => ⟨[], (List.append_nil _).symm, .nil⟩⟩
  | cons use uses ih =>
    have hask := hasked use List.mem_cons_self
    unfold addAttributes
    simp only [ends_bind, ends_attempt]
    apply ((hload b _ _ h).and (hprovides b _ _ h hask)).mono
    rintro (failure | t) b₁ ⟨⟨hadv, ht⟩, hadds, hnamed⟩
    · refine ⟨hadds, ?_⟩
      rintro ⟨⟩
    · have ho₁ := hadv.grows.isOpen ho
      let field := attributeField (setting.set.attr use.declaration) t
      have htarget : ∀ c, some target = some c → b.store.Has (.complex c) :=
        some_of_some ho.has
      have hfield : Advances setting (some target) b₁ (b₁.addField target field) :=
        .addField hadv.sound ho₁ (.settled (ht t rfl))
      have hadv' := (hadv.weaken (some target)).trans hfield
      have hadds' : Adds setting.set source b (b₁.addField target field) :=
        hadds.next hfield.grows.store htarget rfl (List.Subset.refl _)
      have hstep := ih (fun use' hm => hasked use' (List.mem_cons_of_mem _ hm)) hadv'.sound
        (hadv'.grows.isOpen ho)
      dsimp only
      rw [ends_bind, ends_modify]
      apply ((advances_addAttributes hload setting.set uses hadv'.sound
        (hadv'.grows.isOpen ho)).and hstep).mono
      rintro r b₂ ⟨hadv₂, hadds₂, hattributes⟩
      refine ⟨hadds'.trans hadds₂ hadv'.grows.store.has hadv₂.grows htarget, fun hr => ?_⟩
      obtain ⟨attributes, hfields, hall⟩ := hattributes hr
      have heq := hadv.grows.store.complex_eq target ho.has (Option.some_ne_none target)
      have hadded := Store.complex_addField b₁.store target target field ho₁.has
      rw [if_pos rfl, heq] at hadded
      have hlater : (b.view b₁).Later (b.view b₂) :=
        Build.later_view (hfield.grows.store.trans hadv₂.grows.store) htarget hadds₂.diagnostics
      refine ⟨field :: attributes, ?_, .cons ⟨rfl, (hnamed t rfl).later hlater⟩ hall⟩
      calc (b₂.store.complex target).fields
          = ((b₁.addField target field).store.complex target).fields ++ attributes := hfields
        _ = (b.store.complex target).fields ++ [field] ++ attributes :=
            congrArg (·.fields ++ attributes) hadded
        _ = (b.store.complex target).fields ++ field :: attributes := List.append_assoc _ _ _

/-- Content is made of the particles of its definition, and each type in it has an origin. -/
theorem makesContent_makeContent (hload : Loads setting load)
    (hprovides : Provides setting source load) {definition : Xsd.ComplexType}
    (hasked : ∀ e, Contains (particlesOf definition) e →
      Asked setting.set source (setting.set.element e).type (setting.set.element e).name)
    (h : setting.Sound b) (ho : IsOpen b.store b.scope target)
    (hfields : (b.store.complex target).fields = []) :
    Ends b (makeContent setting load definition target)
      (MakesContent setting source target (particlesOf definition) b) := by
  have hempty : Filled setting.set (b.view b) target [] [] (.complex target) :=
    .fields (hfields.trans (List.append_nil []).symm) .nil .nil
  unfold makeContent
  unfold particlesOf at hasked ⊢
  split
  · next hcontent =>
    rw [hcontent]
    refine ⟨.refl b, ?_⟩
    rintro _ ⟨⟩
    exact hempty
  · next hcontent =>
    rw [hcontent]
    refine ⟨.refl b, ?_⟩
    rintro _ ⟨⟩
    exact hempty
  · next hcontent =>
    rw [hcontent] at hasked ⊢
    exact makesContent_addContent hload hprovides hasked h ho hfields
  · exact ⟨.refl b, ok_of_error⟩

/-- A complex type that keeps its place gets its attributes after the fields of its content. -/
theorem filled_makeAttributes (hload : Loads setting load) (hprovides : Provides setting source load)
    {definition : Xsd.ComplexType}
    (hasked : ∀ hasSuper, ∀ use ∈ attributesToAdd setting.set id hasSuper,
      Asked setting.set source (setting.set.attr use.declaration).type
        (setting.set.attr use.declaration).name)
    (ho : IsOpen b.store b.scope target) {type : TypeRef}
    (hf : Fills setting target b (.ok type) b')
    (hmade : MakesContent setting source target (particlesOf definition) b (.ok type) b') :
    Ends b' (makeAttributes setting load id definition target type) fun r b'' =>
      Adds setting.set source b b'' ∧
      (r = .ok ⟨⟩ → Filled setting.set (b.view b'') target (particlesOf definition)
        (attributesToAdd setting.set id (b''.store.complex target).super.isSome) type) := by
  obtain ⟨hadds, hfilled⟩ := hmade
  have htarget : ∀ c, some target = some c → b.store.Has (.complex c) :=
    some_of_some ho.has
  unfold makeAttributes
  rw [ends_bind, ends_get]
  dsimp only
  cases hfilled type rfl with
  | promoted hp =>
    rw [if_pos (show (TypeRef.list _).isList = true from rfl)]
    split
    · exact ⟨hadds.quiet rfl rfl (List.Subset.refl _), fun _ => .promoted hp⟩
    · exact ⟨hadds, fun _ => .promoted hp⟩
  | fields hfields hps hnone =>
    cases hnone
    rw [if_neg (show ¬ (TypeRef.complex target).isList = true from Bool.false_ne_true)]
    have hattributes := adds_addAttributes hload hprovides
      (hasked (b'.store.complex target).super.isSome) hf.sound (hf.isOpen ho)
    refine ((advances_addAttributes hload _ _ hf.sound (hf.isOpen ho)).and hattributes).mono ?_
    rintro r b₂ ⟨hadv₂, hadds₂, hadded⟩
    refine ⟨hadds.trans hadds₂ hf.store.has hadv₂.grows htarget, fun hr => ?_⟩
    obtain ⟨attributes, hfields₂, hall⟩ := hadded hr
    have hext := hadv₂.grows.store.extends_complex target (hf.store.has _ ho.has)
    have hlater : (b.view b').Later (b.view b₂) :=
      Build.later_view hadv₂.grows.store htarget hadds₂.diagnostics
    rw [hext.super_eq]
    refine .fields (hfields₂.trans (congrArg (· ++ attributes) hfields)) ?_ hall
    have hname : ((b.view b₂).store.complex target).name =
        ((b.view b').store.complex target).name := hext.name_eq
    rw [hname, List.append_nil]
    exact hps.later hlater

/-- A complex type is filled with what its definition says. -/
theorem filled_fillComplex (hload : Loads setting load) (hprovides : Provides setting source load)
    (hasked : Asked setting.set source id fieldName) {definition : Xsd.ComplexType}
    (hkind : (setting.set.type id).kind = .complex definition) (h : setting.Sound b)
    (ho : IsOpen b.store b.scope target) (hfields : (b.store.complex target).fields = []) :
    Ends b (fillComplex setting load id definition target) fun r b' =>
      Adds setting.set source b b' ∧ ∀ t, r = .ok t →
        Filled setting.set (b.view b') target (particlesOf definition)
          (attributesToAdd setting.set id (b'.store.complex target).super.isSome) t := by
  have hcontent := makesContent_makeContent hload hprovides
    (fun e he => .mention hasked (.element hkind he)) h ho hfields
  unfold fillComplex
  rw [ends_bind]
  apply ((fills_makeContent hload h ho hfields definition).and hcontent).mono
  rintro (failure | type) b₁ ⟨hf, hmade⟩
  · exact ⟨hmade.1, ok_of_error⟩
  · dsimp only
    rw [ends_bind]
    have huses := fun hasSuper use (hm : use ∈ attributesToAdd setting.set id hasSuper) =>
      hasked.mention (Mentions.use hkind hm)
    apply (filled_makeAttributes hload hprovides huses ho hf hmade).mono
    rintro (failure | _) b₂ ⟨hadds, hfilled⟩
    · exact ⟨hadds, ok_of_error⟩
    · refine ⟨hadds, ?_⟩
      rintro _ ⟨⟩
      exact hfilled rfl

/-- A complex type that has been filled is under its name. -/
theorem makesType_buildComplex (hload : Loads setting load)
    (hprovides : Provides setting source load) (h : setting.Sound b)
    (hnew : NewName setting b name) (hasked : Asked setting.set source id fieldName)
    (hname : typeName setting.set (setting.set.type id) fieldName = .ok name)
    {definition : Xsd.ComplexType} (hkind : (setting.set.type id).kind = .complex definition) :
    Ends b (buildComplex setting load id name definition) (MakesType setting source id b) := by
  refine ends_buildComplex hload h (adds_complexSuper hprovides h hasked hname) ?_ ?_
  · intro super b₁ hadds _ _
    have hgrows : b₁.store.Grows none (b₁.withStub name super).store := Store.grows_addComplex _
    exact ⟨hadds.next hgrows some_of_none rfl (List.Subset.refl _), ok_of_error⟩
  · intro super b₁ hadds hadv hsettled hn
    have hopened : Advances setting none b₁ (b₁.opened name super) :=
      hadv.openedNamed h hnew hn hsettled
    have ho := isOpen_opened name super b₁
    have hstub := b₁.complex_opened name super
    have hfields : ((b₁.opened name super).store.complex (b₁.nextComplex name super)).fields = [] :=
      congrArg ComplexType.fields hstub
    have hfilled := filled_fillComplex hload hprovides hasked hkind hopened.sound ho hfields
    refine ((fills_fillComplex hload hopened.sound ho hfields id definition).and hfilled).mono ?_
    rintro r b₂ ⟨hf, hadds₂, hmade⟩
    have hadv₂ := hf.advances hn hopened
    cases r with
    | error failure =>
      have hscope := truncate_size hadv₂.grows.schemaName_eq hadv₂.grows.locals_prefix
      exact ⟨hadds.next hadv₂.grows.store some_of_none hscope hadds₂.diagnostics, ok_of_error⟩
    | ok t =>
      have hnewType : (b₁.view b₂).New (b₁.nextComplex name super) :=
        ⟨hf.store.has _ ho.has, b₁.not_has_nextComplex name super⟩
      have hmade : Made setting.set (b₁.view b₂) id t :=
        .complex hkind hnewType
          ((hmade t rfl).later (Build.later_since hopened.grows.store.has) rfl)
      have hunder : Adds setting.set source b₁ b₂ := by
        refine hadds₂.ofOpened fun u hu => ?_
        have hlookup := hf.lookup_eq t rfl
        rw [hstub] at hlookup
        obtain rfl : t = u := Option.some.inj (hlookup.symm.trans hu)
        exact .definition hasked hname hmade
      refine ⟨hadds.trans hunder hadv.grows.store.has hadv₂.grows some_of_none, ?_⟩
      rintro _ ⟨⟩
      exact hmade.later (Build.later_since hadv.grows.store.has)

/-! ## Loading -/

/-- A type of any kind is made of its definition. -/
theorem makesType_buildType (hload : Loads setting load) (hprovides : Provides setting source load)
    (h : setting.Sound b) (hnew : NewName setting b name)
    (hasked : Asked setting.set source id fieldName)
    (hname : typeName setting.set (setting.set.type id) fieldName = .ok name) :
    Ends b (buildType setting load id name) (MakesType setting source id b) := by
  unfold buildType
  dsimp only
  split
  · next hkind => exact makesType_buildComplex hload hprovides h hnew hasked hname hkind
  · next definition hkind =>
    cases hvariety : definition.variety with
    | list item => exact makesType_buildList hkind hvariety
    | atomic | union =>
      refine makesType_buildSimple hprovides h hasked hname hkind fun item hlist => ?_
      rw [hvariety] at hlist
      cases hlist

/-- The type that has been made comes under its name. -/
theorem makesType_register {t : TypeRef} (hasked : Asked setting.set source id fieldName)
    (hname : typeName setting.set (setting.set.type id) fieldName = .ok name)
    (hb : Builds setting name b (.ok t) b') (hmade : MakesType setting source id b (.ok t) b') :
    Ends b' (do
      BuildM.register t
      return t) fun r b'' => MakesType setting source id b r b'' ∧
        ∀ t, r = .ok t → Named setting.set b''.store id fieldName t := by
  obtain ⟨hadds, hmade⟩ := hmade
  have hnameOf := hb.nameOf_eq t rfl
  have hnamed : Named setting.set b'.store id fieldName t :=
    .ofSchema hname (hb.has t rfl) hnameOf (hb.schemaOf?_eq t rfl)
  have hdone : ∀ b'', b''.store = b'.store → b''.diagnostics = b'.diagnostics →
      Adds setting.set source b b'' → MakesType setting source id b (.ok t) b'' ∧
        ∀ u, (.ok t : Except Failure TypeRef) = .ok u →
          Named setting.set b''.store id fieldName u := by
    intro b'' hstore hdiagnostics hadds
    refine ⟨⟨hadds, ?_⟩, ?_⟩
    · rintro _ ⟨⟩
      rw [Build.view, hstore, hdiagnostics]
      exact hmade t rfl
    · rintro _ ⟨⟩
      exact hstore ▸ hnamed
  cases hn : b'.scope.lookupLocal? name with
  | some other =>
    by_cases ho : other = t
    · subst ho
      rw [ends_bind, ends_register_of_self (hnameOf.symm ▸ hn)]
      exact hdone b' rfl rfl hadds
    · rw [ends_bind, ends_register_of_other (hnameOf.symm ▸ hn) ho]
      exact ⟨⟨hadds, ok_of_error⟩, ok_of_error⟩
  | none =>
    rw [ends_bind, ends_register_of_none (hnameOf.symm ▸ hn)]
    refine hdone (b'.replace t) rfl rfl (hadds.put fun _ => ?_)
    exact hnameOf.symm ▸ .definition hasked hname (hmade t rfl)

/-- A definition whose name means nothing is bound to a type that is made of it. -/
theorem makesType_loadStep (hset : setting.set.PlainNames) (hload : Loads setting load)
    (hprovides : Provides setting source load) (h : setting.Sound b)
    (hasked : Asked setting.set source id fieldName) (hf : Fresh setting id fieldName b name) :
    Ends b (loadStep setting load id fieldName) fun r b' => MakesType setting source id b r b' ∧
      ∀ t, r = .ok t → Named setting.set b'.store id fieldName t := by
  have hnew := hf.newName hset
  rw [hf.ends_loadStep, ends_bind]
  apply ((builds_buildType hload h hf.typeName_eq hnew).and
    (makesType_buildType hload hprovides h hnew hasked hf.typeName_eq)).mono
  rintro (failure | t) b₁ ⟨hb, hmade⟩
  · exact ⟨⟨hmade.1, ok_of_error⟩, ok_of_error⟩
  · exact makesType_register hasked hf.typeName_eq hb hmade

/-- One type is bound with its origin if those that it refers to are. -/
theorem provides_loadStep (hset : setting.set.PlainNames) (hload : Loads setting load)
    (hprovides : Provides setting source load) : Provides setting source (loadStep setting load) := by
  intro b id fieldName h hasked
  refine ends_loadStep (fun _ _ => ⟨.refl b, ok_of_error⟩) ?_ ?_ ?_
  · intro name found hn hl
    refine ⟨.refl b, ?_⟩
    rintro _ ⟨⟩
    obtain ⟨s, hs⟩ := h.schemaOf?_of_lookup? hl
    exact .ofSchema hn (h.has_of_lookup? hl) (h.nameOf_of_lookup? hl) hs
  · intro name hn _ hns
    refine ⟨.refl b, fun t ht => ?_⟩
    obtain ⟨p, hp, rfl⟩ := primitiveFor_eq_ok_iff.mp ht
    exact .primitive hn hns hp
  · intro name hn hl hns
    have hf : Fresh setting id fieldName b name := ⟨hn, hl, hns⟩
    rw [← hf.ends_loadStep]
    apply (makesType_loadStep hset hload hprovides h hasked hf).mono
    rintro r b' ⟨hmade, hnamed⟩
    exact ⟨hmade.1, hnamed⟩

/-- By induction on the depth that is left. -/
theorem provides_loadWithin (hset : setting.set.PlainNames) (source : Xsd.Schema) (depth : Nat) :
    Provides setting source (loadWithin setting depth) := by
  induction depth with
  | zero => exact fun b id fieldName _ _ => ⟨.refl b, ok_of_error⟩
  | succ depth ih => exact provides_loadStep hset (loads_loadWithin hset depth) ih

/-- Whatever has been bound before, a definition whose name means nothing is bound to a type that is
made of this very definition. -/
theorem makesType_loadWithin (hset : setting.set.PlainNames) (h : setting.Sound b) (depth : Nat)
    (hasked : Asked setting.set source id fieldName) (hf : Fresh setting id fieldName b name) :
    Ends b (loadWithin setting depth id fieldName) (MakesType setting source id b) := by
  cases depth with
  | zero => exact ⟨.refl b, ok_of_error⟩
  | succ depth =>
    have hmade := makesType_loadStep hset (loads_loadWithin hset depth)
      (provides_loadWithin hset source depth) h hasked hf
    exact hmade.mono fun _ _ hm => hm.1

end Types

/-! ## Schemas -/

/-- What has become of a global declaration: a field, or a diagnostic. -/
inductive Declared (v : View) (declared : String) (made : View → Field → Prop) :
    Option Field → Prop
  | field {f : Field} : made v f → Declared v declared made (some f)
  | leftOut {failure : Failure} : ⟨declared, failure⟩ ∈ v.diagnostics → Declared v declared made none

/-- The fields of a schema are those of its global elements, and then those of its global
attributes. -/
def GlobalFields (set : SchemaSet) (source : Xsd.Schema) (v : View) (fields : List Field) : Prop :=
  ∃ elements attributes : List (Option Field),
    fields = elements.reduceOption ++ attributes.reduceOption ∧
    List.Forall₂ (fun d => Declared v d.1 fun v f => ElementField set v.store .once d.2 f f.type)
      source.elements.entries elements ∧
    List.Forall₂ (fun d => Declared v d.1 fun v => AttributeField set v.store d.2)
      source.attributes.entries attributes

section Globals

variable {setting : Setting} {source : Xsd.Schema} {b : Build}

theorem Declared.later {v v' : View} (hv : v.Later v') {declared : String}
    {made : View → Field → Prop} (hmade : ∀ f, made v f → made v' f) {f : Option Field}
    (h : Declared v declared made f) : Declared v' declared made f := by
  cases h with
  | field hf => exact .field (hmade _ hf)
  | leftOut hd => exact .leftOut (hv.diagnostics hd)

/-- What binding global declarations promises of the build. -/
def Enters (setting : Setting) (source : Xsd.Schema) (b b' : Build) : Prop :=
  Advances setting none b b' ∧ Adds setting.set source b b'

theorem declared_globalField? (declared : String) {field : BuildM Field}
    {made : View → Field → Prop}
    (hfield : Ends b field fun r b' => Enters setting source b b' ∧
      ∀ f, r = .ok f → made (b.view b') f) :
    Passes b (globalField? declared field) fun f b' => Enters setting source b b' ∧
      Declared (b.view b') declared made f := by
  unfold globalField?
  rw [passes_bind, passes_run]
  apply hfield.mono
  rintro (failure | f) b₁ ⟨⟨hadv, hadds⟩, hf⟩
  · have hd : b₁.diagnostics ⊆ (b₁.skip declared failure).diagnostics :=
      List.subset_append_left _ _
    have hmem : ⟨declared, failure⟩ ∈ (b₁.skip declared failure).diagnostics :=
      List.mem_append_right _ List.mem_cons_self
    exact ⟨⟨hadv.quiet rfl rfl, hadds.quiet rfl rfl hd⟩, .leftOut hmem⟩
  · exact ⟨⟨hadv, hadds⟩, .field (hf f rfl)⟩

/-- Declarations one after the other. -/
theorem declared_mapM {α : Type} {step : α → StepM (Option Field)} {name : α → String}
    {made : α → View → Field → Prop}
    (hlater : ∀ a v v' f, v.Later v' → made a v f → made a v' f) {xs : List α}
    (hstep : ∀ a ∈ xs, ∀ b, setting.Sound b → Passes b (step a) fun f b' =>
      Enters setting source b b' ∧ Declared (b.view b') (name a) (made a) f)
    (h : setting.Sound b) :
    Passes b (xs.mapM step) fun fs b' => Enters setting source b b' ∧
      List.Forall₂ (fun a => Declared (b.view b') (name a) (made a)) xs fs := by
  induction xs generalizing b with
  | nil => exact ⟨⟨.refl _ h, .refl b⟩, .nil⟩
  | cons a xs ih =>
    rw [List.mapM_cons]
    simp only [passes_bind, passes_pure]
    apply (hstep a List.mem_cons_self b h).mono
    rintro f b₁ ⟨⟨hadv, hadds⟩, hf⟩
    apply (ih (fun a' hm => hstep a' (List.mem_cons_of_mem a hm)) hadv.sound).mono
    rintro fs b₂ ⟨⟨hadv', hadds'⟩, hfs⟩
    have hlast : (b.view b₁).Later (b.view b₂) :=
      Build.later_view hadv'.grows.store some_of_none hadds'.diagnostics
    have hsince : (b₁.view b₂).Later (b.view b₂) := Build.later_since hadv.grows.store.has
    refine ⟨⟨hadv.trans hadv', hadds.trans hadds' hadv.grows.store.has hadv'.grows some_of_none⟩, ?_⟩
    refine .cons (hf.later hlast fun f => hlater a _ _ f hlast) (hfs.imp fun a' f' hf' => ?_)
    exact hf'.later hsince fun f => hlater a' _ _ f hsince

/-- Binding a type adds types with their origins, and the type goes by its name. -/
theorem enters_load (hset : setting.set.PlainNames) {id : TypeId} {fieldName : String}
    (hasked : Asked setting.set source id fieldName) (h : setting.Sound b) :
    Ends b (load setting id fieldName) fun r b' => Enters setting source b b' ∧
      ∀ t, r = .ok t → Named setting.set b'.store id fieldName t := by
  obtain ⟨hadv, -⟩ := loads_load hset b id fieldName h
  obtain ⟨hadds, hnamed⟩ := provides_loadWithin hset source _ b id fieldName h hasked
  exact ⟨⟨hadv, hadds⟩, hnamed⟩

/-- A global declaration, the field of which is made of the type that is bound for it. -/
theorem declared_declaration (hset : setting.set.PlainNames) {declared : String} {id : TypeId}
    {fieldName : String} (hasked : Asked setting.set source id fieldName)
    {field : TypeRef → BuildM Field} {made : View → Field → Prop}
    (hfield : ∀ t b₁, Named setting.set b₁.store id fieldName t →
      Ends b₁ (field t) fun r b₂ => b₂ = b₁ ∧ ∀ f, r = .ok f → made (b.view b₁) f)
    (h : setting.Sound b) :
    Passes b (globalField? declared (load setting id fieldName >>= field)) fun f b' =>
      Enters setting source b b' ∧ Declared (b.view b') declared made f := by
  apply declared_globalField?
  rw [ends_bind]
  apply (enters_load hset hasked h).mono
  rintro (failure | t) b₁ ⟨henters, hnamed⟩
  · exact ⟨henters, ok_of_error⟩
  · apply (hfield t b₁ (hnamed t rfl)).mono
    rintro r _ ⟨rfl, hmade⟩
    exact ⟨henters, hmade⟩

/-- A global element has its field, or its diagnostic. -/
theorem declared_globalElement (hset : setting.set.PlainNames) {d : String × Xsd.ElementId}
    (hd : d ∈ source.elements.entries) (h : setting.Sound b) :
    Passes b (globalField? d.1 do
      let type ← load setting (setting.set.element d.2).type (setting.set.element d.2).name
      return elementField (← get).store (setting.set.element d.2) type) fun f b' =>
      Enters setting source b b' ∧ Declared (b.view b') d.1
        (fun v f => ElementField setting.set v.store .once d.2 f f.type) f := by
  refine declared_declaration hset (.element hd) (fun t b₁ hnamed => ⟨rfl, ?_⟩) h
  rintro _ ⟨⟩
  exact .single rfl hnamed

theorem declared_globalAttribute (hset : setting.set.PlainNames) {d : String × Xsd.AttributeId}
    (hd : d ∈ source.attributes.entries) (h : setting.Sound b) :
    Passes b (globalField? d.1 do
      return attributeField (setting.set.attr d.2)
        (← load setting (setting.set.attr d.2).type (setting.set.attr d.2).name)) fun f b' =>
      Enters setting source b b' ∧ Declared (b.view b') d.1
        (fun v => AttributeField setting.set v.store d.2) f := by
  refine declared_declaration hset (.globalAttribute hd) (fun t b₁ hnamed => ⟨rfl, ?_⟩) h
  rintro _ ⟨⟩
  exact ⟨rfl, hnamed⟩

/-- All global declarations. -/
theorem globalFields_globalFields (hset : setting.set.PlainNames) (source : Xsd.Schema)
    (h : setting.Sound b) :
    Passes b (globalFields setting source) fun fields b' =>
      Enters setting source b b' ∧ GlobalFields setting.set source (b.view b') fields := by
  have hlater : ∀ (d : String × Xsd.ElementId) (v v' : View) f, v.Later v' →
      ElementField setting.set v.store .once d.2 f f.type →
      ElementField setting.set v'.store .once d.2 f f.type :=
    fun _ _ _ _ hv hf => hf.later hv
  have hlater' : ∀ (d : String × Xsd.AttributeId) (v v' : View) f, v.Later v' →
      AttributeField setting.set v.store d.2 f → AttributeField setting.set v'.store d.2 f :=
    fun _ _ _ _ hv hf => hf.later hv
  unfold globalFields
  simp only [passes_bind, passes_pure]
  apply (declared_mapM hlater (fun d hd b h => declared_globalElement hset hd h) h).mono
  rintro elements b₁ ⟨⟨hadv, hadds⟩, he⟩
  apply (declared_mapM hlater' (fun d hd b h => declared_globalAttribute hset hd h)
    hadv.sound).mono
  rintro attributes b₂ ⟨⟨hadv', hadds'⟩, ha⟩
  have hlast : (b.view b₁).Later (b.view b₂) :=
    Build.later_view hadv'.grows.store some_of_none hadds'.diagnostics
  have hsince : (b₁.view b₂).Later (b.view b₂) := Build.later_since hadv.grows.store.has
  refine ⟨⟨hadv.trans hadv', hadds.trans hadds' hadv.grows.store.has hadv'.grows some_of_none⟩,
    elements, attributes, rfl, ?_, ?_⟩
  · exact he.imp fun d f hf => hf.later hlast fun f => hlater d _ _ f hlast
  · exact ha.imp fun d f hf => hf.later hsince fun f => hlater' d _ _ f hsince

/-- A schema that is bound: each of its types has its origin, and each global declaration its
field. -/
theorem origins_bindSchema (hset : setting.set.PlainNames) {store : Store}
    (hf : Fits setting.registry store) (request : Request) (source : Xsd.Schema) (log : Log) :
    let schema := (bindSchema setting store request source log).1
    let b := (bindSchema setting store request source log).2
    (∀ n t, schema.types.get? n = some t →
      Origin setting.set source ⟨store, b.store, b.diagnostics⟩ n t) ∧
    GlobalFields setting.set source ⟨store, b.store, b.diagnostics⟩ schema.fields := by
  intro schema b
  obtain ⟨⟨-, hadds⟩, hfields⟩ :=
    globalFields_globalFields hset source (sound_start hf request.name log)
  exact ⟨fun n t ht => hadds.origin n t rfl ht, hfields⟩

end Globals

end SchemaBinding.Binding
