import SchemaBinding.Proofs.Binding.Accounts

/-!
# Keeping accounts

Every complex type that is made while a schema is built has its account, if this holds of those that
a loader makes. By induction on how deep types are nested; one step of it is a lemma for each
function. The diagnostics of a build are those of the declarations that types have left out, and of
global declarations.

## Main definitions

* `Audits`: what is asked of a loader

## Main results

* `settles_elementEntry`, `settles_groupEntry`: the fields of elements and of repeated groups
* `charges_addParticles`, `charges_fillComplex`: what a complex type is filled with
* `settles_buildComplex`, `settles_buildType`: new types
* `audits_loadWithin`: binding a type with all that it refers to
* `books_globalFields`, `books_bindSchema`: the whole build
-/

namespace SchemaBinding.Binding

open Repository (ComplexId ComplexType Field ListType Scope SimpleType Store TypeRef)
open Xsd (AttributeUse ElementId Occurs Particle SchemaSet TypeId)
open Xsd.Particle (Contains labels labelsAmong repeatedGroups repeatedGroupsAmong)

/-- What is asked of a loader: each complex type that it makes, for a definition that is bound
somewhere, has its account. -/
def Audits (setting : Setting) (source : Xsd.Schema) (load : Loader) : Prop :=
  ∀ b id fieldName, setting.Sound b → Asked setting.set source id fieldName →
    Ends b (load id fieldName) fun _ b' => Settles setting.set source b b'

section Accounting

variable {setting : Setting} {source : Xsd.Schema} {load : Loader} {b b' : Build}
  {target : ComplexId} {id : TypeId} {fieldName name : String}

/-! ## Fields -/

/-- The types that the field of an element needs are settled with accounts of their own. -/
theorem settles_elementEntry (haudits : Audits setting source load) (h : setting.Sound b)
    (occurs : Occurs) {e : ElementId}
    (hasked : Asked setting.set source (setting.set.element e).type (setting.set.element e).name) :
    Ends b (elementEntry load occurs (setting.set.element e)) fun r b' =>
      Settles setting.set source b b' ∧ ∀ f, r = .ok f → f.name = (setting.set.element e).name := by
  refine ends_elementEntry ((haudits b _ _ h hasked).mono fun r b₁ hsettles => ?_)
  refine ⟨fun _ _ => ⟨hsettles, ok_of_error⟩, fun item _ => ⟨fun _ => ?_, fun _ => ?_⟩⟩
  · have hgrows : b₁.store.Grows none
        (b₁.withList (b₁.repeatedList occurs (setting.set.element e) item)).store :=
      Store.grows_addList _
    refine ⟨hsettles.next ((Build.Precedes.refl b₁).made hgrows.has rfl) hgrows rfl rfl, ?_⟩
    rintro _ ⟨⟩
    rfl
  · refine ⟨hsettles, ?_⟩
    rintro _ ⟨⟩
    rfl

/-- A declaration becomes a field or is left out. -/
theorem charges_addFieldOrSkip (ho : IsOpen b.store b.scope target) (label : Option String)
    {field : BuildM Field} (hgives : Gives setting b field)
    (hfield : Ends b field fun r b' => Settles setting.set source b b' ∧
      ∀ f, r = .ok f → f.name = partName (b.store.complex target).name label) :
    Passes b (addFieldOrSkip target (partName (b.store.complex target).name label) field)
      fun _ b' => Charges setting.set source target [label] b b' := by
  unfold addFieldOrSkip
  rw [passes_bind, passes_run]
  apply (Ends.and hgives hfield).mono
  rintro (failure | f) b₁ ⟨⟨hadv, -⟩, hsettles, hname⟩
  all_goals
    have hgrows := hadv.grows.store
    have heq := hgrows.complex_eq target ho.has (Option.some_ne_none target)
    have hsettled := Charges.ofSettles hsettles hgrows ho.has
  · rw [← heq]
    exact hsettled.trans (.skip failure label) (hgrows.weaken _) (.refl _ _) ho.has
  · have hhas := hgrows.has _ ho.has
    refine hsettled.trans (.addField f ?_ hhas) (hgrows.weaken _) (Store.grows_addField hhas f) ho.has
    rw [heq]
    exact hname f rfl

/-! ## Content -/

/-- A list that takes the place of a type leaves nothing out. -/
theorem charges_promote (hload : Loads setting load) (haudits : Audits setting source load)
    (h : setting.Sound b) (ho : IsOpen b.store b.scope target) (occurs : Occurs) {e : ElementId}
    (hasked : Asked setting.set source (setting.set.element e).type (setting.set.element e).name) :
    Ends b (promote load target occurs (setting.set.element e)) fun _ b' =>
      Charges setting.set source target [] b b' := by
  refine ends_promote (((hload b _ _ h).and (haudits b _ _ h hasked)).mono ?_)
  rintro r b₁ ⟨⟨hadv, -⟩, hsettles⟩
  refine ⟨fun _ _ => .ofSettles hsettles hadv.grows.store ho.has, fun item _ => ?_⟩
  let l := b₁.promotedList occurs (setting.set.element e) item target
  let b₂ := b₁.withPromoted occurs (setting.set.element e) item target
  have hgrows : b₁.store.Grows none b₂.store := Store.grows_addList l
  have hprecedes : b₁.Precedes (b₂.replace (.list (b₁.store.addList l).1)) :=
    ((Build.Precedes.refl b₁).made hgrows.has rfl).put (Store.not_has_addList l)
  exact .ofSettles (hsettles.next hprecedes hgrows rfl rfl) (hadv.grows.store.trans hgrows) ho.has

/-- The items of a repeated group have an account of their own. -/
theorem settles_groupEntry (h : setting.Sound b) (ho : IsOpen b.store b.scope target)
    (occurs : Occurs) {definition : Xsd.ComplexType} {children : List Particle}
    (hkind : (setting.set.type id).kind = .complex definition)
    (hmem : children ∈ repeatedGroupsAmong (particlesOf definition))
    (htitle : Titled setting.set source (b.store.complex target).name)
    {fill : ComplexId → BuildM TypeRef}
    (hfill : ∀ b item, setting.Sound b → IsOpen b.store b.scope item →
      Titled setting.set source (b.store.complex item).name →
      (b.store.complex item).fields = [] → Ends b (fill item) fun r b' =>
        Fills setting item b r b' ∧
          Charges setting.set source item (labelsAmong setting.set children) b b') :
    Ends b (groupEntry target occurs fill) fun r b' => Settles setting.set source b b' ∧
      ∀ f, r = .ok f → f.name = partName (b.store.complex target).name none := by
  let name := Naming.anonymousListItem (b.store.complex target).name
  let super := (b.store.complex target).super
  refine ends_groupEntry_of_isOpen name super h ho rfl rfl
    (fun other hn => ?_) fun hn hopened => ?_
  · -- The type has a repeated group already: the items stay without fields.
    have hstub := b.complex_nextComplex name super
    have hname := congrArg ComplexType.name hstub
    refine ⟨⟨[], .ofStub (.items htitle hname hkind hmem ⟨[], ?_, ?_⟩)⟩, ok_of_error⟩
    · exact congrArg (fun c : ComplexType => c.fields.map Field.name) hstub
    · exact List.nil_subperm
  · have hstub := b.complex_opened name super
    have hfields : ((b.opened name super).store.complex (b.nextComplex name super)).fields = [] :=
      congrArg ComplexType.fields hstub
    have htitled : Titled setting.set source
        ((b.opened name super).store.complex (b.nextComplex name super)).name := by
      rw [hstub]
      exact .items htitle
    refine (hfill _ _ hopened.sound (isOpen_opened name super b) htitled hfields).mono ?_
    rintro r b₁ ⟨hf, hcharges⟩
    have hadv := hf.advances hn hopened
    have hhas := b.has_nextComplex name super
    obtain ⟨ledger, hbooks, hcharged⟩ := hcharges.charged hfields hf.store hhas
    have hname : (b₁.store.complex (b.nextComplex name super)).name = name :=
      (hf.store.extends_complex _ hhas).name_eq.trans (congrArg ComplexType.name hstub)
    refine ⟨fun _ _ => ?_, fun t _ => ?_⟩
    · have hscope := truncate_size hadv.grows.schemaName_eq hadv.grows.locals_prefix
      refine ⟨⟨ledger, hbooks.ofDropped h.has rfl hscope rfl ?_⟩, ok_of_error⟩
      exact .items htitle hname hkind hmem (hcharged b)
    · have hgrows : b₁.store.Grows none (b₁.withList (b.groupList occurs t target)).store :=
        Store.grows_addList _
      have hkept : Settles setting.set source b b₁ :=
        ⟨ledger, hbooks.ofKept (.items htitle hname hkind hmem (hcharged b))⟩
      refine ⟨hkept.next ((Build.Precedes.refl b₁).made hgrows.has rfl) hgrows rfl rfl, ?_⟩
      rintro _ ⟨⟩
      rfl

/-- Content can be made of particles if their fields can be added. -/
theorem charges_addContent_of (hload : Loads setting load) (haudits : Audits setting source load)
    {children : List Particle}
    (hasked : ∀ e, Contains children e →
      Asked setting.set source (setting.set.element e).type (setting.set.element e).name)
    (hps : ∀ b target, setting.Sound b → IsOpen b.store b.scope target →
      Titled setting.set source (b.store.complex target).name →
      Passes b (addParticles setting load target children) fun _ b' =>
        Charges setting.set source target (labelsAmong setting.set children) b b')
    (h : setting.Sound b) (ho : IsOpen b.store b.scope target)
    (htitle : Titled setting.set source (b.store.complex target).name) :
    Ends b (addContent setting load target children) fun _ b' =>
      Charges setting.set source target (labelsAmong setting.set children) b b' := by
  unfold addContent
  rw [ends_bind, ends_get]
  dsimp only
  split
  · next hsole =>
    have he := hasked _ (contains_of_soleRepeated? hsole)
    exact (charges_promote hload haudits h ho _ he).mono fun _ _ hc => hc.mono List.nil_subperm
  · rw [ends_bind, ends_liftState]
    exact hps b target h ho htitle

section Particles

variable {definition : Xsd.ComplexType}

mutual

/-- A type is charged with the labels of a particle that are left out, by recursion on the particle.
-/
theorem charges_addParticle {b : Build} {target : ComplexId} (hload : Loads setting load)
    (haudits : Audits setting source load)
    (hkind : (setting.set.type id).kind = .complex definition) (p : Particle)
    (hgroups : p.repeatedGroups ⊆ repeatedGroupsAmong (particlesOf definition))
    (hasked : ∀ e, Contains [p] e →
      Asked setting.set source (setting.set.element e).type (setting.set.element e).name)
    (h : setting.Sound b) (ho : IsOpen b.store b.scope target)
    (htitle : Titled setting.set source (b.store.complex target).name) :
    Passes b (addParticle setting load target p) fun _ b' =>
      Charges setting.set source target (p.labels setting.set) b b' := by
  match p with
  | .element occurs e =>
    unfold addParticle labels
    have he := hasked e (.element List.mem_cons_self)
    exact charges_addFieldOrSkip ho (some (setting.set.element e).name)
      (gives_elementEntry hload h occurs _) (settles_elementEntry haudits h occurs he)
  | .group occurs compositor children =>
    have hinner : ∀ e, Contains children e →
        Asked setting.set source (setting.set.element e).type (setting.set.element e).name :=
      fun e he => hasked e (.group List.mem_cons_self he)
    unfold repeatedGroups at hgroups
    have hwithin : repeatedGroupsAmong children ⊆ repeatedGroupsAmong (particlesOf definition) :=
      fun ps hm => hgroups (List.mem_append_right _ hm)
    unfold addParticle labels
    split
    · next hm =>
      rw [passes_bind, passes_get]
      rw [if_pos hm] at hgroups
      have hmem := hgroups (List.mem_append_left _ List.mem_cons_self)
      have hfill : ∀ b item, setting.Sound b → IsOpen b.store b.scope item →
          Titled setting.set source (b.store.complex item).name →
          (b.store.complex item).fields = [] →
          Ends b (addContent setting load item children) fun r b' => Fills setting item b r b' ∧
            Charges setting.set source item (labelsAmong setting.set children) b b' := by
        intro b item hb hitem htitle hfields
        apply (fills_addContent hload children hb hitem hfields).and
        refine charges_addContent_of hload haudits hinner (fun b target hb ho htitle => ?_) hb hitem
          htitle
        exact charges_addParticles hload haudits hkind children hwithin hinner hb ho htitle
      have hgives := gives_groupEntry h ho occurs fun b item hb hitem hfields =>
        fills_addContent hload children hb hitem hfields
      exact charges_addFieldOrSkip ho none hgives
        (settles_groupEntry h ho occurs hkind hmem htitle hfill)
    · exact charges_addParticles hload haudits hkind children hwithin hinner h ho htitle
  | .wildcard occurs =>
    unfold addParticle labels
    exact .ofSettles ((Settles.refl b).quiet rfl rfl rfl) (.refl none _) ho.has

theorem charges_addParticles {b : Build} {target : ComplexId} (hload : Loads setting load)
    (haudits : Audits setting source load)
    (hkind : (setting.set.type id).kind = .complex definition) (ps : List Particle)
    (hgroups : repeatedGroupsAmong ps ⊆ repeatedGroupsAmong (particlesOf definition))
    (hasked : ∀ e, Contains ps e →
      Asked setting.set source (setting.set.element e).type (setting.set.element e).name)
    (h : setting.Sound b) (ho : IsOpen b.store b.scope target)
    (htitle : Titled setting.set source (b.store.complex target).name) :
    Passes b (addParticles setting load target ps) fun _ b' =>
      Charges setting.set source target (labelsAmong setting.set ps) b b' := by
  match ps with
  | [] =>
    unfold addParticles labelsAmong
    exact .refl ho.has
  | p :: ps =>
    rw [repeatedGroupsAmong] at hgroups
    unfold addParticles labelsAmong
    rw [passes_bind]
    have hp := charges_addParticle hload haudits hkind p
      (fun g hm => hgroups (List.mem_append_left _ hm))
      (fun e he => hasked e (he.mono (List.cons_subset_cons p (List.nil_subset ps)))) h ho htitle
    apply ((advances_addParticle hload p h ho).and hp).mono
    rintro _ b₁ ⟨hadv, hcharges⟩
    have ho₁ := hadv.grows.isOpen ho
    have hname := (hadv.grows.store.extends_complex target ho.has).name_eq
    have hps := charges_addParticles hload haudits hkind ps
      (fun g hm => hgroups (List.mem_append_right _ hm))
      (fun e he => hasked e (he.mono (List.subset_cons_self p ps))) hadv.sound ho₁
      (hname.symm ▸ htitle)
    apply ((advances_addParticles hload ps hadv.sound ho₁).and hps).mono
    rintro _ b₂ ⟨hadv', hcharges'⟩
    exact hcharges.trans hcharges' hadv.grows.store hadv'.grows.store ho.has

end

/-- A type is charged with what its content leaves out. -/
theorem charges_makeContent (hload : Loads setting load) (haudits : Audits setting source load)
    (hkind : (setting.set.type id).kind = .complex definition)
    (hasked : ∀ e, Contains (particlesOf definition) e →
      Asked setting.set source (setting.set.element e).type (setting.set.element e).name)
    (h : setting.Sound b) (ho : IsOpen b.store b.scope target)
    (htitle : Titled setting.set source (b.store.complex target).name) :
    Ends b (makeContent setting load definition target) fun _ b' =>
      Charges setting.set source target (labelsAmong setting.set (particlesOf definition)) b b' := by
  have hnone : Charges setting.set source target
      (labelsAmong setting.set (particlesOf definition)) b b :=
    (Charges.refl ho.has).mono List.nil_subperm
  have hall : repeatedGroupsAmong (particlesOf definition) ⊆
      repeatedGroupsAmong (particlesOf definition) := List.Subset.refl _
  unfold makeContent
  split
  · exact hnone
  · exact hnone
  · next children hcontent =>
    have hps : particlesOf definition = children := by
      unfold particlesOf
      rw [hcontent]
    rw [hps] at hasked hall ⊢
    refine charges_addContent_of hload haudits hasked (fun b target hb ho htitle => ?_) h ho htitle
    exact charges_addParticles hload haudits hkind _ (hps.symm ▸ hall) hasked hb ho htitle
  · exact hnone

/-! ## Attributes -/

/-- A type is charged with the labels of the attributes that are added to it. -/
theorem charges_addAttributes (hload : Loads setting load) (haudits : Audits setting source load)
    {uses : List AttributeUse}
    (hasked : ∀ use ∈ uses, Asked setting.set source (setting.set.attr use.declaration).type
      (setting.set.attr use.declaration).name)
    (h : setting.Sound b) (ho : IsOpen b.store b.scope target) :
    Ends b (addAttributes setting.set load target uses) fun _ b' =>
      Charges setting.set source target (useLabels setting.set uses) b b' := by
  induction uses generalizing b with
  | nil => exact .refl ho.has
  | cons use uses ih =>
    unfold addAttributes
    simp only [ends_bind, ends_attempt]
    apply ((hload b _ _ h).and (haudits b _ _ h (hasked use List.mem_cons_self))).mono
    rintro (failure | t) b₁ ⟨⟨hadv, ht⟩, hsettles⟩
    all_goals have hsettled := Charges.ofSettles hsettles hadv.grows.store ho.has
    · exact hsettled.mono List.nil_subperm
    · have ho₁ := hadv.grows.isOpen ho
      let field := attributeField (setting.set.attr use.declaration) t
      have hfield : Advances setting (some target) b₁ (b₁.addField target field) :=
        .addField hadv.sound ho₁ (.settled (ht t rfl))
      have hadv' := (hadv.weaken (some target)).trans hfield
      have hone : Charges setting.set source target
          [some (setting.set.attr use.declaration).name] b (b₁.addField target field) :=
        hsettled.trans (.addField field rfl ho₁.has) (hadv.grows.store.weaken _) hfield.grows.store
          ho.has
      have hrest := ih (fun use' hm => hasked use' (List.mem_cons_of_mem _ hm)) hfield.sound
        (hadv'.grows.isOpen ho)
      dsimp only
      rw [ends_bind, ends_modify]
      apply ((advances_addAttributes hload setting.set uses hfield.sound
        (hadv'.grows.isOpen ho)).and hrest).mono
      rintro r b₂ ⟨hadv₂, hcharges⟩
      exact hone.trans hcharges hadv'.grows.store hadv₂.grows.store ho.has

/-- What a complex type is filled with: its particles, and the attributes that it gets by whether it
has a super type. -/
theorem charges_fillComplex (hload : Loads setting load) (haudits : Audits setting source load)
    (hasked : Asked setting.set source id fieldName)
    (hkind : (setting.set.type id).kind = .complex definition)
    (h : setting.Sound b) (ho : IsOpen b.store b.scope target)
    (htitle : Titled setting.set source (b.store.complex target).name)
    (hfields : (b.store.complex target).fields = []) :
    Ends b (fillComplex setting load id definition target) fun _ b' =>
      Charges setting.set source target (labelsAmong setting.set (particlesOf definition) ++
        useLabels setting.set (attributesToAdd setting.set id (b.store.complex target).super.isSome))
        b b' := by
  have hcontent := charges_makeContent hload haudits hkind
    (fun e he => .mention hasked (.element hkind he)) h ho htitle
  unfold fillComplex
  rw [ends_bind]
  apply ((fills_makeContent hload h ho hfields definition).and hcontent).mono
  rintro (failure | type) b₁ ⟨hf, hcharges⟩
  all_goals have hnone := hcharges.mono (List.sublist_append_left _ (useLabels setting.set
    (attributesToAdd setting.set id (b.store.complex target).super.isSome))).subperm
  · exact hnone
  · dsimp only
    rw [ends_bind]
    unfold makeAttributes
    simp only [ends_bind, ends_get, ends_pure]
    cases hlist : type.isList with
    | true =>
      rw [if_pos rfl]
      split
      · exact hnone.quiet rfl rfl rfl
      · exact hnone
    | false =>
      -- The only result that is no list is the type itself.
      obtain rfl : type = .complex target := by
        apply (hf.result type rfl).resolve_right
        intro hl
        rw [hlist] at hl
        cases hl
      rw [if_neg Bool.false_ne_true]
      have ho₁ := hf.isOpen ho
      rw [(hf.store.extends_complex target ho.has).super_eq]
      have huses := fun use
        (hm : use ∈ attributesToAdd setting.set id (b.store.complex target).super.isSome) =>
        hasked.mention (Mentions.use hkind hm)
      apply ((advances_addAttributes hload _ _ hf.sound ho₁).and
        (charges_addAttributes hload haudits huses hf.sound ho₁)).mono
      rintro (failure | _) b₂ ⟨hadv, hattributes⟩
      · exact hcharges.trans hattributes hf.store hadv.grows.store ho.has
      · exact hcharges.trans hattributes hf.store hadv.grows.store ho.has

end Particles

/-! ## Types -/

/-- The super type of a simple type is settled with an account of its own. -/
theorem settles_simpleSuper (haudits : Audits setting source load) (h : setting.Sound b)
    (hasked : Asked setting.set source id fieldName)
    (hname : typeName setting.set (setting.set.type id) fieldName = .ok name) :
    Ends b (simpleSuper setting.set load id name) fun _ b' => Settles setting.set source b b' :=
  ends_simpleSuper (.refl b) ((haudits b _ name h (.base hasked hname)).mono fun _ _ hsettles =>
    ⟨fun _ _ => hsettles, fun _ _ => hsettles.quiet rfl rfl rfl⟩)

/-- The super type is what the base is bound to, which is another definition. -/
theorem settles_complexSuper (hprovides : Provides setting source load)
    (haudits : Audits setting source load) (h : setting.Sound b)
    (hasked : Asked setting.set source id fieldName)
    (hname : typeName setting.set (setting.set.type id) fieldName = .ok name) :
    Ends b (complexSuper setting.set load id name) fun r b' => Settles setting.set source b b' ∧
      ∀ above, r = .ok (some above) → setting.set.baseOf id ≠ id ∧
        Named setting.set b'.store (setting.set.baseOf id) name (.complex above) := by
  have hnone : ∀ {b₁ : Build}, ∀ above,
      (.ok none : Except Failure (Option ComplexId)) = .ok (some above) →
        setting.set.baseOf id ≠ id ∧
          Named setting.set b₁.store (setting.set.baseOf id) name (.complex above) := by
    rintro b₁ above ⟨⟩
  refine ends_complexSuper ⟨.refl b, hnone⟩ fun hbase => ?_
  have hask := hasked.base hname
  apply ((hprovides b _ name h hask).and (haudits b _ name h hask)).mono
  rintro r b₁ ⟨⟨-, hnamed⟩, hsettles⟩
  refine ⟨fun c hr => ⟨hsettles, ?_⟩, fun _ _ => ⟨hsettles.quiet rfl rfl rfl, hnone⟩⟩
  rintro _ ⟨⟩
  exact ⟨hbase, hnamed _ hr⟩

/-- Building a simple type settles what is bound for it, and gives no complex type. -/
theorem settles_buildSimple (haudits : Audits setting source load) (h : setting.Sound b)
    (hasked : Asked setting.set source id fieldName)
    (hname : typeName setting.set (setting.set.type id) fieldName = .ok name)
    (definition : Xsd.SimpleType) :
    Ends b (buildSimple setting.set load id name definition) fun r b' =>
      Settles setting.set source b b' ∧ ∀ c, r ≠ .ok (.complex c) := by
  refine ends_buildSimple (settles_simpleSuper haudits h hasked hname) ?_ ?_ ?_
  · exact fun failure b₁ hsettles => ⟨hsettles, nofun⟩
  · exact fun super b₁ failure hsettles _ => ⟨hsettles, nofun⟩
  · intro super b₁ restrictions hsettles _ _
    have hgrows : b₁.store.Grows none _ :=
      Store.grows_addSimple ⟨name, b₁.scope.schemaName, super, restrictions⟩
    exact ⟨hsettles.next ((Build.Precedes.refl b₁).made hgrows.has rfl) hgrows rfl rfl, nofun⟩

theorem settles_buildList (definition : Xsd.TypeDefinition) (item : TypeId) :
    Ends b (buildList setting definition item) fun r b' =>
      Settles setting.set source b b' ∧ ∀ c, r ≠ .ok (.complex c) := by
  refine ends_buildList ⟨.refl b, nofun⟩ (fun _ => ⟨.refl b, nofun⟩) ?_
  intro n type _ _
  have hgrows : b.store.Grows none _ :=
    Store.grows_addList (ListType.ofItem n b.scope.schemaName type)
  exact ⟨(Settles.refl b).next ((Build.Precedes.refl b).made hgrows.has rfl) hgrows rfl rfl, nofun⟩

/-- The account of a type that has been opened for a definition. Its super type has been made
before, and stays what the base is bound to. -/
theorem account_opened (hasked : Asked setting.set source id fieldName)
    (hname : typeName setting.set (setting.set.type id) fieldName = .ok name)
    {definition : Xsd.ComplexType} (hkind : (setting.set.type id).kind = .complex definition)
    {super : Option ComplexId}
    (hbase : ∀ above, super = some above → setting.set.baseOf id ≠ id ∧
      Named setting.set b.store (setting.set.baseOf id) name (.complex above))
    (hlater : (b.view b).Later (b.view b'))
    (hext : (b.stub name super).Extends (b'.store.complex (b.nextComplex name super)))
    {scope : Scope} {ledger : Ledger}
    (hmade : scope.lookupLocal? name = some (.complex (b.nextComplex name super)) →
      Made setting.set (b.view b') id (.complex (b.nextComplex name super)))
    (hcharged : Charged (b.view b') ledger (b.nextComplex name super)
      (labelsAmong setting.set (particlesOf definition) ++
        useLabels setting.set (attributesToAdd setting.set id super.isSome))) :
    Account setting.set source (b.view b') scope ledger (b.nextComplex name super) := by
  have hsuper_eq : ((b.view b').store.complex (b.nextComplex name super)).super = super :=
    hext.super_eq
  have hname_eq : ((b.view b').store.complex (b.nextComplex name super)).name = name :=
    hext.name_eq
  refine .definition hasked (hname_eq.symm ▸ hname) hkind (fun above habove => ?_)
    (hname_eq.symm ▸ hmade) (hsuper_eq.symm ▸ hcharged)
  obtain rfl := hsuper_eq.symm.trans habove
  obtain ⟨hne, hnamed⟩ := hbase above rfl
  refine ⟨?_, hne, hname_eq.symm ▸ hnamed.later hlater⟩
  cases hnamed with
  | type _ hhas _ _ => exact hhas

/-- A type that cannot be opened stays without fields. -/
theorem settles_withStub (hasked : Asked setting.set source id fieldName)
    (hname : typeName setting.set (setting.set.type id) fieldName = .ok name)
    {definition : Xsd.ComplexType} (hkind : (setting.set.type id).kind = .complex definition)
    {super : Option ComplexId}
    (hbase : ∀ above, super = some above → setting.set.baseOf id ≠ id ∧
      Named setting.set b.store (setting.set.baseOf id) name (.complex above))
    (hhas : ∀ n t, b.scope.lookupLocal? n = some t → b.store.Has t) :
    Settles setting.set source b (b.withStub name super) := by
  have hstub := b.complex_nextComplex name super
  have hgrows : b.store.Grows none (b.withStub name super).store := Store.grows_addComplex _
  have hext : (b.stub name super).Extends
      ((b.withStub name super).store.complex (b.nextComplex name super)) := by
    rw [hstub]
    exact .refl _
  refine ⟨[], .ofStub (account_opened hasked hname hkind hbase ?_ hext (fun hl => ?_)
    ⟨[], ?_, List.nil_subperm⟩)⟩
  · exact Build.later_view hgrows some_of_none (List.Subset.refl _)
  · exact absurd (hhas _ _ hl) (b.not_has_nextComplex name super)
  · exact congrArg (fun c : ComplexType => c.fields.map Field.name) hstub

/-- A type that has been opened and filled has its account, whether it stays or is dropped. -/
theorem settles_fillComplex (hload : Loads setting load) (hprovides : Provides setting source load)
    (haudits : Audits setting source load) (hhas : ∀ n t, b.scope.lookupLocal? n = some t →
      b.store.Has t)
    (hasked : Asked setting.set source id fieldName)
    (hname : typeName setting.set (setting.set.type id) fieldName = .ok name)
    {definition : Xsd.ComplexType} (hkind : (setting.set.type id).kind = .complex definition)
    {super : Option ComplexId}
    (hbase : ∀ above, super = some above → setting.set.baseOf id ≠ id ∧
      Named setting.set b.store (setting.set.baseOf id) name (.complex above))
    (hn : b.scope.lookupLocal? name = none)
    (hopened : Advances setting none b (b.opened name super)) :
    Ends (b.opened name super)
      (fillComplex setting load id definition (b.nextComplex name super)) fun r b' =>
        Advances setting none b b' ∧
        match r with
        | .error _ => Settles setting.set source b
            { b' with scope := (b'.scope.truncate b.scope.size).2 }
        | .ok _ => Settles setting.set source b b' := by
  let c := b.nextComplex name super
  have ho := isOpen_opened name super b
  have hstub := b.complex_opened name super
  have hfields : ((b.opened name super).store.complex c).fields = [] :=
    congrArg ComplexType.fields hstub
  have htitle : Titled setting.set source ((b.opened name super).store.complex c).name := by
    rw [hstub]
    exact .definition hasked hname
  refine ((fills_fillComplex hload hopened.sound ho hfields id definition).and
    ((filled_fillComplex hload hprovides hasked hkind hopened.sound ho hfields).and
      (charges_fillComplex hload haudits hasked hkind hopened.sound ho htitle hfields))).mono ?_
  rintro r b' ⟨hf, ⟨-, hmade⟩, hcharges⟩
  have hadv := hf.advances hn hopened
  have hc := b.has_nextComplex name super
  obtain ⟨ledger, hbooks, hcharged⟩ := hcharges.charged hfields hf.store hc
  have hext := hf.store.extends_complex c hc
  rw [hstub] at hext hcharged
  have hlater : (b.view b).Later (b.view b') :=
    Build.later_view hadv.grows.store some_of_none hbooks.diagnostics_subset
  refine ⟨hadv, ?_⟩
  cases r with
  | error failure =>
    have hscope := truncate_size hadv.grows.schemaName_eq hadv.grows.locals_prefix
    refine ⟨ledger, hbooks.ofDropped hhas rfl hscope rfl ?_⟩
    refine account_opened hasked hname hkind hbase hlater hext (fun hl => ?_) (hcharged b)
    exact absurd (hhas _ _ hl) (b.not_has_nextComplex name super)
  | ok t =>
    refine ⟨ledger, hbooks.ofKept ?_⟩
    refine account_opened hasked hname hkind hbase hlater hext (fun hl => ?_) (hcharged b)
    have hlookup := hf.lookup_eq t rfl
    rw [hstub] at hlookup
    obtain rfl : t = .complex c := Option.some.inj (hlookup.symm.trans hl)
    have hnewType : (b.view b').New c :=
      ⟨hf.store.has _ ho.has, b.not_has_nextComplex name super⟩
    exact .complex hkind hnewType
      ((hmade _ rfl).later (Build.later_since hopened.grows.store.has) rfl)

/-- A complex type has its account, whether it keeps its place or not. -/
theorem settles_buildComplex (hload : Loads setting load) (hprovides : Provides setting source load)
    (haudits : Audits setting source load) (h : setting.Sound b) (hnew : NewName setting b name)
    (hasked : Asked setting.set source id fieldName)
    (hname : typeName setting.set (setting.set.type id) fieldName = .ok name)
    {definition : Xsd.ComplexType} (hkind : (setting.set.type id).kind = .complex definition) :
    Ends b (buildComplex setting load id name definition) fun _ b' =>
      Settles setting.set source b b' := by
  refine ends_buildComplex hload h (settles_complexSuper hprovides haudits h hasked hname) ?_ ?_
  · rintro super b₁ ⟨hsettles, hbase⟩ hadv -
    replace hbase := fun above (habove : super = some above) =>
      hbase above (congrArg Except.ok habove)
    exact hsettles.trans (settles_withStub hasked hname hkind hbase hadv.sound.has)
      (Store.grows_addComplex _)
  · rintro super b₁ ⟨hsettles, hbase⟩ hadv hsettled hn
    replace hbase := fun above (habove : super = some above) =>
      hbase above (congrArg Except.ok habove)
    have hopened : Advances setting none b₁ (b₁.opened name super) :=
      hadv.openedNamed h hnew hn hsettled
    apply (settles_fillComplex hload hprovides haudits hadv.sound.has hasked hname hkind hbase hn
      hopened).mono
    rintro (failure | t) b₂ ⟨hadv₂, hsettles₂⟩
    · exact (hsettles.trans hsettles₂ hadv₂.grows.store).quiet rfl rfl rfl
    · exact hsettles.trans hsettles₂ hadv₂.grows.store

/-- A type is settled with all that has been made for it. -/
theorem settles_buildType (hload : Loads setting load) (hprovides : Provides setting source load)
    (haudits : Audits setting source load) (h : setting.Sound b) (hnew : NewName setting b name)
    (hasked : Asked setting.set source id fieldName)
    (hname : typeName setting.set (setting.set.type id) fieldName = .ok name) :
    Ends b (buildType setting load id name) fun r b' => Settles setting.set source b b' ∧
      ∀ c, r = .ok (.complex c) → b'.scope.lookupLocal? name = some (.complex c) := by
  unfold buildType
  dsimp only
  split
  · next definition hkind =>
    apply ((enters_buildComplex hload h hnew id definition).and
      (settles_buildComplex hload hprovides haudits h hnew hasked hname hkind)).mono
    rintro r b₁ ⟨⟨-, hl⟩, hsettles⟩
    exact ⟨hsettles, fun c hc => hl _ hc⟩
  · next definition _ =>
    split
    · exact (settles_buildList _ _).mono fun _ _ ⟨hs, hne⟩ => ⟨hs, fun c hc => absurd hc (hne c)⟩
    all_goals
      apply (settles_buildSimple haudits h hasked hname definition).mono
      exact fun _ _ ⟨hs, hne⟩ => ⟨hs, fun c hc => absurd hc (hne c)⟩

/-! ## Loading -/

/-- A type that comes under its name only now is no complex type. -/
theorem settles_register {t : TypeRef} (hb : Builds setting name b (.ok t) b')
    (hnew : ¬ b.store.Has t) (hsettles : Settles setting.set source b b')
    (hcomplex : ∀ c, t = .complex c → b'.scope.lookupLocal? name = some (.complex c)) :
    Ends b' (do
      BuildM.register t
      return t) fun _ b'' => Settles setting.set source b b'' := by
  have hnameOf := hb.nameOf_eq t rfl
  cases hn : b'.scope.lookupLocal? name with
  | some other =>
    by_cases ho : other = t
    · subst ho
      rw [ends_bind, ends_register_of_self (hnameOf.symm ▸ hn)]
      exact hsettles
    · rw [ends_bind, ends_register_of_other (hnameOf.symm ▸ hn) ho]
      exact hsettles
  | none =>
    rw [ends_bind, ends_register_of_none (hnameOf.symm ▸ hn)]
    obtain ⟨ledger, hbooks⟩ := hsettles
    refine ⟨ledger, hbooks.put hnew fun c hc => ?_⟩
    rw [hcomplex c hc] at hn
    cases hn

/-- One type is bound with an account of what is made if those that it refers to are. -/
theorem audits_loadStep (hset : setting.set.PlainNames) (hload : Loads setting load)
    (hprovides : Provides setting source load) (hproceeds : Proceeds load)
    (haudits : Audits setting source load) : Audits setting source (loadStep setting load) := by
  intro b id fieldName h hasked
  refine ends_loadStep (fun _ _ => .refl b) (fun _ _ _ _ => .refl b) (fun _ _ _ _ => .refl b) ?_
  intro name hn hl hns
  have hnew : NewName setting b name := Fresh.newName hset ⟨hn, hl, hns⟩
  rw [ends_bind]
  apply ((builds_buildType hload h hn hnew).and ((precedes_buildType hproceeds id name).and
    (settles_buildType hload hprovides haudits h hnew hasked hn))).mono
  rintro (failure | t) b₁ ⟨hb, ⟨-, ht⟩, hsettles, hcomplex⟩
  · exact hsettles
  · refine settles_register hb (ht t rfl) hsettles ?_
    rintro c rfl
    exact hcomplex c rfl

/-- By induction on the depth that is left. -/
theorem audits_loadWithin (hset : setting.set.PlainNames) (source : Xsd.Schema) (depth : Nat) :
    Audits setting source (loadWithin setting depth) := by
  induction depth with
  | zero => exact fun b id fieldName _ _ => .refl b
  | succ depth ih =>
    exact audits_loadStep hset (loads_loadWithin hset depth) (provides_loadWithin hset source depth)
      (proceeds_loadWithin depth) ih

end Accounting

/-! ## Schemas -/

section Globals

variable {setting : Setting} {source : Xsd.Schema} {b : Build}

/-- A global declaration is in the accounts, or has its field. -/
theorem books_globalField? (declared : String) {field : BuildM Field}
    (hfield : Ends b field fun _ b' =>
      Advances setting none b b' ∧ Settles setting.set source b b') :
    Passes b (globalField? declared field) fun _ b' => Advances setting none b b' ∧
      ∃ ledger globals, Books setting.set source none b b' ledger globals ∧
        globals.Sublist [declared] := by
  unfold globalField?
  rw [passes_bind, passes_run]
  apply hfield.mono
  rintro (failure | f) b₁ ⟨hadv, ledger, hbooks⟩
  · exact ⟨hadv.quiet rfl rfl, ledger ++ [], _,
      hbooks.trans (.skip b₁ declared failure) (.refl none _) some_of_none, .refl _⟩
  · exact ⟨hadv, ledger, [], hbooks, List.nil_sublist _⟩

/-- Declarations one after the other. -/
theorem books_mapM {α : Type} {step : α → StepM (Option Field)} {name : α → String} {xs : List α}
    (hstep : ∀ a ∈ xs, ∀ b, setting.Sound b → Passes b (step a) fun _ b' =>
      Advances setting none b b' ∧ ∃ ledger globals,
        Books setting.set source none b b' ledger globals ∧ globals.Sublist [name a])
    (h : setting.Sound b) :
    Passes b (xs.mapM step) fun _ b' => Advances setting none b b' ∧ ∃ ledger globals,
      Books setting.set source none b b' ledger globals ∧ globals.Sublist (xs.map name) := by
  induction xs generalizing b with
  | nil => exact ⟨.refl _ h, [], [], .refl none b, .refl []⟩
  | cons a xs ih =>
    rw [List.mapM_cons]
    simp only [passes_bind, passes_pure]
    apply (hstep a List.mem_cons_self b h).mono
    rintro f b₁ ⟨hadv, ledger, globals, hbooks, hsub⟩
    apply (ih (fun a' hm => hstep a' (List.mem_cons_of_mem a hm)) hadv.sound).mono
    rintro fs b₂ ⟨hadv', ledger', globals', hbooks', hsub'⟩
    exact ⟨hadv.trans hadv', _, _, hbooks.trans hbooks' hadv'.grows.store some_of_none,
      hsub.append hsub'⟩

/-- What is bound for a global declaration is settled. -/
theorem settles_load (hset : setting.set.PlainNames) {id : TypeId} {fieldName : String}
    (hasked : Asked setting.set source id fieldName) (h : setting.Sound b) :
    Ends b (load setting id fieldName) fun _ b' =>
      Advances setting none b b' ∧ Settles setting.set source b b' := by
  apply ((loads_load hset b id fieldName h).and
    (audits_loadWithin hset source _ b id fieldName h hasked)).mono
  exact fun _ _ ⟨⟨hadv, _⟩, hsettles⟩ => ⟨hadv, hsettles⟩

/-- A global declaration is in the accounts under its own name, if it is left out. -/
theorem books_declaration (hset : setting.set.PlainNames) {declared : String} {id : TypeId}
    {fieldName : String} (hasked : Asked setting.set source id fieldName)
    {field : TypeRef → BuildM Field} (hfield : FieldOfType field) (h : setting.Sound b) :
    Passes b (globalField? declared (load setting id fieldName >>= field)) fun _ b' =>
      Advances setting none b b' ∧ ∃ ledger globals,
        Books setting.set source none b b' ledger globals ∧ globals.Sublist [declared] := by
  apply books_globalField?
  rw [ends_bind]
  apply (settles_load hset hasked h).mono
  rintro (failure | t) b₁ hsettles
  · exact hsettles
  · apply (hfield t b₁).mono
    rintro r _ ⟨rfl, -⟩
    exact hsettles

/-- All global declarations. -/
theorem books_globalFields (hset : setting.set.PlainNames) (source : Xsd.Schema)
    (h : setting.Sound b) :
    Passes b (globalFields setting source) fun _ b' => Advances setting none b b' ∧
      ∃ ledger globals, Books setting.set source none b b' ledger globals ∧
        globals.Sublist (source.elements.keys ++ source.attributes.keys) := by
  unfold globalFields
  simp only [passes_bind, passes_pure]
  apply (books_mapM (fun d hd _ =>
    books_declaration hset (.element hd) (fieldOfType_elementField _)) h).mono
  rintro _ b₁ ⟨hadv, ledger, globals, hbooks, hsub⟩
  apply (books_mapM (fun d hd _ =>
    books_declaration hset (.globalAttribute hd) (fieldOfType_attributeField _)) hadv.sound).mono
  rintro _ b₂ ⟨hadv', ledger', globals', hbooks', hsub'⟩
  exact ⟨hadv.trans hadv', _, _, hbooks.trans hbooks' hadv'.grows.store some_of_none,
    hsub.append hsub'⟩

/-- A schema that is bound: the diagnostics are those of the declarations in a ledger, in which each
complex type that has been made has its account, and of global declarations. -/
theorem books_bindSchema (hset : setting.set.PlainNames) {store : Store}
    (hf : Fits setting.registry store) (request : Request) (source : Xsd.Schema) (log : Log) :
    ∃ ledger globals, Books setting.set source none (.start store request.name log)
      (bindSchema setting store request source log).2 ledger globals ∧
        globals.Sublist (source.elements.keys ++ source.attributes.keys) :=
  (books_globalFields hset source (sound_start hf request.name log)).2

end Globals

end SchemaBinding.Binding
