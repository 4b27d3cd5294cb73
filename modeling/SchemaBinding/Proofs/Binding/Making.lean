import SchemaBinding.Proofs.Binding.Provenance
import SchemaBinding.Proofs.Binding.Reached

/-!
# Making content

What comes into the scope while the content of a complex type is made has been made of a definition
that is bound under its name, or of the items of a group, if this holds of the loader that binds the
types of elements; and each particle has become the field that it should.

## Main definitions

* `Build.view`: what a build has made since an earlier one
* `Adds`: what every part of a build promises of what comes into the scope
* `Puts`: what adding the fields of particles promises
* `Provides`: what is asked of a loader

## Main results

* `Adds.next`, `Adds.put`, `Adds.ofOpened`: single changes
* `makesField_elementEntry`, `makesField_groupEntry`: the fields of elements and of repeated groups
* `makesContent_promote`: a list in the place of a complex type
* `puts_addParticles`, `makesContent_addContent`: content
-/

namespace SchemaBinding.Binding

open Repository (ComplexId ComplexType Field ListType SimpleType Store TypeRef)
open Xsd (AttributeUse Compositor ElementId Occurs Particle SchemaSet TypeId)
open Xsd.Particle (Contains)

/-- What a build has made since an earlier one. -/
def Build.view (first b : Build) : View := ⟨first.store, b.store, b.diagnostics⟩

section Views

variable {setting : Setting} {target : Option ComplexId} {first b b' : Build}

/-- More may be made, if only types that were there get fields. -/
theorem Build.later_view (hg : b.store.Grows target b'.store)
    (ht : ∀ c, target = some c → first.store.Has (.complex c))
    (hd : b.diagnostics ⊆ b'.diagnostics) : (first.view b).Later (first.view b') :=
  ⟨fun _ h => h, .ofGrows hg ht, hd⟩

/-- What has been made since a build has been made since an earlier one. -/
theorem Build.later_since (h : ∀ t, first.store.Has t → b.store.Has t) :
    (b.view b').Later (first.view b') :=
  ⟨h, .ofGrows (.refl none _) some_of_none, List.Subset.refl _⟩

end Views

/-! ## What comes into the scope -/

/-- What every part of a build promises: what comes under a name in the scope has its origin, and no
diagnostic is lost. -/
structure Adds (set : SchemaSet) (source : Xsd.Schema) (b b' : Build) : Prop where
  diagnostics : b.diagnostics ⊆ b'.diagnostics
  origin : ∀ n t, b.scope.lookupLocal? n = none → b'.scope.lookupLocal? n = some t →
    Origin set source (b.view b') n t

namespace Adds

variable {set : SchemaSet} {source : Xsd.Schema} {b b' b'' : Build}

/-- Nothing need come into the scope. -/
theorem ofScope (hscope : b'.scope = b.scope) (hd : b.diagnostics ⊆ b'.diagnostics) :
    Adds set source b b' := by
  refine ⟨hd, fun n t hn ht => ?_⟩
  rw [hscope, hn] at ht
  cases ht

theorem refl (b : Build) : Adds set source b b := ofScope rfl (List.Subset.refl _)

theorem trans {target : Option ComplexId} (h : Adds set source b b') (h' : Adds set source b' b'')
    (hhas : ∀ t, b.store.Has t → b'.store.Has t) (hg : Build.Grows target b' b'')
    (ht : ∀ c, target = some c → b.store.Has (.complex c)) : Adds set source b b'' := by
  refine ⟨List.Subset.trans h.diagnostics h'.diagnostics, fun n t hn hl => ?_⟩
  cases hl' : b'.scope.lookupLocal? n with
  | none => exact (h'.origin n t hl' hl).later (Build.later_since hhas)
  | some u =>
    obtain rfl : u = t := Option.some.inj ((hg.lookupLocal? hl').symm.trans hl)
    exact (h.origin n u hn hl').later (Build.later_view hg.store ht h'.diagnostics)

/-- Types may be made without coming into the scope, and fields be added. -/
theorem next {target : Option ComplexId} (h : Adds set source b b')
    (hg : b'.store.Grows target b''.store) (ht : ∀ c, target = some c → b.store.Has (.complex c))
    (hscope : b''.scope = b'.scope) (hd : b'.diagnostics ⊆ b''.diagnostics) :
    Adds set source b b'' := by
  refine ⟨List.Subset.trans h.diagnostics hd, fun n t hn hl => ?_⟩
  rw [hscope] at hl
  exact (h.origin n t hn hl).later (Build.later_view hg ht hd)

/-- Messages make no difference. -/
theorem quiet (h : Adds set source b b') (hstore : b''.store = b'.store)
    (hscope : b''.scope = b'.scope) (hd : b'.diagnostics ⊆ b''.diagnostics) :
    Adds set source b b'' := by
  have hg : b'.store.Grows none b''.store := by rw [hstore]
  exact h.next hg some_of_none hscope hd

/-- A type may be put under its name, if the name had a meaning or the type has its origin. -/
theorem put (h : Adds set source b b') {t : TypeRef}
    (ht : b.scope.lookupLocal? (b'.store.nameOf t) = none →
      Origin set source (b.view b') (b'.store.nameOf t) t) : Adds set source b (b'.replace t) := by
  refine ⟨h.diagnostics, fun n u hn hl => ?_⟩
  have hlookup := Repository.Scope.lookupLocal?_replace b'.store b'.scope t n
  rw [show (b'.replace t).scope = b'.scope.replace b'.store t from rfl, hlookup] at hl
  split at hl
  · next heq =>
    cases hl
    exact heq ▸ ht (heq ▸ hn)
  · exact h.origin n u hn hl

/-- What comes into the scope after a complex type has been opened comes with the type. -/
theorem ofOpened {name : String} {super : Option ComplexId}
    (h : Adds set source (b.opened name super) b')
    (hn : ∀ t, b'.scope.lookupLocal? name = some t → Origin set source (b.view b') name t) :
    Adds set source b b' := by
  refine ⟨h.diagnostics, fun n t hnone hl => ?_⟩
  by_cases heq : n = name
  · exact heq ▸ hn t (heq ▸ hl)
  · have hopened : (b.opened name super).scope.lookupLocal? n = none := by
      refine (Repository.Scope.lookupLocal?_replace _ _ _ _).trans ((if_neg ?_).trans hnone)
      rwa [b.nameOf_nextComplex name super]
    exact (h.origin n t hopened hl).later
      (Build.later_since (Store.grows_addComplex (b.stub name super)).has)

end Adds

/-- What is asked of a loader: for a definition that is bound somewhere, it binds a type of its
name. -/
def Provides (setting : Setting) (source : Xsd.Schema) (load : Loader) : Prop :=
  ∀ b id fieldName, setting.Sound b → Asked setting.set source id fieldName →
    Ends b (load id fieldName) fun r b' => Adds setting.set source b b' ∧
      ∀ t, r = .ok t → Named setting.set b'.store id fieldName t

section Making

variable {setting : Setting} {source : Xsd.Schema} {load : Loader} {b b' : Build}
  {target : ComplexId}

/-! ## Fields -/

/-- What making the field of a particle promises. -/
def MakesField (setting : Setting) (source : Xsd.Schema) (owner : String) (p : Particle) (b : Build)
    (r : Except Failure Field) (b' : Build) : Prop :=
  Adds setting.set source b b' ∧
    ∀ f, r = .ok f → ParticleFields setting.set (b.view b') owner [p] [f]

theorem makesField_elementEntry (hload : Loads setting load)
    (hprovides : Provides setting source load) (h : setting.Sound b) (occurs : Occurs)
    {e : ElementId}
    (hasked : Asked setting.set source (setting.set.element e).type (setting.set.element e).name)
    (owner : String) :
    Ends b (elementEntry load occurs (setting.set.element e))
      (MakesField setting source owner (.element occurs e) b) := by
  refine ends_elementEntry (((hload b _ _ h).and (hprovides b _ _ h hasked)).mono ?_)
  rintro r b₁ ⟨⟨hadv, -⟩, hadds, hnamed⟩
  refine ⟨fun _ _ => ⟨hadds, ok_of_error⟩, fun item hr => ⟨fun hm => ?_, fun hm => ?_⟩⟩
  · let l := b₁.repeatedList occurs (setting.set.element e) item
    have hgrows : b₁.store.Grows none (b₁.withList l).store := Store.grows_addList l
    refine ⟨hadds.next hgrows some_of_none rfl (List.Subset.refl _), ?_⟩
    rintro _ ⟨⟩
    have hlater : (b.view b₁).Later (b.view (b₁.withList l)) :=
      Build.later_view hgrows some_of_none (List.Subset.refl _)
    exact .element (.repeated hm (Store.has_addList l) (Store.list_addList _ l)
      ((hnamed item hr).later hlater))
  · refine ⟨hadds, ?_⟩
    rintro _ ⟨⟩
    exact .element (.single hm (hnamed item hr))

/-- What adding the fields of particles to `target` promises. -/
structure Puts (setting : Setting) (source : Xsd.Schema) (target : ComplexId) (ps : List Particle)
    (b b' : Build) : Prop where
  adds : Adds setting.set source b b'
  fields : ∃ fs, (b'.store.complex target).fields = (b.store.complex target).fields ++ fs ∧
    ParticleFields setting.set (b.view b') (b.store.complex target).name ps fs

/-- A field is added, or left out with a diagnostic. -/
theorem puts_addFieldOrSkip (ho : IsOpen b.store b.scope target) {name : String} {p : Particle}
    {field : BuildM Field} (hgives : Gives setting b field)
    (hfield : Ends b field (MakesField setting source (b.store.complex target).name p b))
    (hskip : ∀ v failure, ⟨s!"{(b.store.complex target).name}/{name}", failure⟩ ∈ v.diagnostics →
      ParticleFields setting.set v (b.store.complex target).name [p] []) :
    Passes b (addFieldOrSkip target name field) fun _ b' =>
      Puts setting source target [p] b b' := by
  unfold addFieldOrSkip
  rw [passes_bind, passes_run]
  apply (Ends.and hgives hfield).mono
  rintro (failure | f) b₁ ⟨⟨hadv, -⟩, hadds, hf⟩
  all_goals have heq := hadv.grows.store.complex_eq target ho.has (Option.some_ne_none target)
  · have hd : b₁.diagnostics ⊆ (b₁.skip s!"{(b₁.store.complex target).name}/{name}"
        failure).diagnostics := List.subset_append_left _ _
    refine ⟨hadds.quiet rfl rfl hd, [], ?_, hskip _ failure ?_⟩
    · exact (congrArg ComplexType.fields heq).trans (List.append_nil _).symm
    · rw [← heq]
      exact List.mem_append_right _ List.mem_cons_self
  · have hg := Store.grows_addField (hadv.grows.store.has _ ho.has) f
    have htarget : ∀ c, some target = some c → b.store.Has (.complex c) :=
      some_of_some ho.has
    refine ⟨hadds.next hg htarget rfl (List.Subset.refl _), [f], ?_, ?_⟩
    · have hfields := Store.complex_addField b₁.store target target f
        (hadv.grows.store.has _ ho.has)
      rw [if_pos rfl, heq] at hfields
      exact congrArg ComplexType.fields hfields
    · have hlater : (b.view b₁).Later (b.view (b₁.addField target f)) :=
        Build.later_view hg htarget (List.Subset.refl _)
      exact (hf f rfl).later hlater

/-! ## Content -/

/-- What making the content of `target` promises. -/
def MakesContent (setting : Setting) (source : Xsd.Schema) (target : ComplexId)
    (children : List Particle) (b : Build) (r : Except Failure TypeRef) (b' : Build) : Prop :=
  Adds setting.set source b b' ∧
    ∀ t, r = .ok t → Filled setting.set (b.view b') target children [] t

theorem makesContent_promote (hload : Loads setting load)
    (hprovides : Provides setting source load) (h : setting.Sound b)
    (ho : IsOpen b.store b.scope target) {children : List Particle} {occurs : Occurs} {e : ElementId}
    (hasked : Asked setting.set source (setting.set.element e).type (setting.set.element e).name)
    (hsole : soleRepeated? children = some (occurs, e)) :
    Ends b (promote load target occurs (setting.set.element e))
      (MakesContent setting source target children b) := by
  refine ends_promote (((hload b _ _ h).and (hprovides b _ _ h hasked)).mono ?_)
  rintro r b₁ ⟨⟨hadv, -⟩, hadds, hnamed⟩
  refine ⟨fun _ _ => ⟨hadds, ok_of_error⟩, fun item hr => ?_⟩
  let l := b₁.promotedList occurs (setting.set.element e) item target
  let b₂ := b₁.withPromoted occurs (setting.set.element e) item target
  have hgrows : b₁.store.Grows none b₂.store := Store.grows_addList l
  have hl : b₂.store.list (b₁.store.addList l).1 = l := Store.list_addList _ _
  have hlater : (b.view b₁).Later (b.view b₂) :=
    Build.later_view hgrows some_of_none (List.Subset.refl _)
  have hlisted : Adds setting.set source b b₂ :=
    hadds.next hgrows some_of_none rfl (List.Subset.refl _)
  refine ⟨hlisted.put ?_, ?_⟩
  · intro hnone
    have hname : b₂.store.nameOf (.list (b₁.store.addList l).1) =
        (b.store.complex target).name :=
      (congrArg ListType.name hl).trans
        (hadv.grows.store.extends_complex target ho.has).name_eq
    rw [hname, ho.lookup_eq] at hnone
    cases hnone
  · rintro _ ⟨⟩
    refine .promoted ⟨Store.has_addList l, occurs, e, hsole, ?_⟩
    show (b₂.store.list _).elementName = _ ∧ (b₂.store.list _).defaultValue = _ ∧
      (b₂.store.list _).minOccurs = _ ∧ (b₂.store.list _).maxOccurs = _ ∧
      Named setting.set b₂.store _ _ (b₂.store.list _).item
    rw [hl]
    exact ⟨rfl, rfl, rfl, rfl, (hnamed item hr).later hlater⟩

/-- The field of a repeated group, if the content of its items can be made. -/
theorem makesField_groupEntry (h : setting.Sound b) (ho : IsOpen b.store b.scope target)
    {occurs : Occurs} (compositor : Compositor) (children : List Particle)
    {fill : ComplexId → BuildM TypeRef} (hm : occurs.isMultiple = true)
    (hfill : ∀ b item, setting.Sound b → IsOpen b.store b.scope item →
      (b.store.complex item).fields = [] → Ends b (fill item) fun r b' =>
        Fills setting item b r b' ∧ MakesContent setting source item children b r b') :
    Ends b (groupEntry target occurs fill)
      (MakesField setting source (b.store.complex target).name (.group occurs compositor children)
        b) := by
  let name := Naming.anonymousListItem (b.store.complex target).name
  let super := (b.store.complex target).super
  have hstub := b.complex_opened name super
  refine ends_groupEntry_of_isOpen name super h ho rfl rfl
    (fun _ _ => ⟨.ofScope rfl (List.Subset.refl _), ok_of_error⟩)
    fun hn hopened => (hfill _ _ hopened.sound (isOpen_opened name super b) ?_).mono ?_
  · rw [hstub]
    rfl
  · rintro r b₁ ⟨hf, hadds, hmade⟩
    have hadv := hf.advances hn hopened
    refine ⟨fun _ _ => ⟨.ofScope (truncate_size hadv.grows.schemaName_eq hadv.grows.locals_prefix)
      hadds.diagnostics, ok_of_error⟩, fun t hr => ?_⟩
    have hext := hf.store.extends_complex _ (b.has_nextComplex name super)
    have hname : (b₁.store.complex (b.nextComplex name super)).name = name :=
      hext.name_eq.trans (congrArg ComplexType.name hstub)
    have hnew : (b.view b₁).New (b.nextComplex name super) :=
      ⟨hf.store.has _ (b.has_nextComplex name super), b.not_has_nextComplex name super⟩
    have hfilled := (hmade t hr).later (Build.later_since hopened.grows.store.has) rfl
    have hitem : Adds setting.set source b b₁ := by
      refine hadds.ofOpened fun u hu => ?_
      have hlookup := hf.lookup_eq t hr
      rw [hstub] at hlookup
      obtain rfl : t = u := Option.some.inj (hlookup.symm.trans hu)
      exact .items hnew hname hfilled
    let l := b.groupList occurs t target
    have hgrows : b₁.store.Grows none (b₁.withList l).store := Store.grows_addList l
    have hlater : (b.view b₁).Later (b.view (b₁.withList l)) :=
      Build.later_view hgrows some_of_none (List.Subset.refl _)
    refine ⟨hitem.next hgrows some_of_none rfl (List.Subset.refl _), ?_⟩
    rintro _ ⟨⟩
    have hl : (b₁.store.addList l).2.list (b₁.store.addList l).1 = l := Store.list_addList _ l
    have hfilled := hfilled.later hlater (hnew.complex_eq hlater)
    have hname := (congrArg ComplexType.name (hnew.complex_eq hlater)).trans hname
    cases hfilled with
    | fields hfields hps has =>
      cases has
      rw [List.append_nil] at hfields
      exact .items hm (Store.has_addList l) hl (hnew.later hlater) hname (hfields ▸ hps)
    | promoted hp => exact .itemLists hm (Store.has_addList l) hl hp

/-- Content can be made of particles if their fields can be added. -/
theorem makesContent_addContent_of (hload : Loads setting load)
    (hprovides : Provides setting source load) {children : List Particle}
    (hasked : ∀ e, Contains children e →
      Asked setting.set source (setting.set.element e).type (setting.set.element e).name)
    (hps : ∀ b target, setting.Sound b → IsOpen b.store b.scope target →
      Passes b (addParticles setting load target children) fun _ b' =>
        Advances setting (some target) b b' ∧ Puts setting source target children b b')
    (h : setting.Sound b) (ho : IsOpen b.store b.scope target)
    (hfields : (b.store.complex target).fields = []) :
    Ends b (addContent setting load target children)
      (MakesContent setting source target children b) := by
  have hplain : Ends b (do
      addParticles setting load target children
      return TypeRef.complex target) (MakesContent setting source target children b) := by
    rw [ends_bind, ends_liftState]
    apply (hps b target h ho).mono
    rintro _ b' ⟨hadv, hputs⟩
    refine ⟨hputs.adds, ?_⟩
    rintro _ ⟨⟩
    obtain ⟨fs, hfs, hmade⟩ := hputs.fields
    -- The type had no fields, so those that have been added are all it has.
    rw [hfields, List.nil_append] at hfs
    have hname := (hadv.grows.store.extends_complex target ho.has).name_eq
    refine .fields (hfs.trans (List.append_nil fs).symm) ?_ .nil
    exact hname.symm ▸ hmade
  unfold addContent
  rw [ends_bind, ends_get]
  dsimp only
  split
  · next hsole =>
    exact makesContent_promote hload hprovides h ho (hasked _ (contains_of_soleRepeated? hsole)) hsole
  · exact hplain

mutual

theorem puts_addParticle {b : Build} {target : ComplexId} (hload : Loads setting load)
    (hprovides : Provides setting source load) (p : Particle)
    (hasked : ∀ e, Contains [p] e →
      Asked setting.set source (setting.set.element e).type (setting.set.element e).name)
    (h : setting.Sound b) (ho : IsOpen b.store b.scope target) :
    Passes b (addParticle setting load target p) fun _ b' =>
      Puts setting source target [p] b b' := by
  match p with
  | .element occurs e =>
    unfold addParticle
    refine puts_addFieldOrSkip ho (gives_elementEntry hload h occurs _) ?_ ?_
    · exact makesField_elementEntry hload hprovides h occurs
        (hasked e (.element List.mem_cons_self)) _
    · exact fun v failure hd => .elementLeftOut hd
  | .group occurs compositor children =>
    have hinner : ∀ e, Contains children e →
        Asked setting.set source (setting.set.element e).type (setting.set.element e).name :=
      fun e he => hasked e (.group List.mem_cons_self he)
    unfold addParticle
    split
    · next hm =>
      rw [passes_bind, passes_get]
      have hfill : ∀ b item, setting.Sound b → IsOpen b.store b.scope item →
          (b.store.complex item).fields = [] →
          Ends b (addContent setting load item children) fun r b' =>
            Fills setting item b r b' ∧ MakesContent setting source item children b r b' := by
        intro b item hb hitem hfields
        apply (fills_addContent hload children hb hitem hfields).and
        refine makesContent_addContent_of hload hprovides hinner (fun b target hb ho => ?_) hb hitem
          hfields
        exact ⟨advances_addParticles hload children hb ho,
          puts_addParticles hload hprovides children hinner hb ho⟩
      refine puts_addFieldOrSkip ho (gives_groupEntry h ho occurs ?_) ?_ ?_
      · exact fun b item hb hitem hfields => (hfill b item hb hitem hfields).1
      · exact makesField_groupEntry h ho compositor children hm hfill
      · exact fun v failure hd => .groupLeftOut hm hd
    · next hm =>
      apply (puts_addParticles hload hprovides children hinner h ho).mono
      rintro _ b' ⟨hadds, fs, hfs, hmade⟩
      exact ⟨hadds, fs, hfs, .group (Bool.eq_false_iff.mpr hm) hmade⟩
  | .wildcard occurs =>
    unfold addParticle
    exact ⟨(Adds.refl b).quiet rfl rfl (List.Subset.refl _), [], (List.append_nil _).symm, .wildcard⟩

theorem puts_addParticles {b : Build} {target : ComplexId} (hload : Loads setting load)
    (hprovides : Provides setting source load) (ps : List Particle)
    (hasked : ∀ e, Contains ps e →
      Asked setting.set source (setting.set.element e).type (setting.set.element e).name)
    (h : setting.Sound b) (ho : IsOpen b.store b.scope target) :
    Passes b (addParticles setting load target ps) fun _ b' =>
      Puts setting source target ps b b' := by
  match ps with
  | [] =>
    unfold addParticles
    exact ⟨.refl b, [], (List.append_nil _).symm, .nil⟩
  | p :: ps =>
    have htarget : ∀ c, some target = some c → b.store.Has (.complex c) :=
      some_of_some ho.has
    unfold addParticles
    rw [passes_bind]
    have hp := puts_addParticle hload hprovides p
      (fun e he => hasked e (he.mono (List.cons_subset_cons p (List.nil_subset ps)))) h ho
    apply ((advances_addParticle hload p h ho).and hp).mono
    rintro _ b₁ ⟨hadv, hadds, fs, hfs, hmade⟩
    have ho₁ := hadv.grows.isOpen ho
    have hps := puts_addParticles hload hprovides ps
      (fun e he => hasked e (he.mono (List.subset_cons_self p ps))) hadv.sound ho₁
    apply ((advances_addParticles hload ps hadv.sound ho₁).and hps).mono
    rintro _ b₂ ⟨hadv', hadds', fs', hfs', hmade'⟩
    refine ⟨hadds.trans hadds' hadv.grows.store.has hadv'.grows htarget, fs ++ fs', ?_, ?_⟩
    · rw [hfs', hfs, List.append_assoc]
    · rw [(hadv.grows.store.extends_complex target ho.has).name_eq] at hmade'
      exact .cons
        (hmade.later (Build.later_view hadv'.grows.store htarget hadds'.diagnostics))
        (hmade'.later (Build.later_since hadv.grows.store.has))

end

theorem makesContent_addContent (hload : Loads setting load)
    (hprovides : Provides setting source load) {children : List Particle}
    (hasked : ∀ e, Contains children e →
      Asked setting.set source (setting.set.element e).type (setting.set.element e).name)
    (h : setting.Sound b) (ho : IsOpen b.store b.scope target)
    (hfields : (b.store.complex target).fields = []) :
    Ends b (addContent setting load target children)
      (MakesContent setting source target children b) := by
  refine makesContent_addContent_of hload hprovides hasked (fun b target hb ho => ?_) h ho hfields
  exact ⟨advances_addParticles hload children hb ho,
    puts_addParticles hload hprovides children hasked hb ho⟩

end Making

end SchemaBinding.Binding
