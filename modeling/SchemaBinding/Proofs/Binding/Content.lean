import SchemaBinding.Binding.Content
import SchemaBinding.Proofs.Binding.Steps

/-!
# Sound content

Making the content of a complex type keeps a build sound, if the loader does that binds the types of
elements. Only the type that is filled gets fields, and only it may give way to a list; whatever
fails on the way leaves the scope as it was.

## Main definitions

* `Loads`: what is asked of a loader
* `Gives`: a step that makes a field
* `Fills`: what making the content of a type promises
* `Build.repeatedList`, `Build.promotedList`, `Build.groupList`: what repeated content becomes

## Main results

* `ends_elementEntry`, `ends_promote`, `ends_groupEntry`: what elements and repeated groups become
* `gives_elementEntry`, `gives_groupEntry`: the fields of elements and of repeated groups
* `fills_promote`: a list in the place of a complex type
* `Fills.advances`, `Advances.restored`: a type that has been filled, and one that could not be
* `advances_addParticles`: the fields of particles
* `fills_addContent`: the content of a type
-/

namespace SchemaBinding.Binding

open Repository (ComplexId ComplexType Field ListType Scope Store TypeRef)
open Xsd (ElementDeclaration Occurs Particle)

/-- A loader keeps every build sound, and what it binds is settled. -/
def Loads (setting : Setting) (load : Loader) : Prop :=
  ∀ b id fieldName, setting.Sound b → Ends b (load id fieldName) fun r b' =>
    Advances setting none b b' ∧ ∀ t, r = .ok t → setting.Settled b' t

/-- A step makes a field of a type that may be mentioned. -/
def Gives (setting : Setting) (b : Build) (field : BuildM Field) : Prop :=
  Ends b field fun r b' => Advances setting none b b' ∧ ∀ f, r = .ok f → setting.Held b' f.type

/-- What making the content of `target` promises: nothing but that type changes, and nothing in the
scope before it; in its place there is the result, which is the type itself or a list. -/
structure Fills (setting : Setting) (target : ComplexId) (b : Build) (r : Except Failure TypeRef)
    (b' : Build) : Prop where
  store : b.store.Grows (some target) b'.store
  schemaName_eq : b'.scope.schemaName = b.scope.schemaName
  locals_prefix : ∀ es, es <+: b.scope.locals.entries →
    (b.store.complex target).name ∉ es.map Prod.fst → es <+: b'.scope.locals.entries
  sound : setting.Sound b'
  lookup_eq : ∀ t, r = .ok t →
    b'.scope.lookupLocal? (b.store.complex target).name = some t
  result : ∀ t, r = .ok t → t = .complex target ∨ t.isList

variable {setting : Setting} {load : Loader} {b b' : Build} {target : ComplexId}

namespace Fills

/-- Where only fields are added, the type keeps its place. -/
theorem ofAdvances (h : Advances setting (some target) b b') (ho : IsOpen b.store b.scope target) :
    Fills setting target b (.ok (.complex target)) b' where
  store := h.grows.store
  schemaName_eq := h.grows.schemaName_eq
  locals_prefix _ hes _ := hes.trans h.grows.locals_prefix
  sound := h.sound
  lookup_eq t ht := by
    cases ht
    exact h.grows.lookupLocal? ho.lookup_eq
  result t ht := .inl (Except.ok.inj ht).symm

theorem ofError (h : Advances setting (some target) b b') (failure : Failure) :
    Fills setting target b (.error failure) b' where
  store := h.grows.store
  schemaName_eq := h.grows.schemaName_eq
  locals_prefix _ hes _ := hes.trans h.grows.locals_prefix
  sound := h.sound
  lookup_eq := ok_of_error
  result := ok_of_error

/-- Messages make no difference. -/
theorem quiet {r : Except Failure TypeRef} {b'' : Build} (h : Fills setting target b r b')
    (hstore : b''.store = b'.store) (hscope : b''.scope = b'.scope) :
    Fills setting target b r b'' := by
  refine ⟨?_, ?_, ?_, ?_, ?_, h.result⟩
  · exact hstore ▸ h.store
  · exact hscope ▸ h.schemaName_eq
  · exact hscope ▸ h.locals_prefix
  · rw [Setting.Sound, hstore, hscope]
    exact h.sound
  · exact hscope ▸ h.lookup_eq

/-- Further fields may be added, and further types be built. -/
theorem trans {r : Except Failure TypeRef} {b'' : Build} (h : Fills setting target b r b')
    (h' : Advances setting (some target) b' b'') : Fills setting target b r b'' where
  store := h.store.trans h'.grows.store
  schemaName_eq := h'.grows.schemaName_eq.trans h.schemaName_eq
  locals_prefix es hes hn := (h.locals_prefix es hes hn).trans h'.grows.locals_prefix
  sound := h'.sound
  lookup_eq t ht := h'.grows.lookupLocal? (h.lookup_eq t ht)
  result := h.result

theorem fail {r : Except Failure TypeRef} (h : Fills setting target b r b') (failure : Failure) :
    Fills setting target b (.error failure) b' where
  store := h.store
  schemaName_eq := h.schemaName_eq
  locals_prefix := h.locals_prefix
  sound := h.sound
  lookup_eq := ok_of_error
  result := ok_of_error

/-- If the type has kept its place, it is still open. -/
theorem isOpen (h : Fills setting target b (.ok (.complex target)) b')
    (ho : IsOpen b.store b.scope target) : IsOpen b'.store b'.scope target where
  has := h.store.has _ ho.has
  lookup_eq := by
    rw [(h.store.extends_complex target ho.has).name_eq]
    exact h.lookup_eq _ rfl

end Fills

/-! ## Repeated elements and groups -/

namespace Build

variable (b b' : Build) (occurs : Occurs) (e : ElementDeclaration) (item : TypeRef)

/-- The list of which the field of a repeated element is. -/
def repeatedList : ListType :=
  ⟨Naming.anonymousListType e.name, b.scope.schemaName, item, e.name, none, 0, occurs.max⟩

/-- The list of a repeated element that takes the place of a complex type, and its name. -/
def promotedList (target : ComplexId) : ListType :=
  ⟨(b.store.complex target).name, b.scope.schemaName, item, e.name, e.defaultValue, occurs.min,
    occurs.max⟩

/-- The list of which the field of a repeated group of `target` is. -/
def groupList (target : ComplexId) : ListType :=
  { ListType.ofItem (Naming.anonymousListType (b.store.complex target).name) b.scope.schemaName item
      with maxOccurs := occurs.max }

/-- The build with a list that is in no scope. -/
def withList (l : ListType) : Build := { b with store := (b.store.addList l).2 }

/-- The build that has the list of a repeated element, and has not put it in its place yet. -/
def withPromoted (target : ComplexId) : Build :=
  (b.report .debug s!"complex type {(b.store.complex target).name} is a list of {e.name}").withList
    (b.promotedList occurs e item target)

/-- A later build, gone back to as many types in its scope as there are in this one. -/
def backTo : Build := { b' with scope := (b'.scope.truncate b.scope.size).2 }

end Build

/-- The field of an element is of the type to which the element is bound, or of a list of it. -/
theorem ends_elementEntry {occurs : Occurs} {e : ElementDeclaration}
    {post : Except Failure Field → Build → Prop}
    (h : Ends b (load e.type e.name) fun r b₁ =>
      (∀ failure, r = .error failure → post (.error failure) b₁) ∧
      ∀ item, r = .ok item →
        (occurs.isMultiple = true →
          post (.ok (.plain e.name (.list (b₁.store.addList (b₁.repeatedList occurs e item)).1)))
            (b₁.withList (b₁.repeatedList occurs e item))) ∧
        (occurs.isMultiple = false → post (.ok (elementField b₁.store e item)) b₁)) :
    Ends b (elementEntry load occurs e) post := by
  unfold elementEntry
  rw [ends_bind]
  apply h.mono
  rintro (failure | item) b₁ ⟨herror, hok⟩
  · exact herror failure rfl
  · obtain ⟨hmultiple, hsingle⟩ := hok item rfl
    dsimp only
    split
    · next hm =>
      simp only [ends_bind, ends_schemaName, ends_addList, ends_pure]
      exact hmultiple hm
    · next hm =>
      simp only [ends_bind, ends_get, ends_pure]
      exact hsingle (Bool.eq_false_iff.mpr hm)

/-- A repeated element takes the place of a complex type once it has been bound. -/
theorem ends_promote {occurs : Occurs} {e : ElementDeclaration}
    {post : Except Failure TypeRef → Build → Prop}
    (h : Ends b (load e.type e.name) fun r b₁ =>
      (∀ failure, r = .error failure → post (.error failure) b₁) ∧
      ∀ item, r = .ok item →
        post (.ok (.list (b₁.store.addList (b₁.promotedList occurs e item target)).1))
          ((b₁.withPromoted occurs e item target).replace
            (.list (b₁.store.addList (b₁.promotedList occurs e item target)).1))) :
    Ends b (promote load target occurs e) post := by
  unfold promote
  rw [ends_bind]
  apply h.mono
  rintro (failure | item) b₁ ⟨herror, hok⟩
  · exact herror failure rfl
  · simp only [ends_bind, ends_get, ends_report, ends_schemaName, ends_addList, ends_modify,
      ends_pure]
    exact hok item rfl

/-- The items of a repeated group are opened and filled, and become the items of a list. If they
cannot be filled, they leave the scope with all that came after them. -/
theorem ends_groupEntry {occurs : Occurs} {fill : ComplexId → BuildM TypeRef}
    {post : Except Failure Field → Build → Prop}
    (h : Ends b (BuildM.openComplex (Naming.anonymousListItem (b.store.complex target).name)
        (b.store.complex target).super) fun r b₁ =>
      (∀ failure, r = .error failure → post (.error failure) b₁) ∧
      ∀ item, r = .ok item → Ends b₁ (fill item) fun r b₂ =>
        (∀ failure, r = .error failure → post (.error failure) (b.backTo b₂)) ∧
        ∀ t, r = .ok t →
          post (.ok (.plain (Naming.anonymousList (b.store.complex target).name)
              (.list (b₂.store.addList (b.groupList occurs t target)).1)))
            (b₂.withList (b.groupList occurs t target))) :
    Ends b (groupEntry target occurs fill) post := by
  unfold groupEntry
  simp only [ends_bind, ends_get, ends_schemaName, ends_mark]
  apply h.mono
  rintro (failure | item) b₁ ⟨herror, hok⟩
  · exact herror failure rfl
  · simp only [ends_attempt]
    apply (hok item rfl).mono
    rintro (failure | t) b₂ ⟨herror, hok⟩
    · simp only [ends_bind, ends_rollback, ends_throw]
      exact herror failure rfl
    · simp only [ends_bind, ends_addList, ends_pure]
      exact hok t rfl

/-! ## Fields -/

/-- A list of a settled type may be made for repeated content. -/
theorem held_addList (h : setting.Sound b) (l : ListType) (hn : Naming.IsList l.name)
    (hi : setting.Settled b l.item) :
    Advances setting none b { b with store := (b.store.addList l).2 } ∧
      setting.Held { b with store := (b.store.addList l).2 } (.list (b.store.addList l).1) := by
  have hmade : Advances setting none b { b with store := (b.store.addList l).2 } :=
    .ofStore h (Store.grows_addList l) rfl
  have heq := Store.list_addList b.store l
  refine ⟨hmade, .wrapped (Store.has_addList l) ?_ ?_⟩
  · exact heq.symm ▸ hn
  · exact heq.symm ▸ hmade.settled h hi

theorem gives_elementEntry (hload : Loads setting load) (h : setting.Sound b) (occurs : Occurs)
    (e : ElementDeclaration) : Gives setting b (elementEntry load occurs e) := by
  refine ends_elementEntry ((hload b e.type e.name h).mono ?_)
  rintro r b₁ ⟨hadv, ht⟩
  refine ⟨fun _ _ => ⟨hadv, ok_of_error⟩, fun item hr => ⟨fun _ => ?_, fun _ => ?_⟩⟩
  · obtain ⟨hmade, hheld⟩ := held_addList hadv.sound (b₁.repeatedList occurs e item)
      (Naming.isList_anonymousListType _) (ht item hr)
    refine ⟨hadv.trans hmade, ?_⟩
    rintro _ ⟨⟩
    exact hheld
  · refine ⟨hadv, ?_⟩
    rintro _ ⟨⟩
    exact .settled (ht item hr)

/-- Adding a field that can be made, or leaving it out. -/
theorem advances_addFieldOrSkip (ho : IsOpen b.store b.scope target) (name : String)
    {field : BuildM Field} (hfield : Gives setting b field) :
    Passes b (addFieldOrSkip target name field) fun _ b' =>
      Advances setting (some target) b b' := by
  unfold addFieldOrSkip
  rw [passes_bind, passes_run]
  apply hfield.mono
  rintro (failure | f) b₁ ⟨hadv, hheld⟩
  · exact (hadv.weaken _).quiet rfl rfl
  · have hfield : Advances setting (some target) b₁ (b₁.addField target f) :=
      .addField hadv.sound (hadv.grows.isOpen ho) (hheld f rfl)
    exact (hadv.weaken _).trans hfield

/-- A list of a repeated element may take the place of a complex type. -/
theorem fills_promote (hload : Loads setting load) (h : setting.Sound b)
    (ho : IsOpen b.store b.scope target) (hfields : (b.store.complex target).fields = [])
    (hsuper : (b.store.complex target).super = none) (occurs : Occurs) (e : ElementDeclaration) :
    Ends b (promote load target occurs e) (Fills setting target b) := by
  refine ends_promote ((hload b e.type e.name h).mono ?_)
  rintro r b₁ ⟨hadv, ht⟩
  refine ⟨fun failure _ => .ofError (hadv.weaken _) failure, fun item hr => ?_⟩
  have htarget : b₁.store.complex target = b.store.complex target :=
    hadv.grows.store.complex_eq target ho.has (Option.some_ne_none _)
  -- The list has the name of the type, and takes its place in the scope.
  let l := b₁.promotedList occurs e item target
  let b₂ := b₁.withPromoted occurs e item target
  have hmade : Advances setting none b₁ b₂ := .ofStore hadv.sound (Store.grows_addList l) rfl
  have hl : b₂.store.list (b₁.store.addList l).1 = l := Store.list_addList _ _
  have hname : b₂.store.nameOf (.list (b₁.store.addList l).1) = (b.store.complex target).name :=
    (congrArg ListType.name hl).trans (congrArg ComplexType.name htarget)
  have htarget₂ : b₂.store.complex target = b.store.complex target := htarget
  refine ⟨?_, hadv.grows.schemaName_eq, ?_, ?_, ?_, fun u hu => .inr ?_⟩
  · exact (hadv.trans hmade).grows.store.weaken _
  · intro es hes hn
    apply OrderedMap.prefix_insertEntry _ (hes.trans hadv.grows.locals_prefix)
    rw [hname]
    exact hn
  · refine hmade.sound.promote ((hadv.trans hmade).grows.isOpen ho) ?_ ?_ ?_ ?_ ?_ ?_
    · rw [htarget₂, hfields]
    · rw [htarget₂, hsuper]
    · exact Store.has_addList l
    · rw [hl, htarget₂]
      exact congrArg ComplexType.name htarget
    · rw [hl]
      rfl
    · rw [hl]
      exact hmade.settled hadv.sound (ht item hr)
  · intro u hu
    cases hu
    exact (Scope.lookupLocal?_replace _ _ _ _).trans (if_pos hname.symm)
  · cases hu
    rfl

/-! ## Repeated groups -/

/-- A type may be mentioned that a type in the scope mentions as its super type. -/
theorem settled_super (h : setting.Sound b) (ho : IsOpen b.store b.scope target)
    {above : ComplexId} (hs : (b.store.complex target).super = some above) :
    setting.Settled b (.complex above) := by
  cases h.closed _ _ _ ho.lookup_eq (.super hs) with
  | settled hsettled => exact hsettled

/-- The build of a type that has been opened, when its content has been made. -/
theorem Fills.advances {name : String} {super : Option ComplexId} {r : Except Failure TypeRef}
    (hn : b.scope.lookupLocal? name = none)
    (hopened : Advances setting none b (b.opened name super))
    (h : Fills setting (b.nextComplex name super) (b.opened name super) r b') :
    Advances setting none b b' := by
  refine ⟨⟨?_, ?_, ?_⟩, h.sound⟩
  · exact hopened.grows.store.ofFresh (b.not_has_nextComplex name super) h.store
  · exact h.schemaName_eq.trans hopened.grows.schemaName_eq
  · apply h.locals_prefix _ hopened.grows.locals_prefix
    rw [b.complex_opened name super]
    exact OrderedMap.get?_eq_none_iff.mp hn

/-- The same when the scope has then been put back to what it was. -/
theorem Advances.restored {scope : Repository.Scope} (hb : setting.Sound b)
    (h : Advances setting none b b')
    (hs : scope = (b'.scope.truncate b.scope.size).2) :
    Advances setting none b { b' with scope := scope } := by
  refine .ofStore hb h.grows.store (hs.trans ?_)
  exact truncate_size h.grows.schemaName_eq h.grows.locals_prefix

/-- The name of the items of a group means nothing, or an item of the same type. -/
theorem lookupGlobal?_item (h : setting.Sound b) (ho : IsOpen b.store b.scope target) :
    b.scope.lookupGlobal? b.store setting.registry
      (Naming.anonymousListItem (b.store.complex target).name) = none := by
  cases hv : b.scope.lookupGlobal? b.store setting.registry
      (Naming.anonymousListItem (b.store.complex target).name) with
  | none => rfl
  | some t => exact absurd (h.hidden _ _ ho.lookup_eq) (h.fits.lookupGlobal?_item hv)

/-- The items of a repeated group may be opened unless there are items of the type already. -/
theorem Advances.openedItem (h : setting.Sound b) (ho : IsOpen b.store b.scope target)
    (hn : b.scope.lookupLocal? (Naming.anonymousListItem (b.store.complex target).name) = none) :
    Advances setting none b (b.opened (Naming.anonymousListItem (b.store.complex target).name)
      (b.store.complex target).super) := by
  refine .opened h (lookup?_eq_none_iff.mpr ⟨lookupGlobal?_item h ho, hn⟩) ?_ ?_ ?_
  · intro k hk
    rw [← Naming.anonymousListItem_inj hk, ho.lookup_eq]
    exact Option.some_ne_none _
  · exact Naming.anonymousListItem_not_isList _
  · exact fun above hs => settled_super h ho hs

/-- In a sound build, the items of a repeated group are opened if their name means nothing yet, and
a repeated group of the type has taken it otherwise. -/
theorem ends_groupEntry_of_isOpen (name : String) (super : Option ComplexId)
    (h : setting.Sound b) (ho : IsOpen b.store b.scope target)
    (hname : Naming.anonymousListItem (b.store.complex target).name = name)
    (hsuper : (b.store.complex target).super = super) {occurs : Occurs}
    {fill : ComplexId → BuildM TypeRef} {post : Except Failure Field → Build → Prop}
    (htaken : ∀ other, b.scope.lookupLocal? name = some other →
      post (.error (.typeCollision name)) (b.withStub name super))
    (hopened : b.scope.lookupLocal? name = none → Advances setting none b (b.opened name super) →
      Ends (b.opened name super) (fill (b.nextComplex name super)) fun r b₁ =>
        (∀ failure, r = .error failure → post (.error failure) (b.backTo b₁)) ∧
        ∀ t, r = .ok t →
          post (.ok (.plain (Naming.anonymousList (b.store.complex target).name)
              (.list (b₁.store.addList (b.groupList occurs t target)).1)))
            (b₁.withList (b.groupList occurs t target))) :
    Ends b (groupEntry target occurs fill) post := by
  subst hname hsuper
  apply ends_groupEntry
  cases hn : b.scope.lookupLocal? (Naming.anonymousListItem (b.store.complex target).name) with
  | some other =>
    rw [ends_openComplex_of_some hn (h.has _ _ hn)]
    refine ⟨?_, ok_of_error⟩
    rintro _ ⟨⟩
    exact htaken other hn
  | none =>
    rw [ends_openComplex_of_none hn]
    refine ⟨error_of_ok, ?_⟩
    rintro _ ⟨⟩
    exact hopened hn (.openedItem h ho hn)

theorem gives_groupEntry (h : setting.Sound b) (ho : IsOpen b.store b.scope target)
    (occurs : Occurs) {fill : ComplexId → BuildM TypeRef}
    (hfill : ∀ b item, setting.Sound b → IsOpen b.store b.scope item →
      (b.store.complex item).fields = [] → Ends b (fill item) (Fills setting item b)) :
    Gives setting b (groupEntry target occurs fill) := by
  refine ends_groupEntry_of_isOpen _ _ h ho rfl rfl (fun _ _ => ⟨.withStub h _ _, ok_of_error⟩)
    fun hn hopened => (hfill _ _ hopened.sound (isOpen_opened _ _ b) ?_).mono fun r b₁ hf => ?_
  · rw [b.complex_opened]
    rfl
  · have hadv := hf.advances hn hopened
    refine ⟨fun _ _ => ⟨hadv.restored h rfl, ok_of_error⟩, fun t hr => ?_⟩
    -- The items are what their name means now: they may have become a list themselves.
    have ht : setting.Settled b₁ t := hadv.sound.settled_of_lookupLocal? (hf.lookup_eq t hr)
    obtain ⟨hmade, hheld⟩ := held_addList hadv.sound (b.groupList occurs t target)
      (Naming.isList_anonymousListType _) ht
    refine ⟨hadv.trans hmade, ?_⟩
    rintro _ ⟨⟩
    exact hheld

/-! ## Particles -/

/-- Content can be made of particles if their fields can be added. -/
theorem fills_addContent_of (hload : Loads setting load) {children : List Particle}
    (hps : ∀ b target, setting.Sound b → IsOpen b.store b.scope target →
      Passes b (addParticles setting load target children) fun _ b' =>
        Advances setting (some target) b b')
    (h : setting.Sound b) (ho : IsOpen b.store b.scope target)
    (hfields : (b.store.complex target).fields = []) :
    Ends b (addContent setting load target children) (Fills setting target b) := by
  have hplain : Ends b (do
      addParticles setting load target children
      return TypeRef.complex target) (Fills setting target b) := by
    rw [ends_bind, ends_liftState]
    exact (hps b target h ho).mono fun _ b' hadv => .ofAdvances hadv ho
  unfold addContent
  rw [ends_bind, ends_get]
  dsimp only
  split
  · next hsuper _ => exact fills_promote hload h ho hfields hsuper _ _
  · exact hplain

mutual

theorem advances_addParticle {b : Build} {target : ComplexId} (hload : Loads setting load)
    (p : Particle) (h : setting.Sound b) (ho : IsOpen b.store b.scope target) :
    Passes b (addParticle setting load target p) fun _ b' =>
      Advances setting (some target) b b' := by
  match p with
  | .element occurs id =>
    unfold addParticle
    exact advances_addFieldOrSkip ho _ (gives_elementEntry hload h occurs _)
  | .group occurs compositor children =>
    unfold addParticle
    split
    · rw [passes_bind, passes_get]
      refine advances_addFieldOrSkip ho _ (gives_groupEntry h ho occurs ?_)
      intro b item hb hitem hfields
      exact fills_addContent_of hload
        (fun b target hb ho => advances_addParticles hload children hb ho) hb hitem hfields
    · exact advances_addParticles hload children h ho
  | .wildcard occurs =>
    unfold addParticle
    exact (Advances.refl _ h).quiet rfl rfl

theorem advances_addParticles {b : Build} {target : ComplexId} (hload : Loads setting load)
    (ps : List Particle) (h : setting.Sound b) (ho : IsOpen b.store b.scope target) :
    Passes b (addParticles setting load target ps) fun _ b' =>
      Advances setting (some target) b b' := by
  match ps with
  | [] =>
    unfold addParticles
    exact .refl _ h
  | p :: ps =>
    unfold addParticles
    rw [passes_bind]
    apply (advances_addParticle hload p h ho).mono
    intro _ b₁ hadv
    apply (advances_addParticles hload ps hadv.sound (hadv.grows.isOpen ho)).mono
    exact fun _ b₂ hadv' => hadv.trans hadv'

end

theorem fills_addContent (hload : Loads setting load) (children : List Particle)
    (h : setting.Sound b) (ho : IsOpen b.store b.scope target)
    (hfields : (b.store.complex target).fields = []) :
    Ends b (addContent setting load target children) (Fills setting target b) :=
  fills_addContent_of hload (fun _ _ hb ho => advances_addParticles hload children hb ho) h ho
    hfields

end SchemaBinding.Binding
