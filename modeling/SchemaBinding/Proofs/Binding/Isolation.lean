import SchemaBinding.Proofs.Binding.Succession
import SchemaBinding.Proofs.Repository.Closure

/-!
# Types that cannot be built

Binding a type leaves the types that are in the scope as they are, and where they are. If a complex
type cannot be built, the scope is cut down to what it was before the type was opened. Then none of
the types that are left reaches a type that went: all they reach was made before, while what comes
into the scope after the type was opened is made after it.

## Main definitions

* `Dropped`: a type that was in the scope while a complex type was built, and is there no more

## Main results

* `ends_loadStep_failed`: what is left of a complex type that cannot be built
* `Reached.grows`: no type that was there at the start of a build changes in it
* `loadWithin_isolated`: binding a type leaves the scope as it was, and nothing of types that fail
* `isolated_broken`: a type that fails after another one that refers to it has been built
-/

namespace SchemaBinding.Binding

open Repository (Reachable Store TypeRef)
open Xsd (SchemaSet TypeId)

/-- A type that was in the scope at some moment after a complex type had been opened, and is in the
scope no more. -/
def Dropped (setting : Setting) (opened left : Build) (t : TypeRef) : Prop :=
  ∃ b n, Reached setting opened b ∧ b.scope.lookupLocal? n = some t ∧
    ∀ k, left.scope.lookupLocal? k ≠ some t

/-- The definition of a complex type. -/
theorem exists_of_complex? {t : Xsd.TypeDefinition} (h : t.complex?.isSome = true) :
    ∃ definition, t.kind = .complex definition := by
  unfold Xsd.TypeDefinition.complex? at h
  split at h
  · cases h
  · exact ⟨_, ‹_›⟩

section Failed

variable {setting : Setting} {depth : Nat} {b : Build} {id : TypeId} {fieldName name : String}
  {target : Repository.ComplexId}

/-- A complex type can be opened only if its super type has not bound its name. -/
theorem lookupLocal?_afterSuper (hset : setting.set.PlainNames) (h : setting.Sound b)
    (hopen : b.resultOf (openNamed setting depth id name) = .ok target) :
    (afterSuper setting depth id name b).scope.lookupLocal? name = none := by
  cases hn : (afterSuper setting depth id name b).scope.lookupLocal? name with
  | none => rfl
  | some other =>
    rw [openNamed_of_some hset h hn] at hopen
    cases hopen

/-- If a complex type has been opened and cannot be built, what is left is the scope in which its
super type has been bound. -/
theorem ends_buildComplex_failed (hset : setting.set.PlainNames) (h : setting.Sound b)
    (hname : NewName setting b name)
    (hopen : b.resultOf (openNamed setting depth id name) = .ok target)
    (definition : Xsd.ComplexType) :
    Ends b (buildComplex setting (loadWithin setting depth) id name definition) fun r b' =>
      ∀ failure, r = .error failure →
        Advances setting none (afterSuper setting depth id name b) b' ∧
          b'.scope = (afterSuper setting depth id name b).scope := by
  have hload := loads_loadWithin hset depth
  refine ends_buildComplex_afterSuper hset h ?_ ?_
  · exact fun super _ hn => absurd (lookupLocal?_afterSuper hset h hopen) hn
  intro super _ hadv hsettled hn
  have hopened := hadv.openedNamed h hname hn hsettled
  refine (fills_fillComplex hload hopened.sound (isOpen_opened _ _ _) ?_ id definition).mono ?_
  · rw [Build.complex_opened]
    rfl
  · intro r b' hf
    have hfilled := hf.advances hn hopened
    cases r with
    | ok t => exact error_of_ok
    | error failure =>
      intro _ _
      refine ⟨(hfilled.restored hadv.sound rfl).quiet rfl rfl, ?_⟩
      exact truncate_size hfilled.grows.schemaName_eq hfilled.grows.locals_prefix

/-- The same for binding the type: once it has been built, it comes into the scope. -/
theorem ends_loadStep_failed (hset : setting.set.PlainNames) (h : setting.Sound b)
    (hf : Fresh setting id fieldName b name) {definition : Xsd.ComplexType}
    (hkind : (setting.set.type id).kind = .complex definition)
    (hopen : b.resultOf (openNamed setting depth id name) = .ok target) :
    Ends b (loadStep setting (loadWithin setting depth) id fieldName) fun r b' =>
      ∀ failure, r = .error failure →
        Advances setting none (afterSuper setting depth id name b) b' ∧
          b'.scope = (afterSuper setting depth id name b).scope := by
  have hname := hf.newName hset
  rw [hf.ends_loadStep]
  unfold buildType
  simp only [hkind]
  rw [ends_bind]
  refine ((ends_buildComplex_failed hset h hname hopen definition).and
    (enters_buildComplex (loads_loadWithin hset depth) h hname id definition)).mono ?_
  rintro (failure | t) b' ⟨hfailed, hadv, hl⟩
  · exact hfailed
  · have hself : b'.scope.lookupLocal? (b'.store.nameOf t) = some t := by
      rw [hadv.sound.nameOf_eq _ _ (hl t rfl)]
      exact hl t rfl
    show Ends b' (BuildM.register t >>= fun _ => pure t) _
    rw [ends_bind, ends_register_of_self hself]
    exact nofun

end Failed

section Reached

variable {setting : Setting} {store : Store} {schemaName : String} {log : Log} {b : Build}

/-- No type that was there at the start changes while a schema is built: the types that get fields
are in the scope, and so were made since. -/
theorem Reached.grows (hset : setting.set.PlainNames) (hf : Fits setting.registry store)
    (h : Reached setting (.start store schemaName log) b) : store.Grows none b.store := by
  have hnew : ∀ {b target}, Reached setting (.start store schemaName log) b →
      IsOpen b.store b.scope target → ¬ store.Has (.complex target) :=
    fun hb ho => (hb.precedes.new _ _ ho.lookup_eq).resolve_left nofun
  have hsound : ∀ {b}, Reached setting (.start store schemaName log) b → setting.Sound b :=
    fun hb => hb.sound hset (sound_start hf schemaName log)
  induction h with
  | start => exact .refl none store
  | @loaded b depth id fieldName hb ih =>
    obtain ⟨hadv, -⟩ := loads_loadWithin hset depth b id fieldName (hsound hb)
    exact ih.trans hadv.grows.store
  | reported _ hstore _ ih => exact hstore ▸ ih
  | @opened b depth id fieldName name target hb htype hn _ ih =>
    have hname : NewName setting b name :=
      ⟨hn, typeName_ne_anonymousListItem hset htype, typeName_not_isList hset htype⟩
    have hadv : Advances setting none b (b.after (openNamed setting depth id name)) :=
      ends_openNamed hset (hsound hb) depth hname
    exact ih.trans hadv.grows.store
  | @openedItem b target item hb ho _ ih =>
    have hadv : Advances setting none b (b.after (openItem target)) := ends_openItem (hsound hb) ho
    exact ih.trans hadv.grows.store
  | @particle b depth target p hb ho ih =>
    have hadv : Advances setting (some target) b
        (b.afterStep (addParticle setting (loadWithin setting depth) target p)) :=
      advances_addParticle (loads_loadWithin hset depth) p (hsound hb) ho
    exact ih.ofFresh (hnew hb ho) hadv.grows.store
  | @used b depth target use hb ho ih =>
    have hadv : Advances setting (some target) b
        (b.after (addAttributes setting.set (loadWithin setting depth) target [use])) :=
      advances_addAttributes (loads_loadWithin hset depth) _ [use] (hsound hb) ho
    exact ih.ofFresh (hnew hb ho) hadv.grows.store

end Reached

section Dropped

variable {setting : Setting} {before left : Build} {name : String}
  {super : Option Repository.ComplexId}

/-- What has come into the scope and gone since a type was opened has been made since. -/
theorem not_has_of_dropped (hscope : left.scope = before.scope) {u : TypeRef}
    (h : Dropped setting (before.opened name super) left u) : ¬ before.store.Has u := by
  obtain ⟨b', k, hb', hk, hgone⟩ := h
  have hgrows : before.store.Grows none (before.opened name super).store := Store.grows_addComplex _
  rcases hb'.precedes.new k u hk with hold | hnew
  · have hreplace : (before.opened name super).scope.lookupLocal? k = _ :=
      Repository.Scope.lookupLocal?_replace _ _ _ k
    rw [hreplace] at hold
    split at hold
    · cases hold
      exact before.not_has_nextComplex name super
    · exact absurd (hscope ▸ hold) (hgone k)
  · exact fun hhas => hnew (hgrows.has u hhas)

/-- The type that was opened is gone if the scope is what it was. -/
theorem dropped_opened (hscope : left.scope = before.scope) (h : setting.Sound before) :
    Dropped setting (before.opened name super) left (.complex (before.nextComplex name super)) := by
  refine ⟨_, _, .start, (isOpen_opened name super before).lookup_eq, fun k hk => ?_⟩
  rw [hscope] at hk
  exact before.not_has_nextComplex name super (h.has k _ hk)

end Dropped

/-- **Binding a type leaves the scope as it was, and nothing of types that fail.** Whatever has been
compiled before and whatever has been built of the schema, the types that are in the scope stay
there in the same places, and the complex ones among them get no fields. If a complex type has been
opened and cannot be built, the scope is that in which its super type has been bound: the type is
not in it, and whatever is reached from a type that is in it was made before the type was opened,
and has not come into the scope and gone since. -/
theorem loadWithin_isolated {r : Repository} (hr : Reachable r) {set : SchemaSet}
    (hset : set.Accepted) (request : Request) (log : Log) {b : Build}
    (hb : Reached ⟨set, r.registry⟩ (.start r.store request.name log) b) (depth : Nat)
    (id : TypeId) (fieldName : String) :
    let setting : Setting := ⟨set, r.registry⟩
    let left := b.after (loadWithin setting depth id fieldName)
    (b.scope.locals.entries <+: left.scope.locals.entries ∧
      ∀ n c, b.scope.lookupLocal? n = some (.complex c) →
        left.store.complex c = b.store.complex c) ∧
    ∀ inner name definition target failure, depth = inner + 1 →
      Fresh setting id fieldName b name → (set.type id).kind = .complex definition →
      b.resultOf (openNamed setting inner id name) = .ok target →
      b.resultOf (loadWithin setting depth id fieldName) = .error failure →
      left.scope = (afterSuper setting inner id name b).scope ∧
      left.scope.lookupLocal? name = none ∧
      Dropped setting (b.after (openNamed setting inner id name)) left (.complex target) ∧
      ∀ n t u, left.scope.lookupLocal? n = some t → left.store.Reaches t u →
        (afterSuper setting inner id name b).store.Has u ∧
          ¬ Dropped setting (b.after (openNamed setting inner id name)) left u := by
  intro setting left
  have hnames := hset.plainNames
  have hsound : setting.Sound b := hb.sound hnames (sound_start hr.consistent.fits request.name log)
  obtain ⟨hadv, -⟩ := loads_loadWithin hnames depth b id fieldName hsound
  refine ⟨⟨hadv.grows.locals_prefix, fun n c hc => ?_⟩, ?_⟩
  · exact hadv.grows.store.complex_eq c (hsound.has n _ hc) (Option.some_ne_none _)
  · rintro inner name definition target failure rfl hf hkind hopen hfail
    let before := afterSuper setting inner id name b
    obtain ⟨hadvBefore, super, hsuper⟩ := advances_afterSuper hnames hsound inner id name
    have hn := lookupLocal?_afterSuper hnames hsound hopen
    obtain ⟨htarget, hafter⟩ := openNamed_of_none hsuper hn
    obtain ⟨hleft, hscope⟩ : Advances setting none before left ∧ left.scope = before.scope :=
      ends_loadStep_failed hnames hsound hf hkind hopen failure hfail
    rw [htarget] at hopen
    cases hopen
    rw [hafter]
    refine ⟨hscope, hscope ▸ hn, dropped_opened hscope hadvBefore.sound, ?_⟩
    intro n t u ht hreach
    rw [hscope] at ht
    -- What was in the scope before reaches only what had been made by then.
    have hclosed : ∀ k p, r.registry.type? k = some p → before.store.Encloses p :=
      fun k p hp => ((hr.closed k p hp).grow
        (hb.grows hnames hr.consistent.fits)).grow hadvBefore.grows.store
    have hencloses : before.store.Encloses t :=
      hadvBefore.sound.encloses_of_held hclosed
        (.settled (hadvBefore.sound.settled_of_lookupLocal? ht))
    have hhas := hencloses u (hleft.grows.store.reaches hencloses hreach)
    exact ⟨hhas, fun hu => not_has_of_dropped hscope hu hhas⟩

/-! ## A type that fails -/

/-- A schema with a type that has an attribute of an unknown type. By then, the type of its element
has been built, which refers to it. -/
def brokenText : String :=
  "<schema xmlns=\"http://www.w3.org/2001/XMLSchema\" xmlns:t=\"t\" targetNamespace=\"t\">" ++
  "<complexType name=\"B\"><sequence/></complexType><complexType name=\"T\"><complexContent>" ++
  "<extension base=\"t:B\"><sequence><element name=\"u\" type=\"t:U\"/></sequence>" ++
  "<attribute name=\"a\" type=\"QName\"/></extension></complexContent></complexType>" ++
  "<complexType name=\"U\"><sequence><element name=\"t\" type=\"t:T\"/></sequence>" ++
  "</complexType></schema>"

/-- The set of that schema, as the first one that is compiled. -/
def brokenSetting : Setting := ⟨.ofText brokenText, .empty⟩

/-- The build of that schema when it has been tried to bind the type. -/
def brokenBuild : Build := (Build.start .empty "s" #[]).after (load brokenSetting ⟨47⟩ "e")

section Broken

set_option maxRecDepth 100000

/-- The schema is accepted; the type is opened, and fails; its base is left in the scope. -/
theorem broken_facts :
    (SchemaSet.readText brokenText).isOk = true ∧
    typeName brokenSetting.set (brokenSetting.set.type ⟨47⟩) "e" = .ok "T" ∧
    (brokenSetting.set.type ⟨47⟩).namespaceUri ≠ Xsd.schemaNamespace ∧
    (brokenSetting.set.type ⟨47⟩).complex?.isSome = true ∧
    depthOf brokenSetting.set = 2499 + 1 ∧
    (Build.start .empty "s" #[]).resultOf (openNamed brokenSetting 2499 ⟨47⟩ "T") = .ok ⟨1⟩ ∧
    (Build.start .empty "s" #[]).resultOf (load brokenSetting ⟨47⟩ "e") =
      .error (.attributeType "T" "a" (.unknownPrimitive "QName")) ∧
    brokenBuild.scope.lookupLocal? "B" = some (.complex ⟨0⟩) := by
  decide +kernel

theorem accepted_broken : (SchemaSet.ofText brokenText).Accepted :=
  SchemaSet.accepted_ofText broken_facts.1

/-- The type that has failed is not in the scope, and not reached from the base that is. -/
theorem isolated_broken :
    brokenBuild.scope.lookupLocal? "T" = none ∧
      ¬ brokenBuild.store.Reaches (.complex ⟨0⟩) (.complex ⟨1⟩) := by
  obtain ⟨-, hname, hns, hcomplex, hdepth, hopen, hfail, hbase⟩ := broken_facts
  obtain ⟨definition, hkind⟩ := exists_of_complex? hcomplex
  have hfresh : Fresh brokenSetting ⟨47⟩ "e" (.start .empty "s" #[]) "T" := ⟨hname, rfl, hns⟩
  obtain ⟨-, hbroken⟩ := loadWithin_isolated .empty accepted_broken ⟨"s", "p", false⟩ #[] .start
    (depthOf brokenSetting.set) ⟨47⟩ "e"
  obtain ⟨-, hgone, hdropped, hreach⟩ :=
    hbroken 2499 "T" definition ⟨1⟩ _ hdepth hfresh hkind hopen hfail
  exact ⟨hgone, fun hreaches => (hreach "B" _ _ hbase hreaches).2 hdropped⟩

end Broken

end SchemaBinding.Binding
