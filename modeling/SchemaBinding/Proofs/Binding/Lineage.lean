import Mathlib.Logic.Relation
import SchemaBinding.Proofs.Binding.Accounting
import SchemaBinding.Proofs.Binding.Cardinality
import SchemaBinding.Proofs.Binding.Identity
import SchemaBinding.Proofs.Xsd.AttributeUses

/-!
# Lineages of complex types

Which definitions the types above a complex type have been made of. A complex type is opened after
its super type, which is what the base is bound to; but a base is bound by its name, so the super
type may have been made of another definition of that name, and it may give way to a list later on.
Where neither is the case, the types above a type have been made of the definitions that its
definition is derived from, and its fields come after theirs. So it always is if no name means
anything when the type is bound: the base is bound before the type is opened, so no name means
anything then either.

## Main definitions

* `Repository.Store.Above`: a complex type and the types above it
* `Sole`: a name that is bound for one definition only
* `Intact`: the types above a type are under their names, which are bound for one definition each
* `MadeOf`, `Lineage`: a type has been made of a definition, and the types above it of its bases
* `Concluded`: what is known of a build that has come to its end
* `Compiles`, `CompilesWhole`: sets that are compiled as the first ones, and nothing of them left
  out

## Main results

* `Asked.hasType`: the definitions that are bound are there
* `Lineage.allFields_of_super`: the fields of a type with those of the types above it
* `lineage_loadWithin`: single types
* `Concluded.exists_definition`, `Concluded.lineage`: what complex types have been made of
* `concluded_of_compile`: compiled schemas
* `exists_lineage_of_compile`: the complex types of compiled schemas
-/

namespace SchemaBinding

open Repository (ComplexId ComplexType Field Registered Scope Store TypeRef)
open Xsd (AttributeUse ElementId Occurs Particle SchemaSet TypeId)

/-- A complex type and the types above it. -/
def Repository.Store.Above (store : Store) : ComplexId → ComplexId → Prop :=
  Relation.ReflTransGen fun c above => (store.complex c).super = some above

namespace Xsd

/-- An element that content contains stands in it with some bounds. -/
theorem Particle.Contains.exists_elements {ps : List Particle} {e : ElementId}
    (h : Particle.Contains ps e) : ∃ occurs, (occurs, e) ∈ Particle.elementsAmong ps := by
  have hmem : ∀ {ps : List Particle} {p : Particle} {x : Occurs × ElementId}, p ∈ ps →
      x ∈ p.elements → x ∈ Particle.elementsAmong ps := by
    intro ps p x hp hx
    induction ps with
    | nil => cases hp
    | cons q ps ih =>
      rw [Particle.elementsAmong, List.mem_append]
      rcases List.mem_cons.mp hp with rfl | hp
      · exact .inl hx
      · exact .inr (ih hp)
  induction h with
  | @element _ occurs _ hp => exact ⟨occurs, hmem hp List.mem_cons_self⟩
  | group hp _ ih =>
    obtain ⟨occurs, he⟩ := ih
    exact ⟨occurs, hmem hp he⟩

end Xsd

namespace Binding

/-! ## Definitions that are bound -/

/-- The elements of what a type is made of are those that its content contains. -/
theorem elements_contentFor {set : SchemaSet} {definition : Xsd.ComplexType}
    (hd : definition.Closed set) :
    (contentFor definition).elements = Particle.elementsAmong (particlesOf definition) := by
  have hclosed := closed_contentFor hd
  rw [particlesOf_eq]
  generalize contentFor definition = content at hclosed ⊢
  cases content with
  | empty | simple => rfl
  | particle p =>
    cases p with
    | group => rfl
    | element | wildcard => cases hclosed.1

/-- The definitions that are bound while a schema of the set is built are there. -/
theorem Asked.hasType {set : SchemaSet} (hset : set.WellFormed) {source : Xsd.Schema}
    (hsource : source ∈ set.schemas) {id : TypeId} {fieldName : String}
    (h : Asked set source id fieldName) : set.HasType id := by
  have hlists := hset.listed source hsource
  induction h with
  | element he => exact hset.elements _ (hlists.elements _ _ he).1
  | globalAttribute ha => exact (hset.attributes _ (hlists.attributes _ _ ha).1).hasType
  | base _ _ ih => exact hset.base _ ih
  | mention _ hm _ =>
    cases hm with
    | @element definition e hkind he =>
      have hd := hset.complex _ definition hkind
      obtain ⟨occurs, he⟩ := he.exists_elements
      rw [← elements_contentFor hd] at he
      refine hset.elements e ?_
      have hclosed := closed_contentFor hd
      generalize contentFor definition = content at he hclosed
      cases content with
      | empty | simple => cases he
      | particle p => exact hclosed.2 occurs e he
    | @use definition hasSuper use hkind hu =>
      refine (hset.attributes _ ?_).hasType
      obtain ⟨a, ha⟩ : ∃ a, use ∈ set.ownUses a := by
        unfold attributesToAdd at hu
        split at hu
        · exact ⟨_, hu⟩
        · exact SchemaSet.exists_of_mem_attributeUses hu
      unfold SchemaSet.ownUses Xsd.TypeDefinition.complex? at ha
      cases hk : (set.type a).kind with
      | simple =>
        simp only [hk] at ha
        cases ha
      | complex other =>
        simp only [hk] at ha
        exact (hset.complex a other hk).attributes use ha

/-! ## Types under their names -/

/-- A name is bound for one definition only. -/
def Sole (set : SchemaSet) (source : Xsd.Schema) (n : String) : Prop :=
  ∀ id fieldName id' fieldName', Asked set source id fieldName → Asked set source id' fieldName' →
    typeName set (set.type id) fieldName = .ok n →
    typeName set (set.type id') fieldName' = .ok n → id = id'

/-- Under a name that is no synthesized one, only definitions of that name are bound. -/
theorem Asked.eq_of_name {set : SchemaSet} (hset : set.WellFormed) {source : Xsd.Schema}
    (hsource : source ∈ set.schemas) {n : String} (hn : '#' ∉ n.toList) {only : TypeId}
    (honly : ∀ id, set.HasType id → (set.type id).name = some n → id = only) {id : TypeId}
    {fieldName : String} (hasked : Asked set source id fieldName)
    (htype : typeName set (set.type id) fieldName = .ok n) : id = only := by
  refine honly id (hasked.hasType hset hsource) ((typeName_eq_ok htype).resolve_right ?_)
  rintro ⟨owner, rfl⟩
  exact hn (by simp [Naming.anonymousType])

/-- A complex type and the types above it are under their names, each of which is bound for one
definition only. -/
def Intact (set : SchemaSet) (source : Xsd.Schema) (store : Store)
    (types : OrderedMap String TypeRef) (c : ComplexId) : Prop :=
  ∀ a, store.Above c a → types.get? (store.complex a).name = some (.complex a) ∧
    Sole set source (store.complex a).name

/-- The types above an intact type are intact. -/
theorem Intact.above {set : SchemaSet} {source : Xsd.Schema} {store : Store}
    {types : OrderedMap String TypeRef} {c above : ComplexId}
    (h : Intact set source store types c) (hsuper : (store.complex c).super = some above) :
    Intact set source store types above :=
  fun a ha => h a (.head hsuper ha)

/-! ## Lineages -/

/-- What a complex type has been filled with that has been made of a definition. -/
theorem Made.filled {set : SchemaSet} {v : View} {id : TypeId} {c : ComplexId}
    (h : Made set v id (.complex c)) : ∃ definition, (set.type id).kind = .complex definition ∧
      v.New c ∧ Filled set v c (particlesOf definition)
        (attributesToAdd set id (v.store.complex c).super.isSome) (.complex c) := by
  cases h with
  | complex hkind hnew hfilled =>
    cases hfilled with
    | fields hfields hps has => exact ⟨_, hkind, hnew, .fields hfields hps has⟩

/-- A complex type has been made of a definition that is bound under its name. -/
structure MadeOf (set : SchemaSet) (source : Xsd.Schema) (v : View) (id : TypeId)
    (c : ComplexId) : Prop where
  asked : ∃ fieldName, Asked set source id fieldName ∧
    typeName set (set.type id) fieldName = .ok (v.store.complex c).name
  made : Made set v id (.complex c)

/-- A complex type has been made of a definition, and the types above it have been made, before it,
of the definitions that this one is derived from. -/
inductive Lineage (set : SchemaSet) (source : Xsd.Schema) (v : View) : TypeId → ComplexId → Prop
  | top {id : TypeId} {c : ComplexId} : MadeOf set source v id c →
      (v.store.complex c).super = none → Lineage set source v id c
  | derived {id : TypeId} {c above : ComplexId} : MadeOf set source v id c →
      (v.store.complex c).super = some above → above.index < c.index → set.baseOf id ≠ id →
      Lineage set source v (set.baseOf id) above → Lineage set source v id c

namespace Lineage

variable {set : SchemaSet} {source : Xsd.Schema} {v : View} {id : TypeId} {c above : ComplexId}

theorem madeOf (h : Lineage set source v id c) : MadeOf set source v id c := by
  cases h with
  | top hmade => exact hmade
  | derived hmade => exact hmade

/-- How many steps may be made makes no difference, as each leads to an earlier type. -/
theorem allFieldsWithin_eq (h : Lineage set source v id c) {n m : Nat} (hn : c.index < n)
    (hm : c.index < m) : v.store.allFieldsWithin n c = v.store.allFieldsWithin m c := by
  induction h generalizing n m with
  | top _ hsuper =>
    cases n with
    | zero => cases hn
    | succ n =>
      cases m with
      | zero => cases hm
      | succ m =>
        simp only [Store.allFieldsWithin, hsuper]
  | derived _ hsuper hlt _ _ ih =>
    cases n with
    | zero => cases hn
    | succ n =>
      cases m with
      | zero => cases hm
      | succ m =>
        simp only [Store.allFieldsWithin, hsuper]
        rw [ih (Nat.lt_of_lt_of_le hlt (Nat.le_of_lt_succ hn))
          (Nat.lt_of_lt_of_le hlt (Nat.le_of_lt_succ hm))]

/-- The fields of a type come after those of its super type. -/
theorem allFields_of_super (h : Lineage set source v (set.baseOf id) above) (hnew : v.New c)
    (hsuper : (v.store.complex c).super = some above) (hlt : above.index < c.index) :
    v.store.allFields c = v.store.allFields above ++ (v.store.complex c).fields := by
  have hc : c.index < v.store.complexes.size := hnew.has
  unfold Store.allFields
  obtain ⟨n, hn⟩ := Nat.exists_eq_succ_of_ne_zero (Nat.ne_of_gt (Nat.zero_lt_of_lt hc))
  have habove : above.index < n := Nat.lt_of_lt_of_le hlt (Nat.le_of_lt_succ (hn ▸ hc))
  rw [h.allFieldsWithin_eq (Nat.lt_trans hlt hc) habove]
  simp only [hn, Store.allFieldsWithin, hsuper]

end Lineage

section Later

variable {set : SchemaSet} {source : Xsd.Schema} {v v' : View} {id : TypeId} {c : ComplexId}

theorem MadeOf.later (hv : v.Later v') (h : MadeOf set source v id c) :
    MadeOf set source v' id c := by
  obtain ⟨_, -, hnew, -⟩ := h.made.filled
  obtain ⟨fieldName, hasked, htype⟩ := h.asked
  exact ⟨⟨fieldName, hasked, (hnew.complex_eq hv).symm ▸ htype⟩, h.made.later hv⟩

/-- No type of a lineage changes. -/
theorem Lineage.later (hv : v.Later v') (h : Lineage set source v id c) :
    Lineage set source v' id c := by
  induction h with
  | top hmade hsuper =>
    obtain ⟨_, -, hnew, -⟩ := hmade.made.filled
    exact .top (hmade.later hv) ((hnew.complex_eq hv).symm ▸ hsuper)
  | derived hmade hsuper hlt hne _ ih =>
    obtain ⟨_, -, hnew, -⟩ := hmade.made.filled
    exact .derived (hmade.later hv) ((hnew.complex_eq hv).symm ▸ hsuper) hlt hne ih

end Later

/-! ## Single types -/

section Single

variable {setting : Setting} {source : Xsd.Schema} {load : Loader} {b : Build} {id : TypeId}
  {fieldName name : String}

/-- What a loader makes of a definition is a type with its lineage, if it is a complex type. -/
def Descends (setting : Setting) (source : Xsd.Schema) (b : Build) (id : TypeId)
    (r : Except Failure TypeRef) (b' : Build) : Prop :=
  ∀ c, r = .ok (.complex c) → Lineage setting.set source (b.view b') id c

/-- The super type is the type that the base is bound to, with its lineage. -/
theorem descends_complexSuper
    (hbase : Ends b (load (setting.set.baseOf id) name)
      (Descends setting source b (setting.set.baseOf id))) :
    Ends b (complexSuper setting.set load id name) fun r b' => ∀ above, r = .ok (some above) →
      setting.set.baseOf id ≠ id ∧
        Lineage setting.set source (b.view b') (setting.set.baseOf id) above := by
  refine ends_complexSuper (by rintro above ⟨⟩) fun hroot => hbase.mono fun r b₁ hlineage =>
    ⟨fun c hr => ?_, fun _ _ => ?_⟩
  · rintro _ ⟨⟩
    exact ⟨hroot, hlineage c hr⟩
  · rintro above ⟨⟩

/-- The super type has been made before the type is opened, and stays as it is. -/
theorem descends_buildComplex (hload : Loads setting load)
    (hprovides : Provides setting source load) (h : setting.Sound b) (hnew : NewName setting b name)
    (hasked : Asked setting.set source id fieldName)
    {definition : Xsd.ComplexType} (hkind : (setting.set.type id).kind = .complex definition)
    (hbase : Ends b (load (setting.set.baseOf id) name)
      (Descends setting source b (setting.set.baseOf id))) :
    Ends b (buildComplex setting load id name definition) fun r b' => ∀ c, r = .ok (.complex c) →
      ∀ above, (b'.store.complex c).super = some above → above.index < c.index ∧
        setting.set.baseOf id ≠ id ∧
          Lineage setting.set source (b.view b') (setting.set.baseOf id) above := by
  refine ends_buildComplex hload h (descends_complexSuper hbase) ?_ ?_
  · exact fun _ _ _ _ _ => nofun
  · intro super b₁ hsuper hadv hsettled hn
    have hopened : Advances setting none b₁ (b₁.opened name super) :=
      hadv.openedNamed h hnew hn hsettled
    have ho := isOpen_opened name super b₁
    have hstub := b₁.complex_opened name super
    have hfields : ((b₁.opened name super).store.complex (b₁.nextComplex name super)).fields = [] :=
      congrArg Repository.ComplexType.fields hstub
    refine ((fills_fillComplex hload hopened.sound ho hfields id definition).and
      (filled_fillComplex hload hprovides hasked hkind hopened.sound ho hfields)).mono ?_
    rintro (failure | t) b₂ ⟨hf, hadds, -⟩
    · exact nofun
    · rintro c ⟨⟩ above habove
      obtain rfl : c = b₁.nextComplex name super := by
        rcases hf.result _ rfl with heq | hlist
        · exact TypeRef.complex.inj heq
        · cases hlist
      have hext := hf.store.extends_complex _ (b₁.has_nextComplex name super)
      rw [hstub] at hext
      obtain rfl : super = some above := hext.super_eq.symm.trans habove
      obtain ⟨hne, hlineage⟩ := hsuper above rfl
      obtain ⟨_, -, habove, -⟩ := hlineage.madeOf.made.filled
      exact ⟨habove.has, hne, hlineage.later (Build.later_view
        (hf.advances hn hopened).grows.store some_of_none hadds.diagnostics)⟩

/-- A complex type is made of the definition of one, and has the lineage of its base. -/
theorem descends_buildType (hset : setting.set.PlainNames) (hload : Loads setting load)
    (hprovides : Provides setting source load) (h : setting.Sound b)
    (hasked : Asked setting.set source id fieldName) (hf : Fresh setting id fieldName b name)
    (hbase : Ends b (load (setting.set.baseOf id) name)
      (Descends setting source b (setting.set.baseOf id))) :
    Ends b (buildType setting load id name) (Descends setting source b id) := by
  have hnew := hf.newName hset
  have hbuilt := (builds_buildType hload h hf.typeName_eq hnew).and
    (makesType_buildType hload hprovides h hnew hasked hf.typeName_eq)
  cases hkind : (setting.set.type id).kind with
  | simple definition =>
    apply hbuilt.mono
    rintro r b₁ ⟨-, -, hmade⟩ c hc
    obtain ⟨_, hcomplex, -⟩ := (hmade _ hc).filled
    rw [hkind] at hcomplex
    cases hcomplex
  | complex definition =>
    have hbuildType : buildType setting load id name =
        buildComplex setting load id name definition := by
      unfold buildType
      dsimp only
      rw [hkind]
    rw [hbuildType] at hbuilt ⊢
    apply (hbuilt.and (descends_buildComplex hload hprovides h hnew hasked hkind hbase)).mono
    rintro r b₁ ⟨⟨hb, -, hmade⟩, habove⟩ c hc
    have hname : (b₁.store.complex c).name = name := hb.nameOf_eq _ hc
    have hmadeOf : MadeOf setting.set source (b.view b₁) id c :=
      ⟨⟨fieldName, hasked, hname.symm ▸ hf.typeName_eq⟩, hmade _ hc⟩
    cases hsuper : (b₁.store.complex c).super with
    | none => exact .top hmadeOf hsuper
    | some above =>
      obtain ⟨hlt, hne, hlineage⟩ := habove c hc above hsuper
      exact .derived hmadeOf hsuper hlt hne hlineage

/-- One step of binding gives the type a lineage, if binding the types it needs does. -/
theorem descends_loadStep (hset : setting.set.PlainNames) (hload : Loads setting load)
    (hprovides : Provides setting source load) (h : setting.Sound b)
    (hasked : Asked setting.set source id fieldName) (hf : Fresh setting id fieldName b name)
    (hbase : Ends b (load (setting.set.baseOf id) name)
      (Descends setting source b (setting.set.baseOf id))) :
    Ends b (loadStep setting load id fieldName) (Descends setting source b id) := by
  rw [hf.ends_loadStep, ends_bind]
  apply (descends_buildType hset hload hprovides h hasked hf hbase).mono
  rintro (failure | t) b₁ hlineage
  · exact nofun
  · dsimp only
    rw [ends_bind, ends_register]
    cases b₁.scope.register b₁.store t with
    | error failure => exact nofun
    | ok scope => exact hlineage

/-- If no name means anything, a definition that is bound to a complex type is bound to one with its
lineage. By induction on the depth that is left: its base is bound in the same build. -/
theorem lineage_loadWithin (hset : setting.set.PlainNames) (h : setting.Sound b)
    (hnone : ∀ n, b.scope.lookup? b.store setting.registry n = none) (depth : Nat)
    (hasked : Asked setting.set source id fieldName) :
    Ends b (loadWithin setting depth id fieldName) (Descends setting source b id) := by
  induction depth generalizing id fieldName with
  | zero => exact nofun
  | succ depth ih =>
    refine ends_loadStep (fun _ _ => nofun) (fun name found _ hl => ?_)
      (fun name _ _ _ c hc => ?_) fun name htype _ hns => ?_
    · rw [hnone name] at hl
      cases hl
    · obtain ⟨_, -, hp⟩ := primitiveFor_eq_ok_iff.mp hc
      cases hp
    · have hf : Fresh setting id fieldName b name := ⟨htype, hnone name, hns⟩
      rw [← hf.ends_loadStep]
      exact descends_loadStep hset (loads_loadWithin hset depth)
        (provides_loadWithin hset source depth) h hasked hf (ih (hasked.base htype))

end Single

/-- A type without super type has its own fields only. -/
theorem allFields_of_top {store : Store} {c : ComplexId} (hc : store.Has (.complex c))
    (hsuper : (store.complex c).super = none) : store.allFields c = (store.complex c).fields := by
  obtain ⟨n, hn⟩ := Nat.exists_eq_succ_of_ne_zero (Nat.ne_of_gt (Nat.zero_lt_of_lt hc))
  unfold Store.allFields
  simp only [hn, Store.allFieldsWithin, hsuper]

/-! ## Builds that have come to their end -/

/-- The schema that is compiled is one of the set. -/
theorem mem_schemas_of_mainSchema? {set : SchemaSet} {source : Xsd.Schema}
    (h : mainSchema? set = some source) : source ∈ set.schemas :=
  List.mem_of_find?_eq_some h

/-- What is known of a build that has come to its end: each complex type has its account, and the
diagnostics are those of declarations in a ledger and of global declarations. When it started, no
name had a meaning. -/
structure Concluded (set : SchemaSet) (source : Xsd.Schema) (first b : Build) (ledger : Ledger)
    (globals : List String) : Prop where
  books : Books set source none first b ledger globals
  unnamed : ∀ n, first.scope.lookupLocal? n = none
  diagnostics : first.diagnostics = []
  has : ∀ n t, b.scope.lookupLocal? n = some t → b.store.Has t
  nameOf_eq : ∀ n t, b.scope.lookupLocal? n = some t → b.store.nameOf t = n
  globals : globals.Sublist (source.elements.keys ++ source.attributes.keys)

namespace Concluded

variable {set : SchemaSet} {source : Xsd.Schema} {first b : Build} {ledger : Ledger}
  {globals : List String} {c : ComplexId} (h : Concluded set source first b ledger globals)
include h

/-- What is under a name has been made. -/
theorem new_of_lookup {n : String} (hn : b.scope.lookupLocal? n = some (.complex c)) :
    (first.view b).New c := by
  refine ⟨h.has n _ hn, (h.books.precedes.new n _ hn).resolve_left fun hold => ?_⟩
  rw [h.unnamed n] at hold
  cases hold

/-- A complex type under its name has been made of a definition that is bound under the name, unless
it is the items of a repeated group. -/
theorem exists_definition
    (hc : b.scope.lookupLocal? (b.store.complex c).name = some (.complex c))
    (hitem : ∀ owner, (b.store.complex c).name ≠ Naming.anonymousListItem owner) :
    ∃ id fieldName, Asked set source id fieldName ∧
      typeName set (set.type id) fieldName = .ok (b.store.complex c).name := by
  cases h.books.account c (h.new_of_lookup hc) with
  | definition hasked htype => exact ⟨_, _, hasked, htype⟩
  | items _ hname => exact absurd hname (hitem _)

/-- A complex type whose super types are intact has been made of a definition, and they of its
bases. By induction on when the type has been made: its super type has been made before it. -/
theorem lineage (hset : set.PlainNames) (hintact : Intact set source b.store b.scope.locals c)
    {id : TypeId} {fieldName : String} (hasked : Asked set source id fieldName)
    (htype : typeName set (set.type id) fieldName = .ok (b.store.complex c).name) :
    Lineage set source (first.view b) id c := by
  induction hk : c.index using Nat.strong_induction_on generalizing c id fieldName with
  | _ k ih =>
    obtain ⟨hc, hsole⟩ := hintact c .refl
    cases h.books.account c (h.new_of_lookup hc) with
    | items _ hname => exact absurd hname (typeName_ne_anonymousListItem hset htype _)
    | definition hasked' htype' _ hsuper hmade _ =>
      obtain rfl := hsole _ _ _ _ hasked' hasked htype' htype
      have hmadeOf : MadeOf set source (first.view b) _ c := ⟨⟨_, hasked, htype⟩, hmade hc⟩
      cases hs : (b.store.complex c).super with
      | none => exact .top hmadeOf hs
      | some above =>
        obtain ⟨hlt, hne, hnamed⟩ := hsuper above hs
        refine .derived hmadeOf hs hlt hne ?_
        cases hnamed with
        | type hbase _ _ hname =>
          have hname : (b.store.complex above).name = _ := hname
          exact ih above.index (hk ▸ hlt) (hintact.above hs) (hasked.base htype)
            (hname.symm ▸ hbase) rfl

end Concluded

/-- A set that is compiled while no schema is registered. -/
theorem concluded_of_compile {r : Repository} (hv : r.registry.Vacant) {set : SchemaSet}
    (hset : set.PlainNames) {limits : Limits} {request : Request} {log : Log} {reg : Registered}
    {diagnostics : List Diagnostic}
    (h : (compile r limits request set log).1 = .ok ⟨some reg, diagnostics⟩) :
    ∃ source first b ledger globals, mainSchema? set = some source ∧
      Concluded set source first b ledger globals ∧ first.store = r.store ∧
      b.store = (compile r limits request set log).2.1.store ∧
      b.scope.locals = reg.schema.types ∧ b.diagnostics = diagnostics := by
  have hnew : r.registry.schema? request.name = none := by
    rw [Repository.Registry.schema?, hv.schemas]
    rfl
  obtain ⟨source, log', hmain, hschema, hstore, hdiagnostics⟩ := bindSchema_of_compile hnew h
  have hfits := (Repository.Consistent.ofVacant hv).fits
  obtain ⟨ledger, globals, hbooks, hsub⟩ :=
    @books_bindSchema ⟨set, r.registry⟩ hset r.store hfits request source log'
  obtain ⟨hadv, -⟩ := @binds_bindSchema ⟨set, r.registry⟩ r.store request source log' hset hfits
  refine ⟨source, _, _, ledger, globals, hmain,
    ⟨hbooks, fun n => rfl, rfl, hadv.sound.has, hadv.sound.nameOf_eq, hsub⟩, rfl, hstore.symm, ?_,
    hdiagnostics.symm⟩
  rw [hschema]
  exact (@types_bindSchema ⟨set, r.registry⟩ r.store request source log').symm

/-- A complex type of a compiled schema has been made of a definition, and the types above it of the
bases of this definition, if they are intact. -/
theorem exists_lineage_of_compile {r : Repository} (hv : r.registry.Vacant) {set : SchemaSet}
    (hset : set.Accepted) {limits : Limits} {request : Request} {log : Log} {reg : Registered}
    {diagnostics : List Diagnostic}
    (h : (compile r limits request set log).1 = .ok ⟨some reg, diagnostics⟩) {source : Xsd.Schema}
    (hmain : mainSchema? set = some source) {c : ComplexId}
    (hintact : Intact set source (compile r limits request set log).2.1.store reg.schema.types c)
    (hitem : ∀ owner, ((compile r limits request set log).2.1.store.complex c).name ≠
      Naming.anonymousListItem owner) :
    ∃ id, set.HasType id ∧ Lineage set source
      ⟨r.store, (compile r limits request set log).2.1.store, diagnostics⟩ id c := by
  obtain ⟨source', first, b, ledger, globals, hmain', hb, hfirst, hstore, htypes, hdiagnostics⟩ :=
    concluded_of_compile hv hset.plainNames h
  cases hmain.symm.trans hmain'
  rw [← hstore] at hintact hitem ⊢
  rw [← htypes] at hintact
  obtain ⟨id, fieldName, hasked, htype⟩ := hb.exists_definition (hintact c .refl).1 hitem
  have hlineage := hb.lineage hset.plainNames hintact hasked htype
  rw [Build.view, hfirst, hdiagnostics] at hlineage
  exact ⟨id, hasked.hasType hset.wellFormed (mem_schemas_of_mainSchema? hmain), hlineage⟩

/-! ## Sets that are compiled as the first ones -/

/-- The type of the first global element is bound. -/
theorem asked_of_entries {set : SchemaSet} {source : Xsd.Schema} {n : String} {e : ElementId}
    {rest : List (String × ElementId)} (h : source.elements.entries = (n, e) :: rest) :
    Asked set source (set.element e).type (set.element e).name := by
  have he : (n, e) ∈ source.elements.entries := h ▸ List.mem_cons_self
  exact .element he

section First

variable (set : SchemaSet)

/-- The schema of a set that is compiled. -/
def sourceOf : Xsd.Schema := (mainSchema? set).getD (.empty "")

/-- The compilation of a set as the first one. -/
def compilationOf : Result Compilation × Repository × Log :=
  compile .empty .standard ⟨"s", "p", false⟩ set #[]

theorem compilationOf_eq : compile .empty .standard ⟨"s", "p", false⟩ set #[] = compilationOf set :=
  rfl

/-- The schema that is registered. -/
def schemaOf : Registered :=
  match (compilationOf set).1 with
  | .ok ⟨some reg, _⟩ => reg
  | _ => ⟨0, ⟨"", ⟨"", ""⟩, [], .empty⟩⟩

/-- The diagnostics of the compilation. -/
def diagnosticsOf : List Diagnostic :=
  match (compilationOf set).1 with
  | .ok ⟨_, diagnostics⟩ => diagnostics
  | .error _ => []

/-- What has been made in the compilation. -/
def viewOf : View := ⟨.empty, (compilationOf set).2.1.store, diagnosticsOf set⟩

/-- A set is compiled. -/
def Compiles : Prop :=
  (match (compilationOf set).1 with
    | .ok ⟨some _, _⟩ => true
    | _ => false) = true ∧ (mainSchema? set).isSome = true

/-- A set is compiled, and nothing is left out. -/
def CompilesWhole : Prop := Compiles set ∧ (diagnosticsOf set).isEmpty = true

instance : Decidable (Compiles set) := inferInstanceAs (Decidable (_ ∧ _))

instance : Decidable (CompilesWhole set) := inferInstanceAs (Decidable (_ ∧ _))

variable {set}

theorem Compiles.compile_eq (h : Compiles set) :
    (compile .empty .standard ⟨"s", "p", false⟩ set #[]).1 =
      .ok ⟨some (schemaOf set), diagnosticsOf set⟩ := by
  have h := h.1
  show (compilationOf set).1 = _
  unfold schemaOf diagnosticsOf
  generalize (compilationOf set).1 = result at h ⊢
  split at h
  · rfl
  · cases h

theorem Compiles.main_eq (h : Compiles set) : mainSchema? set = some (sourceOf set) := by
  obtain ⟨source, hsource⟩ := Option.isSome_iff_exists.mp h.2
  unfold sourceOf
  rw [hsource, Option.getD_some]

theorem CompilesWhole.compile_eq (h : CompilesWhole set) :
    (compile .empty .standard ⟨"s", "p", false⟩ set #[]).1 = .ok ⟨some (schemaOf set), []⟩ := by
  rw [h.1.compile_eq, List.isEmpty_iff.mp h.2]

theorem CompilesWhole.main_eq (h : CompilesWhole set) : mainSchema? set = some (sourceOf set) :=
  h.1.main_eq

end First

end Binding

end SchemaBinding
