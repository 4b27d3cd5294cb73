import SchemaBinding.Proofs.Repository.Closure
import SchemaBinding.Proofs.Repository.Rebuilding

/-!
# Independent compilations

What a compilation adds to a repository is a schema with types under names of its own. Another
compilation depends on it only if one of these names is looked up. If none is, in either of them,
both may be made in any order: each schema is what it is without the other one.

## Main definitions

* `registeredBy`, `typesBy`: the schema that a compilation has as its result, and its types
* `outcome`: the dump of that schema, and the declarations that are left out
* `Added`: what a compilation under a new name leaves

## Main results

* `Consistent.added`: every compilation under a new name adds a schema, or nothing
* `outcome_eq`: a compilation depends on the names that it looks up only
* `compile_comm`: compilations in either order
-/

namespace SchemaBinding.Repository

open Binding (Compilation Diagnostic Request asked askedIn bindSchema)
open Xsd (SchemaSet)

/-- The schema that a compilation has as its result. -/
def registeredBy (result : Result Compilation) : Option Registered :=
  match result with
  | .ok compilation => compilation.schema
  | .error _ => none

/-- The types of that schema by name. -/
def typesBy (result : Result Compilation) : OrderedMap String TypeRef :=
  (registeredBy result).elim .empty (·.schema.types)

/-- What a compilation comes to: the dump of the schema, and the declarations that are left out. -/
def outcome (store : Store) (result : Result Compilation) :
    Result (Option Dump × List Diagnostic) :=
  result.map fun compilation =>
    (compilation.schema.map fun reg => Dump.ofSchema store reg.schema, compilation.diagnostics)

/-- The dump of the schema that is registered under a name. -/
def dump? (r : Repository) (name : String) : Option Dump :=
  (r.registry.schema? name).map fun reg => Dump.ofSchema r.store reg.schema

/-- The schema to which the type belongs that is published under a name. -/
def ownerOf? (r : Repository) (n : String) : Option String :=
  (r.registry.type? n).bind r.store.schemaOf?

theorem mem_schemas_iff {r : Repository} {s : String} :
    s ∈ r.registry.schemas.keys ↔ (r.registry.schema? s).isSome := by
  rw [← not_iff_not, ← OrderedMap.get?_eq_none_iff, Option.not_isSome_iff_eq_none]
  rfl

/-- A name is published just if it has an owner. -/
theorem Consistent.mem_types_iff {r : Repository} (h : Consistent r) {n : String} :
    n ∈ r.registry.types.keys ↔ (ownerOf? r n).isSome := by
  rw [← not_iff_not, ← OrderedMap.get?_eq_none_iff, Option.not_isSome_iff_eq_none, ownerOf?]
  show r.registry.type? n = none ↔ _
  cases ht : r.registry.type? n with
  | none => simp
  | some t =>
    obtain ⟨s, hs⟩ := h.fits.owner n t ht
    simp [hs]

/-! ## Dumps in grown stores -/

/-- All types that a schema mentions, and those that these mention, are in the store. -/
structure Schema.Within (schema : Schema) (store : Store) : Prop where
  field : ∀ f ∈ schema.fields, store.Has f.type
  type : ∀ t ∈ schema.types.values, store.Has t
  mentioned : ∀ t ∈ schema.types.values, ∀ u, store.RefersTo t u → store.Has u

section Dumps

variable {store store' : Store} (hg : store.Grows none store')
include hg

theorem fieldInfo_eq_of_grows {f : Field} (hf : store.Has f.type) :
    Dump.FieldInfo.ofField store' f = Dump.FieldInfo.ofField store f := by
  simp only [Dump.FieldInfo.ofField, hg.nameOf_eq hf]

theorem typeInfo_eq_of_grows {t : TypeRef} (ht : store.Has t)
    (hu : ∀ u, store.RefersTo t u → store.Has u) :
    Dump.TypeInfo.ofType store' t = Dump.TypeInfo.ofType store t := by
  have hplain : Dump.TypeInfo.plain store' t = Dump.TypeInfo.plain store t := by
    simp only [Dump.TypeInfo.plain, hg.nameOf_eq ht]
  unfold Dump.TypeInfo.ofType
  rw [hplain]
  cases t with
  | primitive p => rfl
  | simple id =>
    have hsuper : (store.simple id).super.map store'.nameOf =
        (store.simple id).super.map store.nameOf :=
      Option.map_congr fun u hs => hg.nameOf_eq (hu u (.base hs))
    simp only [hg.simple_eq id ht, hsuper]
  | complex id =>
    have hsuper : (store.complex id).super.map (fun super => (store'.complex super).name) =
        (store.complex id).super.map fun super => (store.complex super).name :=
      Option.map_congr fun u hs => hg.nameOf_eq (hu (.complex u) (.super hs))
    have hfields : (store.complex id).fields.map (Dump.FieldInfo.ofField store') =
        (store.complex id).fields.map (Dump.FieldInfo.ofField store) :=
      List.map_congr_left fun f hf => fieldInfo_eq_of_grows hg (hu f.type (.field hf))
    simp only [hg.complex_eq id ht (Option.some_ne_none id), hsuper, hfields]
  | list id => simp only [hg.list_eq id ht, hg.nameOf_eq (hu _ .item)]

/-- The dump of a schema stays as it is when further types are made. -/
theorem Schema.Within.dump_eq {schema : Schema} (h : schema.Within store) :
    Dump.ofSchema store' schema = Dump.ofSchema store schema := by
  have hfields : schema.fields.map (Dump.FieldInfo.ofField store') =
      schema.fields.map (Dump.FieldInfo.ofField store) :=
    List.map_congr_left fun f hf => fieldInfo_eq_of_grows hg (h.field f hf)
  have htypes : schema.types.values.map (Dump.TypeInfo.ofType store') =
      schema.types.values.map (Dump.TypeInfo.ofType store) :=
    List.map_congr_left fun t ht => typeInfo_eq_of_grows hg (h.type t ht) (h.mentioned t ht)
  simp only [Dump.ofSchema, hfields, htypes]

end Dumps

/-- What has been bound mentions types that have been made. -/
theorem Consistent.within_bindSchema {r : Repository} (h : Consistent r) {set : SchemaSet}
    (hset : set.Accepted) (request : Request) (source : Xsd.Schema) (log : Log) :
    let bound := bindSchema ⟨set, r.registry⟩ r.store request source log
    bound.1.Within bound.2.store := by
  have hs := h.sound_bindSchema hset request source log
  refine ⟨?_, ?_, ?_⟩
  · intro f hf
    exact Binding.Held.has (.settled ((h.binds_bindSchema hset request source log).2 f hf))
  · intro t ht
    obtain ⟨⟨n, _⟩, hmem, rfl⟩ := List.mem_map.mp ht
    exact hs.has n _ (OrderedMap.get?_eq_some_iff.mpr hmem)
  · intro t ht u hu
    obtain ⟨⟨n, _⟩, hmem, rfl⟩ := List.mem_map.mp ht
    exact Binding.Held.has (hs.closed n _ u (OrderedMap.get?_eq_some_iff.mpr hmem) hu)

/-! ## What a compilation adds -/

/-- What a compilation under a new name leaves: besides what there was, the schema that it has as
its result, with types of its own. -/
structure Added (r : Repository) (name : String) (result : Result Compilation) (r' : Repository) :
    Prop where
  consistent : Consistent r'
  grows : r.store.Grows none r'.store
  schema?_eq : ∀ s, r'.registry.schema? s =
    if s = name then registeredBy result else r.registry.schema? s
  type?_eq : ∀ n, r'.registry.type? n = ((typesBy result).get? n).or (r.registry.type? n)
  disjoint : ∀ n ∈ (typesBy result).keys, r.registry.type? n = none
  within : ∀ reg, registeredBy result = some reg → reg.schema.Within r'.store

namespace Added

variable {r r' r'' : Repository} {name name' : String} {result result' : Result Compilation}

/-- A type of the schema is published for it. -/
theorem ownerOf?_eq (h : Added r name result r') {n : String} (hn : n ∈ (typesBy result).keys) :
    ownerOf? r' n = some name := by
  obtain ⟨t, ht⟩ : ∃ t, (typesBy result).get? n = some t := by
    rw [← Option.ne_none_iff_exists']
    exact fun hnone => OrderedMap.get?_eq_none_iff.mp hnone hn
  have hschema := h.schema?_eq name
  rw [if_pos rfl] at hschema
  cases hreg : registeredBy result with
  | none =>
    simp [typesBy, hreg] at ht
  | some reg =>
    rw [hreg] at hschema
    have hown : reg.schema.types.get? n = some t := by simpa [typesBy, hreg] using ht
    rw [ownerOf?, h.type?_eq, ht]
    exact h.consistent.schemaOf?_eq name reg n t hschema hown

/-- Under all other names there are the types that there were. -/
theorem type?_eq_of_not_mem (h : Added r name result r') {n : String}
    (hn : n ∉ (typesBy result).keys) : r'.registry.type? n = r.registry.type? n := by
  rw [h.type?_eq, OrderedMap.get?_eq_none_iff.mpr hn, Option.none_or]

/-- All other types are published for the schemas that they were published for. -/
theorem ownerOf?_eq_of_not_mem (h : Added r name result r') (hr : Consistent r) {n : String}
    (hn : n ∉ (typesBy result).keys) : ownerOf? r' n = ownerOf? r n := by
  rw [ownerOf?, ownerOf?, h.type?_eq_of_not_mem hn]
  cases ht : r.registry.type? n with
  | none => rfl
  | some t => exact h.grows.schemaOf?_eq (hr.fits.has n t ht)

/-- Types that were published by then stay published for their schema. -/
theorem ownerOf?_eq_of_mem (h' : Added r' name' result' r'') (h : Added r name result r')
    {n : String} (hn : n ∈ (typesBy result).keys) : ownerOf? r'' n = some name := by
  have howner := h.ownerOf?_eq hn
  have hn' : n ∉ (typesBy result').keys := by
    intro hmem
    rw [ownerOf?, h'.disjoint n hmem] at howner
    cases howner
  rw [h'.ownerOf?_eq_of_not_mem h.consistent hn', howner]

/-- The schema keeps its dump when others are compiled. -/
theorem dump?_eq (h : Added r name result r') (h' : Added r' name' result' r'')
    (hne : name ≠ name') :
    dump? r'' name = (registeredBy result).map fun reg => Dump.ofSchema r'.store reg.schema := by
  rw [dump?, h'.schema?_eq, if_neg hne, h.schema?_eq, if_pos rfl]
  refine Option.map_congr fun reg hreg => ?_
  exact (h.within reg hreg).dump_eq h'.grows

/-- So it does while it is the last one. -/
theorem dump?_self (h : Added r name result r') :
    dump? r' name = (registeredBy result).map fun reg => Dump.ofSchema r'.store reg.schema := by
  rw [dump?, h.schema?_eq, if_pos rfl]

end Added

namespace Built

variable {r r' : Repository} {name : String} {reg : Registered}

/-- If a schema is new, all types that were published stay. -/
theorem type?_eq_some_iff (h : Built r name reg r') (hr : Consistent r)
    (hnew : r.registry.schema? name = none) {n : String} {t : TypeRef} :
    r'.registry.type? n = some t ↔
      r.registry.type? n = some t ∨ reg.schema.types.get? n = some t := by
  have hremaining : Registry.withoutTypesOf r.store r.registry.types name = r.registry.types := by
    rw [← hr.remaining_eq, Registry.remaining, hnew]
  rw [Registry.type?, OrderedMap.get?_eq_some_iff, h.types_eq, List.mem_append, hremaining,
    ← OrderedMap.get?_eq_some_iff, ← OrderedMap.get?_eq_some_iff]
  rfl

/-- The types of a new schema have names under which none was published. -/
theorem type?_eq_none (h : Built r name reg r') (hr : Consistent r)
    (hnew : r.registry.schema? name = none) {n : String} {t : TypeRef}
    (ht : reg.schema.types.get? n = some t) : r.registry.type? n = none := by
  rw [Option.eq_none_iff_forall_ne_some]
  intro u hu
  -- Both would be what is published now, but only one of them was made before.
  have hpublished := (h.type?_eq_some_iff hr hnew).mpr (.inr ht)
  rw [(h.type?_eq_some_iff hr hnew).mpr (.inl hu)] at hpublished
  exact h.new n t ht (Option.some.inj hpublished ▸ hr.fits.has n u hu)

end Built

/-- Every compilation under a new name adds a schema, or nothing. -/
theorem Consistent.added {r : Repository} (h : Consistent r) {set : SchemaSet}
    (hset : set.Accepted) (limits : Limits) (request : Request) (log : Log)
    (hnew : r.registry.schema? request.name = none) :
    Added r request.name (Binding.compile r limits request set log).1
      (Binding.compile r limits request set log).2.1 := by
  rcases compile_cases limits set with ⟨result, hnone, hresult⟩ | ⟨source, hsource⟩
  · obtain ⟨hresult, hsame⟩ := hresult r request log
    have hreg : registeredBy result = none := by
      cases result with
      | error e => rfl
      | ok c => rw [hnone c rfl]; rfl
    rw [hresult, hsame]
    refine ⟨h, .refl _ _, fun s => ?_, fun n => ?_, ?_, ?_⟩
    · split
      · next heq => rw [heq, hnew, hreg]
      · rfl
    · simp [typesBy, hreg]
    · simp [typesBy, hreg, OrderedMap.keys, OrderedMap.empty]
    · rw [hreg]
      exact some_of_none
  · obtain ⟨hcompile, -⟩ := hsource r request log (.inl hnew)
    rw [hcompile]
    obtain ⟨reg, log', hmade, hstore, hschema, hbuilt⟩ := h.build_eq hset (.inl hnew) source log
    have hreg : registeredBy (.ok (Binding.build r request set source log).1) = some reg := by
      rw [hmade]
      rfl
    have htypes : typesBy (.ok (Binding.build r request set source log).1) = reg.schema.types := by
      rw [typesBy, hreg]
      rfl
    refine ⟨h.build hset (.inl hnew) source log, hbuilt.grows, fun s => ?_, fun n => ?_, ?_, ?_⟩
    · rw [hreg, Registry.schema?, hbuilt.schemas_eq]
      exact OrderedMap.get?_insert _ _ _ _
    · rw [htypes]
      apply Option.ext
      intro t
      rw [hbuilt.type?_eq_some_iff h hnew, Option.or_eq_some_iff, or_comm]
      refine or_congr_right ⟨fun ht => ⟨?_, ht⟩, And.right⟩
      rw [Option.eq_none_iff_forall_ne_some]
      intro u hu
      rw [hbuilt.type?_eq_none h hnew hu] at ht
      cases ht
    · rw [htypes]
      intro n hn
      obtain ⟨⟨_, t⟩, hmem, rfl⟩ := List.mem_map.mp hn
      exact hbuilt.type?_eq_none h hnew (OrderedMap.get?_eq_some_iff.mpr hmem)
    · rw [hreg]
      rintro _ ⟨⟩
      rw [hstore, hschema]
      exact h.within_bindSchema hset request source log'

/-! ## Compilations in either order -/

/-- What a compilation comes to tells the dump of the schema that it has as its result. -/
theorem dump_eq_of_outcome {store store' : Store} {result result' : Result Compilation}
    (h : outcome store result = outcome store' result') :
    (registeredBy result).map (fun reg => Dump.ofSchema store reg.schema) =
      (registeredBy result').map fun reg => Dump.ofSchema store' reg.schema := by
  cases result with
  | error e =>
    cases result' with
    | error e' => rfl
    | ok c => cases h
  | ok c =>
    cases result' with
    | error e => cases h
    | ok c' => exact congrArg Prod.fst (Except.ok.inj h)

section Outcome

variable {r r₁ : Repository} (h : Consistent r) (h₁ : Consistent r₁)
  (hg : r.store.Grows none r₁.store) {set : SchemaSet} (hset : set.Accepted) (limits : Limits)
  {request : Request}
include h h₁ hg hset

/-- A compilation under a new name comes to the same in a grown repository, if the names that are
looked up are published for the same types. -/
theorem outcome_eq (hnew : r.registry.schema? request.name = none)
    (hnew₁ : r₁.registry.schema? request.name = none)
    (hnames : ∀ n ∈ asked r limits request set, r₁.registry.type? n = r.registry.type? n)
    (log log₁ : Log) :
    let first := Binding.compile r limits request set log
    let second := Binding.compile r₁ limits request set log₁
    outcome second.2.1.store second.1 = outcome first.2.1.store first.1 ∧
      (typesBy second.1).keys = (typesBy first.1).keys := by
  intro first second
  rcases compile_cases limits set with ⟨result, hnone, hresult⟩ | ⟨source, hsource⟩
  · -- The set alone decides, and nothing is built.
    rw [show first.1 = result from (hresult r request log).1,
      show second.1 = result from (hresult r₁ request log₁).1]
    cases result with
    | error e => exact ⟨rfl, rfl⟩
    | ok c =>
      rw [hnone c rfl]
      exact ⟨rfl, rfl⟩
  · obtain ⟨hfirst, hasked⟩ := hsource r request log (.inl hnew)
    obtain ⟨hsecond, -⟩ := hsource r₁ request log₁ (.inl hnew₁)
    rw [show first = _ from hfirst, show second = _ from hsecond]
    rw [hasked] at hnames
    have hvisible : ∀ n ∈ askedIn ⟨set, r.registry⟩ r.store request source,
        r₁.registry.visible? r₁.store request.name n =
          r.registry.visible? r.store request.name n := by
      intro n hn
      rw [← hg.visible?_eq (h.fits.has n), Registry.visible?, Registry.visible?, hnames n hn]
    -- Both builds ask for the same names, and see the same types under them.
    obtain ⟨reg, reg₁, diagnostics, hmade, -, hmade₁, -, hdump, hkeys⟩ :=
      h.build_again h₁ hg hset request.override (.inl hnew) (.inl hnew₁) hvisible log log₁
    constructor
    · show outcome _ (.ok (Binding.build r₁ request set source log₁).1) =
        outcome _ (.ok (Binding.build r request set source log).1)
      rw [hmade, show (Binding.build r₁ request set source log₁).1 = _ from hmade₁]
      exact congrArg (fun dump => Except.ok (some dump, diagnostics)) hdump
    · show (typesBy (.ok (Binding.build r₁ request set source log₁).1)).keys =
        (typesBy (.ok (Binding.build r request set source log).1)).keys
      rw [hmade, show (Binding.build r₁ request set source log₁).1 = _ from hmade₁]
      exact hkeys

end Outcome

/-- **Independent compilations commute.** Whatever has happened before, two sets are compiled under
different names that are not registered yet, and no name of a type of the schema built from one of
them is looked up while the other one is built. Then it makes no difference in which order they are
compiled: under each name there comes out the same, a failure or the same dump with the same
declarations left out, and so it still is in the end; the same names of schemas are registered, and
the same names of types are published, each for the same schema. -/
theorem compile_comm {r : Repository} (h : Reachable r) {set set' : SchemaSet}
    (hset : set.Accepted) (hset' : set'.Accepted) (limits limits' : Limits)
    {request request' : Request} (hne : request.name ≠ request'.name)
    (hnew : r.registry.schema? request.name = none)
    (hnew' : r.registry.schema? request'.name = none) (log log₁ log' log₁' : Log)
    (hasked' : ∀ n ∈ (typesBy (Binding.compile r limits request set log).1).keys,
      n ∉ asked r limits' request' set')
    (hasked : ∀ n ∈ (typesBy (Binding.compile r limits' request' set' log').1).keys,
      n ∉ asked r limits request set) :
    let first := Binding.compile r limits request set log
    let second := Binding.compile first.2.1 limits' request' set' log₁'
    let first' := Binding.compile r limits' request' set' log'
    let second' := Binding.compile first'.2.1 limits request set log₁
    (outcome first.2.1.store first.1 = outcome second'.2.1.store second'.1 ∧
      outcome first'.2.1.store first'.1 = outcome second.2.1.store second.1) ∧
    (dump? second.2.1 request.name = dump? second'.2.1 request.name ∧
      dump? second.2.1 request'.name = dump? second'.2.1 request'.name) ∧
    (∀ s, s ∈ second.2.1.registry.schemas.keys ↔ s ∈ second'.2.1.registry.schemas.keys) ∧
    (∀ n, n ∈ second.2.1.registry.types.keys ↔ n ∈ second'.2.1.registry.types.keys) ∧
    ∀ n, ownerOf? second.2.1 n = ownerOf? second'.2.1 n := by
  intro first second first' second'
  have hr := h.consistent
  have hfirst : Added r request.name first.1 first.2.1 := hr.added hset limits request log hnew
  have hfirst' : Added r request'.name first'.1 first'.2.1 :=
    hr.added hset' limits' request' log' hnew'
  have hnew₁' : first.2.1.registry.schema? request'.name = none :=
    (hfirst.schema?_eq _).trans ((if_neg hne.symm).trans hnew')
  have hnew₁ : first'.2.1.registry.schema? request.name = none :=
    (hfirst'.schema?_eq _).trans ((if_neg hne).trans hnew)
  have hsecond : Added first.2.1 request'.name second.1 second.2.1 :=
    hfirst.consistent.added hset' limits' request' log₁' hnew₁'
  have hsecond' : Added first'.2.1 request.name second'.1 second'.2.1 :=
    hfirst'.consistent.added hset limits request log₁ hnew₁
  obtain ⟨hout', hkeys'⟩ := outcome_eq hr hfirst.consistent hfirst.grows hset' limits' hnew' hnew₁'
    (fun n hn => hfirst.type?_eq_of_not_mem fun hmem => hasked' n hmem hn) log' log₁'
  obtain ⟨hout, hkeys⟩ := outcome_eq hr hfirst'.consistent hfirst'.grows hset limits hnew hnew₁
    (fun n hn => hfirst'.type?_eq_of_not_mem fun hmem => hasked n hmem hn) log log₁
  have hdumps := dump_eq_of_outcome hout
  have hdumps' := dump_eq_of_outcome hout'
  have howner : ∀ n, ownerOf? second.2.1 n = ownerOf? second'.2.1 n := by
    intro n
    by_cases hn : n ∈ (typesBy first.1).keys
    · rw [hsecond'.ownerOf?_eq (hkeys ▸ hn), hsecond.ownerOf?_eq_of_mem hfirst hn]
    · by_cases hn' : n ∈ (typesBy first'.1).keys
      · rw [hsecond.ownerOf?_eq (hkeys' ▸ hn'), hsecond'.ownerOf?_eq_of_mem hfirst' hn']
      · rw [hsecond.ownerOf?_eq_of_not_mem hfirst.consistent (hkeys' ▸ hn'),
          hfirst.ownerOf?_eq_of_not_mem hr hn,
          hsecond'.ownerOf?_eq_of_not_mem hfirst'.consistent (hkeys ▸ hn),
          hfirst'.ownerOf?_eq_of_not_mem hr hn']
  refine ⟨⟨hout.symm, hout'.symm⟩, ⟨?_, ?_⟩, fun s => ?_, fun n => ?_, howner⟩
  · rw [hfirst.dump?_eq hsecond hne, hsecond'.dump?_self, hdumps]
  · rw [hfirst'.dump?_eq hsecond' hne.symm, hsecond.dump?_self, hdumps']
  · have hsome := congrArg Option.isSome hdumps
    have hsome' := congrArg Option.isSome hdumps'
    rw [Option.isSome_map, Option.isSome_map] at hsome hsome'
    rw [mem_schemas_iff, mem_schemas_iff, hsecond.schema?_eq, hfirst.schema?_eq,
      hsecond'.schema?_eq, hfirst'.schema?_eq]
    -- The names differ, so each of them is that of one schema.
    split
    · next heq => rw [if_neg (heq ▸ hne.symm), hsome']
    · split
      · rw [hsome]
      · rfl
  · rw [hsecond.consistent.mem_types_iff, hsecond'.consistent.mem_types_iff, howner]

/-! ### Two independent schemas -/

/-- The compilation of the schema whose element has a type without a name. -/
def anonymousCompilation : Result Compilation × Repository × Log :=
  Binding.compile .empty .standard ⟨"q", "p", false⟩ (.ofText anonymousText) #[]

section Trees

set_option maxRecDepth 100000

/-- The schema of trees has one type, and so has the other one. Both look up the names of their own
types only. -/
theorem tree_anonymous_facts :
    (typesBy Binding.treeCompilation.1).keys = ["T"] ∧
    asked .empty .standard ⟨"s", "p", false⟩ (.ofText Binding.treeText) = ["T", "T"] ∧
    (typesBy anonymousCompilation.1).keys = ["e#anonymousType"] ∧
    asked .empty .standard ⟨"q", "p", false⟩ (.ofText anonymousText) = ["e#anonymousType"] := by
  decide +kernel

/-- They may be compiled in either order. -/
theorem compile_comm_tree_anonymous :
    let second := Binding.compile Binding.treeCompilation.2.1 .standard ⟨"q", "p", false⟩
      (.ofText anonymousText) #[]
    let second' := Binding.compile anonymousCompilation.2.1 .standard ⟨"s", "p", false⟩
      (.ofText Binding.treeText) #[]
    (outcome Binding.treeCompilation.2.1.store Binding.treeCompilation.1 =
        outcome second'.2.1.store second'.1 ∧
      outcome anonymousCompilation.2.1.store anonymousCompilation.1 =
        outcome second.2.1.store second.1) ∧
    (dump? second.2.1 "s" = dump? second'.2.1 "s" ∧
      dump? second.2.1 "q" = dump? second'.2.1 "q") ∧
    (∀ s, s ∈ second.2.1.registry.schemas.keys ↔ s ∈ second'.2.1.registry.schemas.keys) ∧
    (∀ n, n ∈ second.2.1.registry.types.keys ↔ n ∈ second'.2.1.registry.types.keys) ∧
    ∀ n, ownerOf? second.2.1 n = ownerOf? second'.2.1 n := by
  obtain ⟨htypes, hasked, htypes', hasked'⟩ := tree_anonymous_facts
  refine compile_comm .empty Binding.accepted_tree accepted_anonymous .standard .standard (by decide)
    rfl rfl #[] #[] #[] #[] ?_ ?_
  · rw [show Binding.compile _ _ _ _ _ = Binding.treeCompilation from rfl, htypes, hasked']
    decide
  · rw [show Binding.compile _ _ _ _ _ = anonymousCompilation from rfl, htypes', hasked]
    decide

end Trees

end SchemaBinding.Repository
