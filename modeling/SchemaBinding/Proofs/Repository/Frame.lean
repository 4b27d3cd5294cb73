import SchemaBinding.Proofs.Binding.Agreement
import SchemaBinding.Proofs.Binding.Identity
import SchemaBinding.Proofs.Binding.Succession

/-!
# What a compilation leaves alone

A schema that is compiled takes the place of the one that is registered under its name, and nothing
else changes: all other schemas and the types that they have published stay, in the order that they
had. If nothing is built, the repository stays as it is. That the types of the schema never come in
the place of those of another one follows from the way in which they are bound: where a type of
another schema is published under a name, the name means that type.

## Main definitions

* `Repository.Call`: the compilations under a name, of a set or of what is at a location
* `Repository.Effect`: what a compilation can do

## Main results

* `Call.effect`: the cases of a compilation
* `Consistent.built_build`: the published types when a schema has been built
* `frame_of_call`: what stays, and what is replaced
-/

namespace SchemaBinding.Repository

open Binding (Build Compilation Diagnostic Request Setting bindSchema)
open Xsd (SchemaSet)

/-- The compilations under a name: of a set that has been read, or of the set at a location. Each
has a result, and leaves a repository. -/
inductive Call (r : Repository) (request : Request) : Result Compilation → Repository → Prop
  | compile {set : SchemaSet} (limits : Limits) (log : Log) : set.Accepted →
      Call r request (Binding.compile r limits request set log).1
        (Binding.compile r limits request set log).2.1
  | load (files : FileSystem) (limits : Limits) (location : Location) :
      Call r request (Binding.loadSchema r files limits request location).1
        (Binding.loadSchema r files limits request location).2.1

/-- What a compilation can do: fail, find nothing to compile, find a schema that stays, or build a
schema that is new or replaces another one. The first three change nothing. -/
inductive Effect (r : Repository) (request : Request) : Result Compilation → Repository → Prop
  | failed (e : Error) : Effect r request (.error e) r
  | nothing : Effect r request (.ok ⟨none, []⟩) r
  | kept {existing : Registered} : r.registry.schema? request.name = some existing →
      request.override = false → Effect r request (.ok ⟨some existing, []⟩) r
  | built {set : SchemaSet} {source : Xsd.Schema} {log : Log} : set.Accepted →
      (r.registry.schema? request.name = none ∨ request.override = true) →
      Effect r request (.ok (Binding.build r request set source log).1)
        (Binding.build r request set source log).2.1

theorem effect_compile (r : Repository) (limits : Limits) (request : Request) {set : SchemaSet}
    (hset : set.Accepted) (log : Log) :
    Effect r request (Binding.compile r limits request set log).1
      (Binding.compile r limits request set log).2.1 := by
  unfold Binding.compile
  split
  · exact .failed _
  · split
    · exact .nothing
    · split
      · next hreg ho => exact .kept hreg ho
      · next hnew =>
        refine .built hset ?_
        cases hreg : r.registry.schema? request.name with
        | none => exact .inl rfl
        | some existing => exact .inr ((Bool.eq_false_or_eq_true _).resolve_right (hnew existing hreg))

/-- What is compiled at a location is the set that is read there. -/
theorem Call.effect {r r' : Repository} {request : Request} {result : Result Compilation}
    (h : Call r request result r') : Effect r request result r' := by
  cases h with
  | compile limits log hset => exact effect_compile r limits request hset log
  | load files limits location =>
    unfold Binding.loadSchema
    cases hparse : SchemaSet.parse files limits location with
    | mk parsed log =>
      cases parsed with
      | error e => exact .failed e
      | ok set =>
        have hset : set.Accepted := ⟨files, limits, location, congrArg Prod.fst hparse⟩
        exact effect_compile r limits request hset log

/-! ## Building a schema -/

/-- A schema has been built and registered under a name: its types are new, and come after those
that other schemas have published. -/
structure Built (r : Repository) (name : String) (reg : Registered) (r' : Repository) : Prop where
  grows : r.store.Grows none r'.store
  schemas_eq : r'.registry.schemas = r.registry.schemas.insert name reg
  types_eq : r'.registry.types.entries =
    (Registry.withoutTypesOf r.store r.registry.types name).entries ++ reg.schema.types.entries
  own : ∀ n t, reg.schema.types.get? n = some t → r'.store.schemaOf? t = some name
  new : ∀ n t, reg.schema.types.get? n = some t → ¬ r.store.Has t

/-- A schema that does not give way to an earlier one is registered with the next number. -/
theorem Registry.registered_register {registry : Registry} {store : Store} {schema : Schema}
    {override : Bool} (h : registry.schema? schema.name = none ∨ override = true) (log : Log) :
    (registry.register store schema override log).1 = ⟨registry.nextSerial, schema⟩ := by
  unfold Registry.register
  cases hreg : registry.schema? schema.name with
  | none => rfl
  | some existing =>
    obtain rfl : override = true := h.resolve_left (by simp [hreg])
    rfl

/-- The types of a schema are made while it is bound. -/
theorem not_has_of_bindSchema (setting : Setting) (store : Store) (request : Request)
    (source : Xsd.Schema) (log : Log) {n : String} {t : TypeRef}
    (ht : (bindSchema setting store request source log).1.types.get? n = some t) :
    ¬ store.Has t := by
  have hreached : Binding.Reached setting (.start store request.name log)
      (bindSchema setting store request source log).2 :=
    Binding.Reached.globalFields .start source
  refine (hreached.precedes.new n t ht).resolve_left ?_
  exact nofun

namespace Consistent

variable {r : Repository}

/-- What remains are the types of other schemas, in the order that they had. -/
theorem remaining_eq (h : Consistent r) (name : String) :
    r.registry.remaining r.store name = Registry.withoutTypesOf r.store r.registry.types name := by
  apply OrderedMap.ext_entries
  unfold Registry.remaining
  split
  · rfl
  · next hnone =>
    refine (List.filter_eq_self.mpr fun e he => ?_).symm
    obtain ⟨s, reg, hs, hg⟩ := h.owner e.1 e.2 (OrderedMap.get?_eq_some_iff.mpr he)
    show (r.store.schemaOf? e.2 != some name) = true
    rw [h.schemaOf?_eq s reg e.1 e.2 hs hg, bne_iff_ne]
    rintro ⟨⟩
    rw [hnone] at hs
    cases hs

/-- Types that are made later have no part in what others have published. -/
theorem withoutTypesOf_grow (h : Consistent r) {store : Store} (hg : r.store.Grows none store)
    (name : String) :
    Registry.withoutTypesOf store r.registry.types name =
      Registry.withoutTypesOf r.store r.registry.types name := by
  apply OrderedMap.ext_entries
  refine List.filter_congr fun e he => ?_
  have howner := hg.schemaOf?_eq (h.fits.has e.1 e.2 (OrderedMap.get?_eq_some_iff.mpr he))
  exact congrArg (· != some name) howner

/-- Other schemas have no types under the names of a sound build. -/
theorem entries_foldl_remaining (h : Consistent r) {name : String}
    {types : OrderedMap String TypeRef}
    (hs : Binding.Sound r.registry r.store ⟨name, types⟩) :
    (types.entries.foldl (fun acc e => acc.insert e.1 e.2)
        (r.registry.remaining r.store name)).entries =
      (Registry.withoutTypesOf r.store r.registry.types name).entries ++ types.entries := by
  rw [OrderedMap.entries_foldl_insert, h.remaining_eq]
  intro n hn
  obtain ⟨⟨_, t⟩, ht, rfl⟩ := List.mem_map.mp hn
  rw [← OrderedMap.get?_eq_none_iff, Option.eq_none_iff_forall_ne_some]
  intro u hu
  have hhidden := hs.hidden _ t (OrderedMap.get?_eq_some_iff.mpr ht)
  have hvisible : Scope.lookupGlobal? ⟨name, types⟩ r.store r.registry _ = some u :=
    Registry.visible?_eq_some_iff.mpr (h.get?_remaining.mp hu)
  rw [hhidden] at hvisible
  cases hvisible

/-- A schema is built, and its types come in the place of its former ones. -/
theorem built_build (h : Consistent r) {set : SchemaSet} (hset : set.Accepted) {request : Request}
    (hnew : r.registry.schema? request.name = none ∨ request.override = true)
    (source : Xsd.Schema) (log : Log) :
    ∃ reg, (Binding.build r request set source log).1.schema = some reg ∧
      Built r request.name reg (Binding.build r request set source log).2.1 := by
  let log' := log.add .debug s!"compiling schema {request.name} from {source.namespaceUri}"
  let schema := (bindSchema ⟨set, r.registry⟩ r.store request source log').1
  let grown : Repository :=
    { r with store := (bindSchema ⟨set, r.registry⟩ r.store request source log').2.store }
  obtain ⟨hadv, -⟩ := h.binds_bindSchema hset request source log'
  have hs := h.sound_bindSchema hset request source log'
  have hgrown := h.grow hadv.grows.store
  have hentries := hgrown.entries_foldl_remaining hs
  rw [withoutTypesOf_grow h hadv.grows.store] at hentries
  refine ⟨⟨r.registry.nextSerial, schema⟩,
    congrArg some (Registry.registered_register hnew _), ?_⟩
  have hregistered : ∀ log, (grown.register schema request.override log).2.1 = _ :=
    hgrown.register_eq hs hnew
  show Built r request.name _ (grown.register schema request.override _).2.1
  rw [hregistered]
  exact {
    grows := hadv.grows.store
    schemas_eq := rfl
    types_eq := hentries
    own := fun n t ht => hs.schemaOf?_eq n t ht
    new := fun n t ht => not_has_of_bindSchema _ _ _ _ _ ht }

end Consistent

/-! ## What stays -/

namespace Built

variable {r r' : Repository} {name : String} {reg : Registered}

/-- The schema is registered under the name. -/
theorem schema?_eq (h : Built r name reg r') : r'.registry.schema? name = some reg := by
  rw [Registry.schema?, h.schemas_eq]
  exact OrderedMap.get?_insert_self _ _ _

/-- All other schemas stay. -/
theorem erase_eq (h : Built r name reg r') :
    r'.registry.schemas.erase name = r.registry.schemas.erase name := by
  rw [h.schemas_eq]
  exact OrderedMap.erase_insert _ _ _

/-- So do the types that they have published. -/
theorem withoutTypesOf_eq (h : Built r name reg r') (hr : Consistent r) :
    Registry.withoutTypesOf r'.store r'.registry.types name =
      Registry.withoutTypesOf r.store r.registry.types name := by
  let p := fun e : String × TypeRef => r'.store.schemaOf? e.2 != some name
  have hothers : (Registry.withoutTypesOf r.store r.registry.types name).entries.filter p =
      (Registry.withoutTypesOf r.store r.registry.types name).entries := by
    rw [← hr.withoutTypesOf_grow h.grows]
    exact List.filter_eq_self.mpr fun e he => (List.mem_filter.mp he).2
  have hown : reg.schema.types.entries.filter p = [] := by
    refine List.filter_eq_nil_iff.mpr fun e he => ?_
    have howner := h.own e.1 e.2 (OrderedMap.get?_eq_some_iff.mpr he)
    exact fun hp => bne_iff_ne.mp hp howner
  apply OrderedMap.ext_entries
  calc r'.registry.types.entries.filter p
      = ((Registry.withoutTypesOf r.store r.registry.types name).entries ++
          reg.schema.types.entries).filter p := congrArg (List.filter p) h.types_eq
    _ = (Registry.withoutTypesOf r.store r.registry.types name).entries := by
        rw [List.filter_append, hothers, hown, List.append_nil]

/-- A type that was made before, and belongs to the schema, is not published any more. -/
theorem type?_ne (h : Built r name reg r') {t : TypeRef} (hhas : r.store.Has t)
    (howner : r.store.schemaOf? t = some name) (n : String) : r'.registry.type? n ≠ some t := by
  intro ht
  have hmem := OrderedMap.get?_eq_some_iff.mp ht
  rw [h.types_eq, List.mem_append] at hmem
  rcases hmem with hmem | hmem
  · have hother := (Consistent.get?_withoutTypesOf.mp (OrderedMap.get?_eq_some_iff.mpr hmem)).2
    exact hother howner
  · exact h.new n t (OrderedMap.get?_eq_some_iff.mpr hmem) hhas

end Built

/-- **A compilation leaves alone what it does not replace.** Whatever has happened before, when a
schema is compiled under a name, all other registered schemas and all types that these have
published stay, in their order, and no type that was made before changes. If the compilation fails,
finds nothing to compile, or finds a schema under the name that is not to be replaced, the whole
repository stays as it is. If a schema is built, it is the one under the name from then on; all
types of the earlier schema of that name are withdrawn, and just the types of the new one come after
those of the other schemas. -/
theorem frame_of_call {r r' : Repository} (h : Reachable r) {request : Request}
    {result : Result Compilation} (hcall : Call r request result r') :
    (r'.registry.schemas.erase request.name = r.registry.schemas.erase request.name ∧
      Registry.withoutTypesOf r'.store r'.registry.types request.name =
        Registry.withoutTypesOf r.store r.registry.types request.name ∧
      r.store.Grows none r'.store) ∧
    ((∀ e, result = .error e → r' = r) ∧
      (∀ diagnostics, result = .ok ⟨none, diagnostics⟩ → r' = r) ∧
      ∀ existing, r.registry.schema? request.name = some existing → request.override = false →
        r' = r ∧ ∀ reg diagnostics, result = .ok ⟨some reg, diagnostics⟩ → reg = existing) ∧
    ∀ reg diagnostics, result = .ok ⟨some reg, diagnostics⟩ →
      r.registry.schema? request.name = none ∨ request.override = true →
      r'.registry.schema? request.name = some reg ∧
      (∀ old, r.registry.schema? request.name = some old → ∀ n t,
        old.schema.types.get? n = some t → ∀ k, r'.registry.type? k ≠ some t) ∧
      r'.registry.types.entries =
        (Registry.withoutTypesOf r.store r.registry.types request.name).entries ++
          reg.schema.types.entries := by
  have hr := h.consistent
  cases hcall.effect with
  | failed e =>
    refine ⟨⟨rfl, rfl, .refl _ _⟩, ⟨fun _ _ => rfl, nofun, fun _ _ _ => ⟨rfl, nofun⟩⟩, nofun⟩
  | nothing =>
    refine ⟨⟨rfl, rfl, .refl _ _⟩, ⟨nofun, fun _ _ => rfl, fun _ _ _ => ⟨rfl, nofun⟩⟩, nofun⟩
  | @kept existing hreg ho =>
    refine ⟨⟨rfl, rfl, .refl _ _⟩, ⟨nofun, nofun, fun existing' hreg' _ => ⟨rfl, ?_⟩⟩, ?_⟩
    · rintro reg diagnostics ⟨⟩
      exact Option.some.inj (hreg.symm.trans hreg')
    · rintro reg diagnostics - (hnone | ho')
      · rw [hreg] at hnone
        cases hnone
      · rw [ho] at ho'
        cases ho'
  | @built set source log hset hnew =>
    -- The schema is new, or replaces one: the cases in which nothing may change are excluded.
    obtain ⟨reg, hreg, hbuilt⟩ := hr.built_build hset hnew source log
    have hresult : ∀ c diagnostics, (.ok (Binding.build r request set source log).1 :
        Result Compilation) = .ok ⟨c, diagnostics⟩ → c = some reg := by
      intro c diagnostics heq
      exact (congrArg Compilation.schema (Except.ok.inj heq)).symm.trans hreg
    refine ⟨⟨hbuilt.erase_eq, hbuilt.withoutTypesOf_eq hr, hbuilt.grows⟩, ⟨nofun, ?_, ?_⟩, ?_⟩
    · intro diagnostics heq
      cases hresult _ _ heq
    · intro existing hexisting ho
      rcases hnew with hnone | ho'
      · rw [hexisting] at hnone
        cases hnone
      · rw [ho] at ho'
        cases ho'
    · intro reg' diagnostics heq _
      obtain rfl : reg' = reg := Option.some.inj (hresult _ _ heq)
      refine ⟨hbuilt.schema?_eq, fun old hold n t ht k => ?_, hbuilt.types_eq⟩
      exact hbuilt.type?_ne (hr.has _ old n t hold ht) (hr.schemaOf?_eq _ old n t hold ht) k

/-! ### A schema that is replaced -/

/-- A schema is read again, and replaces the one that has been registered. -/
def replacement : Result Compilation × Repository × Log :=
  Binding.loadSchema anonymousRepository .empty .standard ⟨"s", "p", true⟩ (.inMemory anonymousText)

section Replacement

set_option maxRecDepth 100000

/-- The schema is registered before with its type, and the result is a schema again. -/
theorem replacement_facts :
    ((anonymousRepository.registry.schema? "s").any fun old =>
      old.schema.types.get? "e#anonymousType" == some (.complex ⟨0⟩)) = true ∧
    (match replacement.1 with
      | .ok ⟨some _, _⟩ => true
      | _ => false) = true := by
  decide +kernel

/-- The type that was published is withdrawn, and the schemas of other names stay. -/
theorem frame_of_call_replacement :
    replacement.2.1.registry.schemas.erase "s" = anonymousRepository.registry.schemas.erase "s" ∧
    ∀ k, replacement.2.1.registry.type? k ≠ some (.complex ⟨0⟩) := by
  obtain ⟨hold, hnew⟩ := replacement_facts
  obtain ⟨old, hold, htype⟩ := (Option.any_eq_true _ _).mp hold
  obtain ⟨hstays, -, hbuilt⟩ := @frame_of_call _ _ reachable_anonymous ⟨"s", "p", true⟩ _
    (.load .empty .standard (.inMemory anonymousText))
  refine ⟨hstays.1, ?_⟩
  split at hnew
  · next reg diagnostics heq =>
    exact (hbuilt reg diagnostics heq (.inr rfl)).2.1 old hold _ _ (beq_iff_eq.mp htype)
  · cases hnew

end Replacement

end SchemaBinding.Repository
