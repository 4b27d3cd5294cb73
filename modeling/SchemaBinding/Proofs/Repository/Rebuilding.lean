import SchemaBinding.Proofs.Binding.Replay
import SchemaBinding.Proofs.Repository.Frame

/-!
# Building a schema again

A schema that is built again from the same set takes the place of the first one. Its own types are
hidden while it is built, and these are the only ones that have come since the first build began. So
every name means what it meant then, and all is made as it was.

## Main results

* `compile_cases`: what a compilation comes to, whatever the repository
* `Consistent.build_again`: the same build in another repository
* `compile_again`: compiling a set twice
-/

namespace SchemaBinding.Repository

open Binding (Build Compilation Diagnostic Request Setting asked askedIn bindSchema mainSchema?)
open Xsd (SchemaSet)

/-- A published type is seen from a schema if it is left when the types of the schema are taken
away. -/
theorem Registry.visible?_eq_get? (registry : Registry) (store : Store) (schemaName n : String) :
    registry.visible? store schemaName n =
      (Registry.withoutTypesOf store registry.types schemaName).get? n := by
  rw [Registry.withoutTypesOf, OrderedMap.get?_filter]
  rfl

/-- What a compilation comes to if no schema stays under the name: it fails or finds nothing to
compile, whatever the repository, or it builds one and the same schema of the set. -/
theorem compile_cases (limits : Limits) (set : SchemaSet) :
    (∃ result, (∀ c, result = .ok c → c = ⟨none, []⟩) ∧ ∀ r request log,
      (Binding.compile r limits request set log).1 = result ∧
      (Binding.compile r limits request set log).2.1 = r) ∨
    ∃ source, ∀ r request log,
      r.registry.schema? request.name = none ∨ request.override = true →
      Binding.compile r limits request set log =
        (.ok (Binding.build r request set source log).1,
          (Binding.build r request set source log).2) ∧
      asked r limits request set = askedIn ⟨set, r.registry⟩ r.store request source := by
  cases hlimit : Result.ofLimit (limits.check .components set.componentCount) with
  | error e =>
    refine .inl ⟨.error e, nofun, fun r request log => ?_⟩
    simp only [Binding.compile, hlimit, and_self]
  | ok _ =>
    cases hmain : mainSchema? set with
    | none =>
      refine .inl ⟨.ok ⟨none, []⟩, ?_, fun r request log => ?_⟩
      · rintro c ⟨⟩
        rfl
      · simp only [Binding.compile, hlimit, hmain, and_self]
    | some source =>
      refine .inr ⟨source, fun r request log hnew => ?_⟩
      simp only [Binding.compile, asked, hlimit, hmain]
      cases hreg : r.registry.schema? request.name with
      | none => exact ⟨rfl, rfl⟩
      | some existing =>
        have ho : request.override = true := hnew.resolve_left (by simp [hreg])
        rw [ho]
        exact ⟨rfl, rfl⟩

/-- What a build leaves: a schema that has been bound, and is registered. -/
theorem Consistent.build_eq {r : Repository} (h : Consistent r) {set : SchemaSet}
    (hset : set.Accepted) {request : Request}
    (hnew : r.registry.schema? request.name = none ∨ request.override = true)
    (source : Xsd.Schema) (log : Log) :
    ∃ reg log',
      let bound := bindSchema ⟨set, r.registry⟩ r.store request source log'
      (Binding.build r request set source log).1 = ⟨some reg, bound.2.diagnostics⟩ ∧
      (Binding.build r request set source log).2.1.store = bound.2.store ∧
      reg.schema = bound.1 ∧ Built r request.name reg (Binding.build r request set source log).2.1 := by
  obtain ⟨reg, hreg, hbuilt⟩ := h.built_build hset hnew source log
  refine ⟨reg, log.add .debug s!"compiling schema {request.name} from {source.namespaceUri}", ?_,
    rfl, ?_, hbuilt⟩
  · exact congrArg (Compilation.mk · _) hreg
  · rw [← Option.some.inj hreg]
    exact Registry.schema_register hnew _

section Again

variable {r r₁ : Repository} (h : Consistent r) (h₁ : Consistent r₁)
  (hg : r.store.Grows none r₁.store) {set : SchemaSet} (hset : set.Accepted)
include h h₁ hg hset

/-- If the names that are looked up mean the same, a schema is built in a grown repository as it is
built before: with the same dump, the same names of types and the same diagnostics. -/
theorem Consistent.build_again {request : Request} (override : Bool)
    (hnew : r.registry.schema? request.name = none ∨ request.override = true)
    (hnew₁ : r₁.registry.schema? request.name = none ∨ override = true) {source : Xsd.Schema}
    (hnames : ∀ n ∈ askedIn ⟨set, r.registry⟩ r.store request source,
      r₁.registry.visible? r₁.store request.name n = r.registry.visible? r.store request.name n)
    (log log₁ : Log) :
    let first := Binding.build r request set source log
    let second := Binding.build r₁ { request with override } set source log₁
    ∃ reg reg₁ diagnostics,
      first.1 = ⟨some reg, diagnostics⟩ ∧ Built r request.name reg first.2.1 ∧
      second.1 = ⟨some reg₁, diagnostics⟩ ∧ Built r₁ request.name reg₁ second.2.1 ∧
      Dump.ofSchema second.2.1.store reg₁.schema = Dump.ofSchema first.2.1.store reg.schema ∧
      reg₁.schema.types.keys = reg.schema.types.keys := by
  intro first second
  obtain ⟨reg, log', hfirst, hstore, hschema, hbuilt⟩ := h.build_eq hset hnew source log
  -- Whether it comes in the place of another one makes no difference to the schema.
  let request₁ : Request := { request with override }
  have hnew₁ : r₁.registry.schema? request₁.name = none ∨ request₁.override = true := hnew₁
  obtain ⟨reg₁, log₁', hsecond, hstore₁, hschema₁, hbuilt₁⟩ := h₁.build_eq hset hnew₁ source log₁
  obtain ⟨heq, hmirrors, hdiagnostics⟩ :=
    Binding.bindSchema_eq h.fits hg h₁.fits request source log' log₁' hnames
  refine ⟨reg, reg₁, _, hfirst, hbuilt, ?_, hbuilt₁, ?_, ?_⟩
  · exact hsecond.trans (congrArg _ hdiagnostics)
  · have hown : ∀ t ∈ reg.schema.types.values, ¬ r.store.Has t := by
      intro t ht
      obtain ⟨⟨n, _⟩, hmem, rfl⟩ := List.mem_map.mp ht
      exact hbuilt.new n _ (OrderedMap.get?_eq_some_iff.mpr hmem)
    rw [hschema] at hown
    rw [hstore, hstore₁, hschema, hschema₁]
    exact (congrArg (Dump.ofSchema _) heq).trans (hmirrors.dump_eq hown)
  · rw [hschema, hschema₁]
    exact (congrArg (fun s : Schema => s.types.keys) heq).trans (OrderedMap.keys_mapValues _ _)

end Again

namespace Built

variable {r r₁ r₂ : Repository} {name : String} {reg reg₁ : Registered}

/-- The published types of a schema come after those of the others. -/
theorem keys_types_eq (h : Built r name reg r₁) :
    r₁.registry.types.keys =
      (Registry.withoutTypesOf r.store r.registry.types name).keys ++ reg.schema.types.keys := by
  rw [OrderedMap.keys, h.types_eq, List.map_append]
  rfl

/-- What is published for other schemas is seen from a schema as it was before it was built. -/
theorem visible?_eq (h : Built r name reg r₁) (hr : Consistent r) (n : String) :
    r₁.registry.visible? r₁.store name n = r.registry.visible? r.store name n := by
  rw [Registry.visible?_eq_get?, Registry.visible?_eq_get?, h.withoutTypesOf_eq hr]

/-- A schema that is built again keeps its place among the schemas. -/
theorem keys_schemas_again (h : Built r name reg r₁) (h₁ : Built r₁ name reg₁ r₂) :
    r₂.registry.schemas.keys = r₁.registry.schemas.keys := by
  rw [h₁.schemas_eq]
  apply OrderedMap.keys_insert_of_mem
  by_contra hmem
  have hnone := OrderedMap.get?_eq_none_iff.mpr hmem
  rw [← Registry.schema?, h.schema?_eq] at hnone
  cases hnone

end Built

/-- **Building a schema again changes nothing.** Whatever has happened before, when a set is
compiled under a name and a schema is built, and then the same set is compiled under the same name
and prefix in its place, a schema is built again. It is registered under the name, has the same dump
as the first one, and the same declarations are left out of it. The names of schemas and of
published types stay as they are, in their order. -/
theorem compile_again {r : Repository} (h : Reachable r) {set : SchemaSet} (hset : set.Accepted)
    (limits : Limits) (request : Request) (log log₁ : Log) {reg : Registered}
    {diagnostics : List Diagnostic}
    (hnew : r.registry.schema? request.name = none ∨ request.override = true)
    (hbuilt : (Binding.compile r limits request set log).1 = .ok ⟨some reg, diagnostics⟩) :
    let first := (Binding.compile r limits request set log).2.1
    let again := Binding.compile first limits { request with override := true } set log₁
    ∃ reg₁, again.1 = .ok ⟨some reg₁, diagnostics⟩ ∧
      again.2.1.registry.schema? request.name = some reg₁ ∧
      Dump.ofSchema again.2.1.store reg₁.schema = Dump.ofSchema first.store reg.schema ∧
      again.2.1.registry.schemas.keys = first.registry.schemas.keys ∧
      again.2.1.registry.types.keys = first.registry.types.keys := by
  have hr := h.consistent
  rcases compile_cases limits set with ⟨result, hnone, hresult⟩ | ⟨source, hsource⟩
  · have hnothing := hnone _ ((hresult r request log).1.symm.trans hbuilt)
    cases hnothing
  · obtain ⟨hfirst, -⟩ := hsource r request log hnew
    rw [hfirst] at hbuilt ⊢
    intro first again
    obtain ⟨hagain, -⟩ := hsource first { request with override := true } log₁ (.inr rfl)
    have hr₁ : Consistent first := hr.build hset hnew source log
    obtain ⟨reg', -, hstep⟩ := hr.built_build hset hnew source log
    obtain ⟨reg, reg₁, ds, hmade, hb, hmade₁, hb₁, hdump, hkeys⟩ :=
      hr.build_again hr₁ hstep.grows hset true hnew (.inr rfl)
        (fun n _ => hstep.visible?_eq hr n) log log₁
    obtain ⟨rfl, rfl⟩ : reg = _ ∧ ds = _ := by
      rw [hmade] at hbuilt
      cases hbuilt
      exact ⟨rfl, rfl⟩
    rw [show again = _ from hagain]
    refine ⟨reg₁, congrArg Except.ok hmade₁, hb₁.schema?_eq, hdump, hb.keys_schemas_again hb₁, ?_⟩
    -- The types of the other schemas are the same, and those of this one have the same names.
    have hothers := hb.withoutTypesOf_eq hr
    rw [hb₁.keys_types_eq, hb.keys_types_eq, hkeys, hothers]

section Tree

set_option maxRecDepth 100000

/-- The schema of trees is built twice. Its own types have the names that are looked up. -/
theorem compile_again_tree :
    let first := Binding.treeCompilation.2.1
    let again := Binding.compile first .standard ⟨"s", "p", true⟩ (.ofText Binding.treeText) #[]
    ∃ reg₁, again.1 = .ok ⟨some reg₁, []⟩ ∧ again.2.1.registry.schema? "s" = some reg₁ ∧
      Dump.ofSchema again.2.1.store reg₁.schema =
        Dump.ofSchema first.store Binding.treeSchema.schema ∧
      again.2.1.registry.schemas.keys = first.registry.schemas.keys ∧
      again.2.1.registry.types.keys = first.registry.types.keys :=
  compile_again .empty Binding.accepted_tree .standard ⟨"s", "p", false⟩ #[] #[] (.inl rfl)
    Binding.compile_tree

end Tree

end SchemaBinding.Repository
