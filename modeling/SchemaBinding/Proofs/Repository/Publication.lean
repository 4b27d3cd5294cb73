import SchemaBinding.Proofs.Binding.Compilation

/-!
# Published types

Which types are published in a repository, after any number of compilations, removals and clearings:
just those of the schemas that are registered, each under its name. No two schemas ever have types
of one name, so what a schema publishes never takes the place of what another one has published.

## Main definitions

* `Repository.Reachable`: the repositories that come about from the empty one
* `Repository.Consistent`: the invariant
* `Registry.Vacant`: registries without schemas

## Main results

* `Registry.foldl_publish`: publishing types whose names are free
* `Consistent.remove`, `Consistent.clear`, `Consistent.compile`: the invariant at each operation
* `Reachable.consistent`: the invariant at all times
-/

namespace SchemaBinding.Repository

open Binding (Request Setting bindSchema)
open Xsd (SchemaSet)

/-- The repositories that come about from the empty one when schema sets that have been read are
compiled, schemas are removed and all is cleared, in any order. -/
inductive Reachable : Repository → Prop
  | empty : Reachable .empty
  | compile {r : Repository} {set : SchemaSet} (limits : Limits) (request : Request) (log : Log) :
      Reachable r → set.Accepted → Reachable (Binding.compile r limits request set log).2.1
  | remove {r : Repository} (name : String) : Reachable r → Reachable (r.remove name).2
  | clear {r : Repository} : Reachable r → Reachable r.clear

/-- The types that are published are those of the registered schemas, each under its name. With the
items of a repeated group, a schema has the type that has the group. -/
structure Consistent (r : Repository) : Prop where
  name_eq : ∀ s reg, r.registry.schema? s = some reg → reg.schema.name = s
  published : ∀ s reg n t, r.registry.schema? s = some reg → reg.schema.types.get? n = some t →
    r.registry.type? n = some t
  has : ∀ s reg n t, r.registry.schema? s = some reg → reg.schema.types.get? n = some t →
    r.store.Has t
  nameOf_eq : ∀ s reg n t, r.registry.schema? s = some reg →
    reg.schema.types.get? n = some t → r.store.nameOf t = n
  schemaOf?_eq : ∀ s reg n t, r.registry.schema? s = some reg →
    reg.schema.types.get? n = some t → r.store.schemaOf? t = some s
  item : ∀ s reg k t, r.registry.schema? s = some reg →
    reg.schema.types.get? (Binding.Naming.anonymousListItem k) = some t →
    reg.schema.types.get? k ≠ none
  owner : ∀ n t, r.registry.type? n = some t →
    ∃ s reg, r.registry.schema? s = some reg ∧ reg.schema.types.get? n = some t

/-- A registry without schemas. -/
structure Registry.Vacant (registry : Registry) : Prop where
  schemas : registry.schemas = .empty
  types : registry.types = .empty

namespace Registry

variable {store : Store} {schemaName : String} {override : Bool}

/-! ## Publishing -/

/-- A name is free if it is not published for a type of another schema. -/
theorem otherOwner?_eq_none_iff {types : OrderedMap String TypeRef} {n : String} :
    otherOwner? store types schemaName n = none ↔
      ∀ t, types.get? n = some t → (store.schemaOf? t).getD "" = schemaName := by
  unfold otherOwner?
  cases types.get? n with
  | none => exact ⟨fun _ => nofun, fun _ => rfl⟩
  | some t => simp

/-- A type under a free name is published, and nothing is said about it. -/
theorem publish_of_free {types : OrderedMap String TypeRef} {log : Log} {t : TypeRef}
    (h : otherOwner? store types schemaName (store.nameOf t) = none) :
    publish store schemaName override (types, log) t = (types.insert (store.nameOf t) t, log) := by
  simp only [publish, h]

/-- A type of the schema leaves free names free. -/
theorem otherOwner?_insert {types : OrderedMap String TypeRef} {t : TypeRef} {n : String}
    (hown : store.schemaOf? t = some schemaName) (h : otherOwner? store types schemaName n = none)
    (k : String) : otherOwner? store (types.insert k t) schemaName n = none := by
  rw [otherOwner?_eq_none_iff] at h ⊢
  intro u hu
  obtain ⟨rfl, rfl⟩ | ⟨-, hu⟩ := OrderedMap.eq_or_of_get?_insert hu
  · rw [hown]
    rfl
  · exact h u hu

section Fold

variable {ts : List TypeRef} {types : OrderedMap String TypeRef} {log : Log}
  (hown : ∀ t ∈ ts, store.schemaOf? t = some schemaName)
  (hfree : ∀ t ∈ ts, otherOwner? store types schemaName (store.nameOf t) = none)
include hown hfree

/-- Types of a schema whose names are free are published one after the other. -/
theorem foldl_publish :
    ts.foldl (publish store schemaName override) (types, log) =
      (ts.foldl (fun types t => types.insert (store.nameOf t) t) types, log) := by
  induction ts generalizing types with
  | nil => rfl
  | cons t ts ih =>
    rw [List.foldl_cons, publish_of_free (hfree t List.mem_cons_self), List.foldl_cons]
    apply ih (fun u hu => hown u (List.mem_cons_of_mem _ hu))
    intro u hu
    exact otherOwner?_insert (hown t List.mem_cons_self) (hfree u (List.mem_cons_of_mem _ hu)) _

/-- They leave free names free. -/
theorem otherOwner?_foldl_publish {n : String} (hn : otherOwner? store types schemaName n = none) :
    otherOwner? store (ts.foldl (publish store schemaName override) (types, log)).1
      schemaName n = none := by
  rw [foldl_publish hown hfree]
  clear hfree
  induction ts generalizing types with
  | nil => exact hn
  | cons t ts ih =>
    refine ih (fun u hu => hown u (List.mem_cons_of_mem _ hu)) ?_
    exact otherOwner?_insert (hown t List.mem_cons_self) hn _

end Fold

/-- A schema that does not give way to an earlier one is registered itself. -/
theorem schema_register {r : Registry} {schema : Schema}
    (h : r.schema? schema.name = none ∨ override = true) (log : Log) :
    (r.register store schema override log).1.schema = schema := by
  unfold register
  cases hreg : r.schema? schema.name with
  | none => rfl
  | some existing =>
    obtain rfl : override = true := h.resolve_left (by simp [hreg])
    rfl

end Registry

/-- Whatever holds of a repository holds after a compilation if it holds when a schema has been
built that is new, or comes in the place of an earlier one. -/
theorem compile_of_build {P : Repository → Prop} {r : Repository} {set : SchemaSet}
    {limits : Limits} {request : Request} {log : Log} (h : P r)
    (hbuild : ∀ source, r.registry.schema? request.name = none ∨ request.override = true →
      P (Binding.build r request set source log).2.1) :
    P (Binding.compile r limits request set log).2.1 := by
  unfold Binding.compile
  split
  · exact h
  · split
    · exact h
    · split
      · exact h
      · next hnew =>
        apply hbuild
        cases hreg : r.registry.schema? request.name with
        | none => exact .inl rfl
        | some existing =>
          right
          cases ho : request.override with
          | true => rfl
          | false => exact absurd ho (hnew existing hreg)

/-! ## The invariant at each operation -/

namespace Consistent

variable {r : Repository}

/-- What is published fits all builds. -/
theorem fits (h : Consistent r) : Binding.Fits r.registry r.store where
  has n t ht := by
    obtain ⟨s, reg, hs, hg⟩ := h.owner n t ht
    exact h.has s reg n t hs hg
  nameOf_eq n t ht := by
    obtain ⟨s, reg, hs, hg⟩ := h.owner n t ht
    exact h.nameOf_eq s reg n t hs hg
  owner n t ht := by
    obtain ⟨s, reg, hs, hg⟩ := h.owner n t ht
    exact ⟨s, h.schemaOf?_eq s reg n t hs hg⟩
  item k t ht := by
    obtain ⟨s, reg, hs, hg⟩ := h.owner _ t ht
    obtain ⟨u, hu⟩ := Option.ne_none_iff_exists'.mp (h.item s reg k t hs hg)
    refine ⟨u, h.published s reg k u hs hu, ?_⟩
    rw [h.schemaOf?_eq s reg k u hs hu, h.schemaOf?_eq s reg _ t hs hg]

/-- Types that are made later make no difference. -/
theorem grow (h : Consistent r) {store : Store} (hg : r.store.Grows none store) :
    Consistent { r with store } where
  name_eq := h.name_eq
  published := h.published
  has s reg n t hs ht := hg.has t (h.has s reg n t hs ht)
  nameOf_eq s reg n t hs ht :=
    (hg.nameOf_eq (h.has s reg n t hs ht)).trans (h.nameOf_eq s reg n t hs ht)
  schemaOf?_eq s reg n t hs ht :=
    (hg.schemaOf?_eq (h.has s reg n t hs ht)).trans (h.schemaOf?_eq s reg n t hs ht)
  item := h.item
  owner := h.owner

/-- If no schema is registered, there is nothing that could be wrong. -/
theorem ofVacant (h : r.registry.Vacant) : Consistent r := by
  have hschema : ∀ s reg, r.registry.schema? s ≠ some reg := by
    intro s reg hs
    rw [Registry.schema?, h.schemas] at hs
    cases hs
  have htype : ∀ n t, r.registry.type? n ≠ some t := by
    intro n t ht
    rw [Registry.type?, h.types] at ht
    cases ht
  refine ⟨?_, ?_, ?_, ?_, ?_, ?_, ?_⟩
  · exact fun s reg hs => absurd hs (hschema s reg)
  · exact fun s reg n t hs => absurd hs (hschema s reg)
  · exact fun s reg n t hs => absurd hs (hschema s reg)
  · exact fun s reg n t hs => absurd hs (hschema s reg)
  · exact fun s reg n t hs => absurd hs (hschema s reg)
  · exact fun s reg k t hs => absurd hs (hschema s reg)
  · exact fun n t ht => absurd ht (htype n t)

theorem empty : Consistent .empty := .ofVacant ⟨rfl, rfl⟩

theorem clear : Consistent r.clear := .ofVacant ⟨rfl, rfl⟩

/-- The types of other schemas are those that stay when the types of a schema are taken away. -/
theorem get?_withoutTypesOf {types : OrderedMap String TypeRef} {store : Store} {name n : String}
    {t : TypeRef} :
    (Registry.withoutTypesOf store types name).get? n = some t ↔
      types.get? n = some t ∧ store.schemaOf? t ≠ some name := by
  rw [Registry.withoutTypesOf, OrderedMap.get?_filter, Option.filter_eq_some_iff, bne_iff_ne]

theorem remove (h : Consistent r) (name : String) : Consistent (r.remove name).2 := by
  unfold Repository.remove Registry.remove
  cases hreg : r.registry.schema? name with
  | none => exact h
  | some removed =>
    -- A schema that is still there is another one, and so are the schemas of its types.
    have hschema : ∀ s reg, (r.registry.schemas.erase name).get? s = some reg →
        s ≠ name ∧ r.registry.schema? s = some reg := by
      intro s reg hs
      rw [OrderedMap.get?_erase] at hs
      split at hs
      · cases hs
      · next hne => exact ⟨hne, hs⟩
    refine ⟨?_, ?_, ?_, ?_, ?_, ?_, ?_⟩
    · exact fun s reg hs => h.name_eq s reg (hschema s reg hs).2
    · intro s reg n t hs ht
      obtain ⟨hne, hs⟩ := hschema s reg hs
      refine get?_withoutTypesOf.mpr ⟨h.published s reg n t hs ht, ?_⟩
      rw [h.schemaOf?_eq s reg n t hs ht]
      exact fun heq => hne (Option.some.inj heq)
    · exact fun s reg n t hs ht => h.has s reg n t (hschema s reg hs).2 ht
    · exact fun s reg n t hs ht => h.nameOf_eq s reg n t (hschema s reg hs).2 ht
    · exact fun s reg n t hs ht => h.schemaOf?_eq s reg n t (hschema s reg hs).2 ht
    · exact fun s reg k t hs ht => h.item s reg k t (hschema s reg hs).2 ht
    · intro n t ht
      obtain ⟨ht, hne⟩ := get?_withoutTypesOf.mp ht
      obtain ⟨s, reg, hs, hg⟩ := h.owner n t ht
      refine ⟨s, reg, ?_, hg⟩
      have hs' : s ≠ name := by
        rintro rfl
        exact hne (h.schemaOf?_eq s reg n t hs hg)
      exact (OrderedMap.get?_erase _ _ _).trans ((if_neg hs').trans hs)

/-! ### Registration -/

/-- What stays are the types of other schemas. -/
theorem get?_remaining (h : Consistent r) {name n : String} {t : TypeRef} :
    (r.registry.remaining r.store name).get? n = some t ↔
      r.registry.type? n = some t ∧ r.store.schemaOf? t ≠ some name := by
  unfold Registry.remaining
  split
  · exact get?_withoutTypesOf
  · next hnone =>
    refine ⟨fun ht => ⟨ht, fun heq => ?_⟩, fun ht => ht.1⟩
    obtain ⟨s, reg, hs, hg⟩ := h.owner n t ht
    rw [h.schemaOf?_eq s reg n t hs hg] at heq
    cases heq
    rw [hnone] at hs
    cases hs

/-- The names of the types of a sound build are free. -/
theorem free_of_sound (h : Consistent r) {name : String} {types : OrderedMap String TypeRef}
    (hs : Binding.Sound r.registry r.store ⟨name, types⟩) {t : TypeRef} (ht : t ∈ types.values) :
    Registry.otherOwner? r.store (r.registry.remaining r.store name) name
      (r.store.nameOf t) = none := by
  obtain ⟨⟨n, _⟩, hmem, rfl⟩ := List.mem_map.mp ht
  have hlocal := OrderedMap.get?_eq_some_iff.mpr hmem
  rw [Registry.otherOwner?_eq_none_iff, hs.nameOf_eq n _ hlocal]
  intro u hu
  -- A type that remained under the name would have been found when this one was built.
  have hhidden := hs.hidden n _ hlocal
  have hvisible : Scope.lookupGlobal? ⟨name, types⟩ r.store r.registry n = some u :=
    Registry.visible?_eq_some_iff.mpr ((get?_remaining h).mp hu)
  rw [hhidden] at hvisible
  cases hvisible

/-- The types of a sound build belong to the schema. -/
theorem schemaOf?_of_sound {registry : Registry} {store : Store} {name : String}
    {types : OrderedMap String TypeRef} (hs : Binding.Sound registry store ⟨name, types⟩)
    {t : TypeRef} (ht : t ∈ types.values) : store.schemaOf? t = some name := by
  obtain ⟨⟨n, _⟩, hmem, rfl⟩ := List.mem_map.mp ht
  exact hs.schemaOf?_eq n _ (OrderedMap.get?_eq_some_iff.mpr hmem)

/-- Publishing the types of a sound build adds them to those that remain. -/
theorem foldl_publish_eq (h : Consistent r) {name : String} {types : OrderedMap String TypeRef}
    (hs : Binding.Sound r.registry r.store ⟨name, types⟩) (override : Bool) (log : Log) :
    types.values.foldl (Registry.publish r.store name override)
        (r.registry.remaining r.store name, log) =
      (types.entries.foldl (fun acc e => acc.insert e.1 e.2) (r.registry.remaining r.store name),
        log) := by
  rw [Registry.foldl_publish (fun t ht => schemaOf?_of_sound hs ht)
    (fun t ht => free_of_sound h hs ht), OrderedMap.values, List.foldl_map]
  refine congrArg (·, log) (List.foldl_ext _ _ _ fun acc e he => ?_)
  rw [hs.nameOf_eq e.1 e.2 (OrderedMap.get?_eq_some_iff.mpr he)]

/-- The registry when a schema has been registered that does not give way to an earlier one: the
types of the schema come in the place of its former ones. -/
theorem register_eq (h : Consistent r) {schema : Schema} {override : Bool}
    (hs : Binding.Sound r.registry r.store ⟨schema.name, schema.types⟩)
    (hnew : r.registry.schema? schema.name = none ∨ override = true) (log : Log) :
    (r.register schema override log).2.1 =
      { r with registry :=
          ⟨r.registry.schemas.insert schema.name ⟨r.registry.nextSerial, schema⟩,
            schema.types.entries.foldl (fun acc e => acc.insert e.1 e.2)
              (r.registry.remaining r.store schema.name), r.registry.nextSerial + 1⟩ } := by
  have hpublish := foldl_publish_eq h hs override
  unfold Repository.register Registry.register
  cases hreg : r.registry.schema? schema.name with
  | none => simp only [hpublish]
  | some existing =>
    obtain rfl : override = true := hnew.resolve_left (by simp [hreg])
    simp only [hpublish]

/-- The types of another schema stay published, and the new schema has none of their names. -/
theorem remaining_of_other (h : Consistent r) {name : String} {types : OrderedMap String TypeRef}
    (hs : Binding.Sound r.registry r.store ⟨name, types⟩) {s : String} (hne : s ≠ name)
    {reg : Registered} (hreg : r.registry.schema? s = some reg) {n : String} {t : TypeRef}
    (ht : reg.schema.types.get? n = some t) :
    types.get? n = none ∧ (r.registry.remaining r.store name).get? n = some t := by
  have hp := h.published s reg n t hreg ht
  have hne' : r.store.schemaOf? t ≠ some name := by
    rw [h.schemaOf?_eq s reg n t hreg ht]
    exact fun heq => hne (Option.some.inj heq)
  refine ⟨?_, (get?_remaining h).mpr ⟨hp, hne'⟩⟩
  have hvisible : Scope.lookupGlobal? ⟨name, types⟩ r.store r.registry n = some t :=
    Registry.visible?_eq_some_iff.mpr ⟨hp, hne'⟩
  cases hl : types.get? n with
  | none => rfl
  | some u =>
    rw [hs.hidden n u hl] at hvisible
    cases hvisible

/-- A schema may be registered whose types are those of a sound build. -/
theorem register (h : Consistent r) {schema : Schema} {override : Bool}
    (hs : Binding.Sound r.registry r.store ⟨schema.name, schema.types⟩)
    (hnew : r.registry.schema? schema.name = none ∨ override = true) (log : Log) :
    Consistent (r.register schema override log).2.1 := by
  rw [register_eq h hs hnew]
  -- What is published are the types of the schema, and of the other ones those that remain.
  have hpublished : ∀ n, (schema.types.entries.foldl (fun acc e => acc.insert e.1 e.2)
      (r.registry.remaining r.store schema.name)).get? n =
      (schema.types.get? n).or ((r.registry.remaining r.store schema.name).get? n) :=
    OrderedMap.get?_foldl_insert _ _
  refine ⟨?_, ?_, ?_, ?_, ?_, ?_, ?_⟩
  · intro s reg hreg
    rcases OrderedMap.eq_or_of_get?_insert hreg with ⟨rfl, rfl⟩ | ⟨-, hreg⟩
    · rfl
    · exact h.name_eq s reg hreg
  · intro s reg n t hreg ht
    apply (hpublished n).trans
    rcases OrderedMap.eq_or_of_get?_insert hreg with ⟨-, rfl⟩ | ⟨hne, hreg⟩
    · rw [ht, Option.some_or]
    · obtain ⟨hnone, hremaining⟩ := h.remaining_of_other hs hne hreg ht
      rw [hnone, Option.none_or, hremaining]
  · intro s reg n t hreg ht
    rcases OrderedMap.eq_or_of_get?_insert hreg with ⟨-, rfl⟩ | ⟨-, hreg⟩
    · exact hs.has n t ht
    · exact h.has s reg n t hreg ht
  · intro s reg n t hreg ht
    rcases OrderedMap.eq_or_of_get?_insert hreg with ⟨-, rfl⟩ | ⟨-, hreg⟩
    · exact hs.nameOf_eq n t ht
    · exact h.nameOf_eq s reg n t hreg ht
  · intro s reg n t hreg ht
    rcases OrderedMap.eq_or_of_get?_insert hreg with ⟨rfl, rfl⟩ | ⟨-, hreg⟩
    · exact hs.schemaOf?_eq n t ht
    · exact h.schemaOf?_eq s reg n t hreg ht
  · intro s reg k t hreg ht
    rcases OrderedMap.eq_or_of_get?_insert hreg with ⟨-, rfl⟩ | ⟨-, hreg⟩
    · exact hs.item k t ht
    · exact h.item s reg k t hreg ht
  · intro n t ht
    rcases Option.or_eq_some_iff.mp ((hpublished n).symm.trans ht) with ht | ⟨-, ht⟩
    · exact ⟨schema.name, _, OrderedMap.get?_insert_self _ _ _, ht⟩
    · -- A type that remains belongs to another schema, which is still there.
      obtain ⟨hp, hne⟩ := (get?_remaining h).mp ht
      obtain ⟨s, reg, hreg, hg⟩ := h.owner n t hp
      have hs' : s ≠ schema.name := by
        rintro rfl
        exact hne (h.schemaOf?_eq _ reg n t hreg hg)
      refine ⟨s, reg, ?_, hg⟩
      exact (OrderedMap.get?_insert _ _ _ _).trans ((if_neg hs').trans hreg)

/-- The build of a schema is sound. -/
theorem binds_bindSchema (h : Consistent r) {set : SchemaSet} (hset : set.Accepted)
    (request : Request) (source : Xsd.Schema) (log : Log) :
    Binding.Binds ⟨set, r.registry⟩ (.start r.store request.name log)
      (bindSchema ⟨set, r.registry⟩ r.store request source log).1.fields
      (bindSchema ⟨set, r.registry⟩ r.store request source log).2 :=
  Binding.binds_bindSchema _ _ _ _ hset.plainNames h.fits

/-- What is bound may be registered. -/
theorem sound_bindSchema (h : Consistent r) {set : SchemaSet} (hset : set.Accepted)
    (request : Request) (source : Xsd.Schema) (log : Log) :
    Binding.Sound r.registry (bindSchema ⟨set, r.registry⟩ r.store request source log).2.store
      ⟨request.name, (bindSchema ⟨set, r.registry⟩ r.store request source log).1.types⟩ := by
  obtain ⟨hadv, -⟩ := h.binds_bindSchema hset request source log
  have hscope : (bindSchema ⟨set, r.registry⟩ r.store request source log).2.scope =
      ⟨request.name, (bindSchema ⟨set, r.registry⟩ r.store request source log).1.types⟩ :=
    congrArg (Scope.mk · _) hadv.grows.schemaName_eq
  exact hscope ▸ hadv.sound

theorem build (h : Consistent r) {set : SchemaSet} (hset : set.Accepted) {request : Request}
    (hnew : r.registry.schema? request.name = none ∨ request.override = true)
    (source : Xsd.Schema) (log : Log) :
    Consistent (Binding.build r request set source log).2.1 := by
  obtain ⟨hadv, -⟩ := h.binds_bindSchema hset request source
    (log.add .debug s!"compiling schema {request.name} from {source.namespaceUri}")
  exact (h.grow hadv.grows.store).register (h.sound_bindSchema hset request source _) hnew _

theorem compile (h : Consistent r) {set : SchemaSet} (hset : set.Accepted) (limits : Limits)
    (request : Request) (log : Log) :
    Consistent (Binding.compile r limits request set log).2.1 :=
  compile_of_build h fun source hnew => h.build hset hnew source log

end Consistent

theorem Reachable.consistent {r : Repository} (h : Reachable r) : Consistent r := by
  induction h with
  | empty => exact .empty
  | compile limits request log _ hset ih => exact ih.compile hset limits request log
  | remove name _ ih => exact ih.remove name
  | clear _ _ => exact .clear

/-- **The published types are the disjoint union of the types of the registered schemas.** A type
that is published under a name has the name, and belongs to a registered schema that has it under
that name; each type of a registered schema is published so; and no two of them have types of one
name. When a further schema is compiled, no name of its types is published for another schema at the
moment at which the type is published. -/
theorem published_iff_owned {r : Repository} (h : Reachable r) :
    (∀ n t, r.registry.type? n = some t ↔ ∃ s reg, r.registry.schema? s = some reg ∧
      reg.schema.types.get? n = some t ∧ r.store.nameOf t = n ∧ r.store.schemaOf? t = some s ∧
        reg.schema.name = s) ∧
    (∀ s reg, r.registry.schema? s = some reg → ∀ n t, reg.schema.types.get? n = some t →
      r.registry.type? n = some t ∧ r.store.nameOf t = n ∧ r.store.schemaOf? t = some s) ∧
    (∀ s reg s' reg' n t t', r.registry.schema? s = some reg → r.registry.schema? s' = some reg' →
      reg.schema.types.get? n = some t → reg'.schema.types.get? n = some t' → s = s') ∧
    (∀ set request source log, SchemaSet.Accepted set →
      let (schema, build) := bindSchema ⟨set, r.registry⟩ r.store request source log
      ∀ before t after, schema.types.values = before ++ t :: after →
        Registry.otherOwner? build.store
          (before.foldl (Registry.publish build.store schema.name request.override)
            (r.registry.remaining build.store schema.name, build.log)).1
          schema.name (build.store.nameOf t) = none) := by
  have hr := h.consistent
  refine ⟨fun n t => ⟨fun ht => ?_, ?_⟩, ?_, ?_, ?_⟩
  · obtain ⟨s, reg, hs, hg⟩ := hr.owner n t ht
    exact ⟨s, reg, hs, hg, hr.nameOf_eq s reg n t hs hg, hr.schemaOf?_eq s reg n t hs hg,
      hr.name_eq s reg hs⟩
  · rintro ⟨s, reg, hs, hg, -⟩
    exact hr.published s reg n t hs hg
  · intro s reg hs n t hg
    exact ⟨hr.published s reg n t hs hg, hr.nameOf_eq s reg n t hs hg,
      hr.schemaOf?_eq s reg n t hs hg⟩
  · intro s reg s' reg' n t t' hs hs' ht ht'
    -- Both types are what is published under the name, and it has one schema.
    have hp := hr.published s reg n t hs ht
    rw [hr.published s' reg' n t' hs' ht'] at hp
    cases hp
    have howner := hr.schemaOf?_eq s reg n t hs ht
    rw [hr.schemaOf?_eq s' reg' n t hs' ht'] at howner
    exact (Option.some.inj howner).symm
  · intro set request source log hset before t after hvalues
    have hsound := hr.sound_bindSchema hset request source log
    have hgrown := hr.grow (hr.binds_bindSchema hset request source log).1.grows.store
    have hmem : ∀ u ∈ before ++ t :: after, u ∈
        (bindSchema ⟨set, r.registry⟩ r.store request source log).1.types.values :=
      fun u hu => hvalues ▸ hu
    refine Registry.otherOwner?_foldl_publish (fun u hu => ?_) (fun u hu => ?_) ?_
    · exact Consistent.schemaOf?_of_sound hsound (hmem u (List.mem_append_left _ hu))
    · exact hgrown.free_of_sound hsound (hmem u (List.mem_append_left _ hu))
    · exact hgrown.free_of_sound hsound (hmem t (by simp))

/-! ### A compiled schema -/

/-- A schema with an element that has a type without a name. -/
def anonymousText : String :=
  "<schema xmlns=\"http://www.w3.org/2001/XMLSchema\" targetNamespace=\"t\">" ++
  "<element name=\"e\"><complexType/></element></schema>"

/-- The repository that has nothing but that schema. -/
def anonymousRepository : Repository :=
  (Binding.compile .empty .standard ⟨"s", "p", false⟩ (.ofText anonymousText) #[]).2.1

section Anonymous

set_option maxRecDepth 100000

/-- The schema is accepted, and the type is published under the name that the element gives. -/
theorem anonymous_facts : (SchemaSet.readText anonymousText).isOk = true ∧
    anonymousRepository.registry.type? "e#anonymousType" = some (.complex ⟨0⟩) := by
  decide +kernel

theorem accepted_anonymous : (SchemaSet.ofText anonymousText).Accepted :=
  SchemaSet.accepted_ofText anonymous_facts.1

theorem reachable_anonymous : Reachable anonymousRepository :=
  .compile _ _ _ .empty accepted_anonymous

/-- The type that is published under the name that the element gives belongs to the schema. -/
theorem published_iff_owned_anonymous :
    anonymousRepository.registry.type? "e#anonymousType" = some (.complex ⟨0⟩) ∧
    ∃ s reg, anonymousRepository.registry.schema? s = some reg ∧
      reg.schema.types.get? "e#anonymousType" = some (.complex ⟨0⟩) ∧
        anonymousRepository.store.nameOf (.complex ⟨0⟩) = "e#anonymousType" ∧
        anonymousRepository.store.schemaOf? (.complex ⟨0⟩) = some s ∧ reg.schema.name = s :=
  ⟨anonymous_facts.2,
    ((published_iff_owned reachable_anonymous).1 _ _).mp anonymous_facts.2⟩

end Anonymous

end SchemaBinding.Repository
