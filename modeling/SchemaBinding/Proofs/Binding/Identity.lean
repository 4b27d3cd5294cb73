import SchemaBinding.Proofs.Binding.Compilation
import SchemaBinding.Proofs.Repository.Publication

/-!
# The identity of types

Which types are reached from a compiled schema through fields, super types and items. Each of them
is the type that the schema has under its name, a primitive, or a list that was made for repeated
content. But where a complex type has given way to a list, the items of the list may still mention
the complex type, which the schema has no more, and which stays without fields. So every named type
has one identity just if no such type is reached.

## Main definitions

* `Repository.Schema.Reaches`: the types that are reached from a schema
* `IsWrapper`: the lists that were made for repeated content

## Main results

* `held_of_reaches`: what is reached may be mentioned
* `identity_iff`: when every named type has one identity
* `not_forall_identity`: a schema in which a type has two of them
-/

namespace SchemaBinding

open Repository (ComplexId ListId Registered Registry Scope Store TypeRef)

/-- The types that are reached from a schema: those of its fields, its own, and all that these
mention. -/
inductive Repository.Schema.Reaches (store : Store) (schema : Repository.Schema) : TypeRef → Prop
  | field {f : Repository.Field} : f ∈ schema.fields → Reaches store schema f.type
  | own {n : String} {t : TypeRef} : schema.types.get? n = some t → Reaches store schema t
  | step {t u : TypeRef} : Reaches store schema t → store.RefersTo t u → Reaches store schema u

namespace Binding

open Xsd (SchemaSet)

/-- A list that was made for repeated content, and is under no name. -/
def IsWrapper (store : Store) (t : TypeRef) : Prop :=
  ∃ l, t = .list l ∧ Naming.IsList (store.list l).name

theorem complex_ne_primitive (c : ComplexId) (p : Repository.Primitive) :
    TypeRef.complex c ≠ .primitive p :=
  TypeRef.noConfusion

theorem not_isWrapper_complex {store : Store} (c : ComplexId) : ¬ IsWrapper store (.complex c) := by
  rintro ⟨_, ⟨⟩, _⟩

/-! ## Builds next to no other schemas -/

section Vacant

variable {registry : Registry} {store : Store} {scope : Scope}

/-- Names mean what is in the scope. -/
theorem lookup?_of_vacant (h : registry.Vacant) (n : String) :
    scope.lookup? store registry n = scope.lookupLocal? n := by
  have hglobal : scope.lookupGlobal? store registry n = none := by
    rw [Scope.lookupGlobal?, Registry.visible?, Registry.type?, h.types]
    rfl
  rw [Scope.lookup?, hglobal, Option.none_or]

end Vacant

/-! ## What is reached -/

section Reaches

variable {registry : Registry} {schema : Repository.Schema} {b : Build}

/-- What is reached from a schema may be mentioned when it has been built. -/
theorem held_of_reaches (hv : registry.Vacant) (hs : Sound registry b.store b.scope)
    (htypes : schema.types = b.scope.locals)
    (hfields : ∀ f ∈ schema.fields, Settled registry b.store b.scope f.type) {t : TypeRef}
    (h : schema.Reaches b.store t) : Held registry b.store b.scope t := by
  induction h with
  | field hf => exact .settled (hfields _ hf)
  | own ht =>
    rw [htypes] at ht
    exact .settled (hs.settled_of_lookupLocal? ht)
  | @step t u _ hu ih =>
    cases ih with
    | settled hsettled =>
      cases hsettled with
      | primitive p => cases hu
      | known _ hl =>
        rw [lookup?_of_vacant hv] at hl
        exact hs.closed _ t u hl hu
      | superseded _ hf hsuper _ =>
        -- A type that has given way mentions nothing.
        rcases hu with _ | hs' | hm | _
        · rw [hsuper] at hs'
          cases hs'
        · rw [hf] at hm
          cases hm
    | wrapped _ _ hitem =>
      cases hu
      exact .settled hitem

/-- What is reached is a primitive, a list for repeated content, the type of the schema under its
name, or a complex type that has given way to a list. -/
theorem cases_of_reaches (hv : registry.Vacant) (hs : Sound registry b.store b.scope)
    (htypes : schema.types = b.scope.locals)
    (hfields : ∀ f ∈ schema.fields, Settled registry b.store b.scope f.type) {t : TypeRef}
    (h : schema.Reaches b.store t) :
    (∃ p, t = .primitive p) ∨ IsWrapper b.store t ∨
      schema.types.get? (b.store.nameOf t) = some t ∨
      ∃ c l, t = .complex c ∧ (b.store.complex c).fields = [] ∧ (b.store.complex c).super = none ∧
        schema.types.get? (b.store.nameOf t) = some (.list l) := by
  cases held_of_reaches hv hs htypes hfields h with
  | wrapped _ hn _ => exact .inr (.inl ⟨_, rfl, hn⟩)
  | settled hsettled =>
    cases hsettled with
    | primitive p => exact .inl ⟨p, rfl⟩
    | known _ hl =>
      rw [lookup?_of_vacant hv] at hl
      exact .inr (.inr (.inl (htypes ▸ hl)))
    | @superseded c l _ hf hsuper hl =>
      exact .inr (.inr (.inr ⟨c, l, rfl, hf, hsuper, htypes ▸ hl⟩))

end Reaches

/-! ## Compiled schemas -/

/-- A compilation under a new name that has a schema as its result has built it. -/
theorem bindSchema_of_compile {r : Repository} {limits : Limits} {request : Request}
    {set : SchemaSet} {log : Log} {reg : Registered} {diagnostics : List Diagnostic}
    (hnew : r.registry.schema? request.name = none)
    (h : (compile r limits request set log).1 = .ok ⟨some reg, diagnostics⟩) :
    ∃ source log', mainSchema? set = some source ∧
      reg.schema = (bindSchema ⟨set, r.registry⟩ r.store request source log').1 ∧
      (compile r limits request set log).2.1.store =
        (bindSchema ⟨set, r.registry⟩ r.store request source log').2.store ∧
      diagnostics = (bindSchema ⟨set, r.registry⟩ r.store request source log').2.diagnostics := by
  unfold compile at h ⊢
  cases hlimit : Result.ofLimit (limits.check .components set.componentCount) with
  | error _ =>
    rw [hlimit] at h
    cases h
  | ok _ =>
    cases hmain : mainSchema? set with
    | none =>
      simp only [hlimit, hmain] at h
      cases h
    | some source =>
      simp only [hlimit, hmain, hnew] at h ⊢
      refine ⟨source, log.add .debug
        s!"compiling schema {request.name} from {source.namespaceUri}", rfl, ?_, rfl, ?_⟩
      · have hreg : (build r request set source log).1.schema = some reg :=
          congrArg Compilation.schema (Except.ok.inj h)
        rw [← Option.some.inj hreg]
        exact Registry.schema_register (.inl hnew) _
      · exact (congrArg Compilation.diagnostics (Except.ok.inj h)).symm

theorem exists_bindSchema_of_compile {r : Repository} {limits : Limits} {request : Request}
    {set : SchemaSet} {log : Log} {reg : Registered} {diagnostics : List Diagnostic}
    (hnew : r.registry.schema? request.name = none)
    (h : (compile r limits request set log).1 = .ok ⟨some reg, diagnostics⟩) :
    ∃ source log', reg.schema = (bindSchema ⟨set, r.registry⟩ r.store request source log').1 ∧
      (compile r limits request set log).2.1.store =
        (bindSchema ⟨set, r.registry⟩ r.store request source log').2.store := by
  obtain ⟨source, log', -, hschema, hstore, -⟩ := bindSchema_of_compile hnew h
  exact ⟨source, log', hschema, hstore⟩

/-- **When every named type has one identity.** A set is compiled while no schema is registered.
Whatever type is reached from the schema, but for primitives and lists of repeated content, is the
very type that the schema has under its name, and so two of them that have one name are the same:
this holds just if no complex type is reached that has given way to a list. In any case what is
reached is either the type under its name or a complex type, without fields and super type, under
whose name the schema has a list. -/
theorem identity_iff {r : Repository} (hv : r.registry.Vacant) {set : SchemaSet}
    (hset : set.Accepted) (limits : Limits) (request : Request) (log : Log) {reg : Registered}
    {diagnostics : List Diagnostic}
    (h : (compile r limits request set log).1 = .ok ⟨some reg, diagnostics⟩) :
    let store := (compile r limits request set log).2.1.store
    ((∀ t, reg.schema.Reaches store t → (∀ p, t ≠ .primitive p) → ¬ IsWrapper store t →
        reg.schema.types.get? (store.nameOf t) = some t) ↔
      ∀ c, reg.schema.Reaches store (.complex c) →
        ∀ l, reg.schema.types.get? (store.complex c).name ≠ some (.list l)) ∧
    ((∀ c, reg.schema.Reaches store (.complex c) →
        ∀ l, reg.schema.types.get? (store.complex c).name ≠ some (.list l)) →
      ∀ t u, reg.schema.Reaches store t → reg.schema.Reaches store u →
        (∀ p, t ≠ .primitive p) → (∀ p, u ≠ .primitive p) → ¬ IsWrapper store t →
        ¬ IsWrapper store u → store.nameOf t = store.nameOf u → t = u) ∧
    (∀ t, reg.schema.Reaches store t → (∀ p, t ≠ .primitive p) → ¬ IsWrapper store t →
      reg.schema.types.get? (store.nameOf t) = some t ∨
        ∃ c l, t = .complex c ∧ (store.complex c).fields = [] ∧ (store.complex c).super = none ∧
          reg.schema.types.get? (store.nameOf t) = some (.list l)) := by
  intro store
  have hnew : r.registry.schema? request.name = none := by
    rw [Registry.schema?, hv.schemas]
    rfl
  obtain ⟨source, log', hschema, hstore⟩ := exists_bindSchema_of_compile hnew h
  obtain ⟨hadv, hfields⟩ := @binds_bindSchema ⟨set, r.registry⟩ r.store request source
    log' hset.plainNames (Repository.Consistent.ofVacant hv).fits
  -- What is reached is what its name means, or has given way.
  have hcases : ∀ t, reg.schema.Reaches store t → (∀ p, t ≠ .primitive p) → ¬ IsWrapper store t →
      reg.schema.types.get? (store.nameOf t) = some t ∨
        ∃ c l, t = .complex c ∧ (store.complex c).fields = [] ∧ (store.complex c).super = none ∧
          reg.schema.types.get? (store.nameOf t) = some (.list l) := by
    intro t ht hp hw
    rw [show store = _ from hstore] at ht hw ⊢
    rw [hschema] at ht ⊢
    have htypes := @types_bindSchema ⟨set, r.registry⟩ r.store request source log'
    rcases cases_of_reaches hv hadv.sound htypes hfields ht with ⟨p, rfl⟩ | hw' | hl | hs
    · exact absurd rfl (hp p)
    · exact absurd hw' hw
    · exact .inl hl
    · exact .inr hs
  have hidentity : (∀ c, reg.schema.Reaches store (.complex c) →
      ∀ l, reg.schema.types.get? (store.complex c).name ≠ some (.list l)) →
      ∀ t, reg.schema.Reaches store t → (∀ p, t ≠ .primitive p) → ¬ IsWrapper store t →
        reg.schema.types.get? (store.nameOf t) = some t := by
    intro hlist t ht hp hw
    rcases hcases t ht hp hw with hl | ⟨c, l, rfl, -, -, hl⟩
    · exact hl
    · exact absurd hl (hlist c ht l)
  refine ⟨⟨fun hid c hc l hl => ?_, hidentity⟩, ?_, hcases⟩
  · -- A complex type is not the list under its name.
    have hself := hid (.complex c) hc (complex_ne_primitive c) (not_isWrapper_complex c)
    rw [show store.nameOf (.complex c) = (store.complex c).name from rfl, hl] at hself
    cases hself
  · intro hlist t u ht hu hpt hpu hwt hwu hname
    have htl := hidentity hlist t ht hpt hwt
    rw [hname, hidentity hlist u hu hpu hwu] at htl
    exact (Option.some.inj htl).symm

/-! ## A type with two identities -/

/-- A schema with a type that contains nothing but any number of elements of the type. -/
def treeText : String :=
  "<schema xmlns=\"http://www.w3.org/2001/XMLSchema\" xmlns:t=\"t\" targetNamespace=\"t\">" ++
  "<complexType name=\"T\"><sequence>" ++
  "<element name=\"c\" type=\"t:T\" maxOccurs=\"unbounded\"/></sequence></complexType>" ++
  "<element name=\"r\" type=\"t:T\"/></schema>"

/-- The compilation of that schema. -/
def treeCompilation : Result Compilation × Repository × Log :=
  compile .empty .standard ⟨"s", "p", false⟩ (.ofText treeText) #[]

/-- The schema that it registers. -/
def treeSchema : Registered :=
  match treeCompilation.1 with
  | .ok ⟨some reg, _⟩ => reg
  | _ => ⟨0, ⟨"", ⟨"", ""⟩, [], .empty⟩⟩

section Tree

set_option maxRecDepth 100000

/-- The schema is accepted, and has a list under the name, whose items are of a complex type of that
name. -/
theorem tree_facts :
    (SchemaSet.readText treeText).isOk = true ∧
    (match treeCompilation.1 with
      | .ok ⟨some _, []⟩ => true
      | _ => false) = true ∧
    treeSchema.schema.types.get? "T" = some (.list ⟨0⟩) ∧
    (treeCompilation.2.1.store.list ⟨0⟩).item = .complex ⟨0⟩ ∧
    treeCompilation.2.1.store.nameOf (.complex ⟨0⟩) = "T" := by
  decide +kernel

theorem accepted_tree : (SchemaSet.ofText treeText).Accepted :=
  SchemaSet.accepted_ofText tree_facts.1

theorem compile_tree : treeCompilation.1 = .ok ⟨some treeSchema, []⟩ := by
  have h := tree_facts.2.1
  unfold treeSchema
  generalize treeCompilation.1 = result at h ⊢
  split at h
  · rfl
  · cases h

/-- The complex type that has given way is reached through the items of the list. -/
theorem reaches_tree : treeSchema.schema.Reaches treeCompilation.2.1.store (.complex ⟨0⟩) := by
  refine .step (.own tree_facts.2.2.1) ?_
  rw [← tree_facts.2.2.2.1]
  exact .item

/-- In the schema of trees, the complex type has given way. -/
theorem identity_iff_tree :
    treeSchema.schema.types.get? (treeCompilation.2.1.store.nameOf (.complex ⟨0⟩)) =
        some (.complex ⟨0⟩) ∨
      ∃ c l, TypeRef.complex ⟨0⟩ = .complex c ∧ (treeCompilation.2.1.store.complex c).fields = [] ∧
        (treeCompilation.2.1.store.complex c).super = none ∧
        treeSchema.schema.types.get? (treeCompilation.2.1.store.nameOf (.complex ⟨0⟩)) =
          some (.list l) :=
  (identity_iff ⟨rfl, rfl⟩ accepted_tree .standard ⟨"s", "p", false⟩ #[] compile_tree).2.2 _
    reaches_tree (complex_ne_primitive _) (not_isWrapper_complex _)

/-- What is reached from a schema is not always the type that the schema has under its name. -/
theorem not_forall_identity :
    ¬ ∀ r : Repository, r.registry.Vacant → ∀ set, SchemaSet.Accepted set →
      ∀ limits request log reg diagnostics,
      (compile r limits request set log).1 = .ok ⟨some reg, diagnostics⟩ →
      ∀ t, reg.schema.Reaches (compile r limits request set log).2.1.store t →
      (∀ p, t ≠ .primitive p) → ¬ IsWrapper (compile r limits request set log).2.1.store t →
      reg.schema.types.get? ((compile r limits request set log).2.1.store.nameOf t) = some t := by
  intro h
  have hself := h .empty ⟨rfl, rfl⟩ _ accepted_tree .standard ⟨"s", "p", false⟩ #[] _ _
    compile_tree _ reaches_tree (complex_ne_primitive _) (not_isWrapper_complex _)
  have hname : (compile .empty .standard ⟨"s", "p", false⟩ (.ofText treeText) #[]).2.1.store.nameOf
      (.complex ⟨0⟩) = "T" := tree_facts.2.2.2.2
  rw [hname, tree_facts.2.2.1] at hself
  cases hself

end Tree

end Binding

end SchemaBinding
