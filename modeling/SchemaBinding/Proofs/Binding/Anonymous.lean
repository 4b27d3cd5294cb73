import SchemaBinding.Proofs.Binding.Identity
import SchemaBinding.Proofs.Binding.Origins

/-!
# Anonymous definitions

An anonymous definition is bound under a name that comes from the element in which it is. The
definitions inside elements of one name are bound under one name, and then the first of them that is
bound gives its type to all. So a field of an element is of a type that has been made of a
definition which is bound under that name, and of the definition inside the element if there is no
other.

## Main definitions

* `AnonymousIn`: the type of an element is an anonymous definition inside it
* `BoundUnder`: the definitions that are bound under a name
* `Repository.Schema.HasField`: the fields of a schema and of the types that are reached from it

## Main results

* `anonymous_origin`: of which definition the type of a field has been made
* `not_forall_anonymous`: an element with the type of another element
-/

namespace SchemaBinding

open Repository (ComplexId Registered Registry Store TypeRef)

/-- A field of a schema, or of a complex type that is reached from it. -/
inductive Repository.Schema.HasField (store : Store) (schema : Repository.Schema) :
    Repository.Field → Prop
  | top {f : Repository.Field} : f ∈ schema.fields → HasField store schema f
  | inner {c : ComplexId} {f : Repository.Field} : schema.Reaches store (.complex c) →
      f ∈ (store.complex c).fields → HasField store schema f

theorem Repository.Schema.HasField.reaches {store : Store} {schema : Repository.Schema}
    {f : Repository.Field} (h : schema.HasField store f) : schema.Reaches store f.type := by
  cases h with
  | top hf => exact .field hf
  | inner hc hf => exact .step hc (.field hf)

namespace Binding

open Xsd (ElementId Occurs SchemaSet TypeId)

/-- The type of an element is an anonymous definition inside it. -/
structure AnonymousIn (set : SchemaSet) (e : ElementId) : Prop where
  name_eq : (set.type (set.element e).type).name = none
  scope_eq : ∀ definition, (set.type (set.element e).type).kind = .complex definition →
    definition.scope = some e

/-- A definition is bound under a name while a schema is built. -/
def BoundUnder (set : SchemaSet) (source : Xsd.Schema) (n : String) (id : TypeId) : Prop :=
  ∃ fieldName, Asked set source id fieldName ∧ typeName set (set.type id) fieldName = .ok n

/-! ## The name of an anonymous definition -/

/-- No built-in type has the name of an anonymous definition. -/
theorem ofBuiltin?_anonymousType (owner : String) :
    Repository.Primitive.ofBuiltin? (Naming.anonymousType owner) = none := by
  have hplain : ∀ entry ∈ Repository.Primitive.builtins, ∀ n ∈ entry.2, '#' ∉ n.toList := by
    decide
  rw [Repository.Primitive.ofBuiltin?, Option.map_eq_none_iff, List.find?_eq_none]
  intro entry hentry hmem
  have hn := hplain entry hentry _ (List.contains_iff_mem.mp hmem)
  simp [Naming.anonymousType] at hn

section Named

variable {set : SchemaSet} {source : Xsd.Schema} {store : Store} {e : ElementId} {t : TypeRef}

theorem AnonymousIn.typeName_eq (h : AnonymousIn set e) {n : String}
    (hn : typeName set (set.type (set.element e).type) (set.element e).name = .ok n) :
    n = Naming.anonymousType (set.element e).name := by
  unfold typeName at hn
  split at hn
  · next hname =>
    rw [h.name_eq] at hname
    cases hname
  · next hkind =>
    rw [h.scope_eq _ hkind] at hn
    cases hn
    rfl
  · split at hn
    · cases hn
    · cases hn
      rfl

/-- What the definition inside an element is bound to is a type with the name of the definition. -/
theorem AnonymousIn.nameOf_eq (h : AnonymousIn set e)
    (hnamed : Named set store (set.element e).type (set.element e).name t) :
    (∀ p, t ≠ .primitive p) ∧ store.nameOf t = Naming.anonymousType (set.element e).name := by
  cases hnamed with
  | type htype _ hp hname => exact ⟨hp, hname.trans (h.typeName_eq htype)⟩
  | primitive htype _ hp =>
    rw [h.typeName_eq htype, ofBuiltin?_anonymousType] at hp
    cases hp

/-- What is under the name of an anonymous definition has been made of a definition. -/
theorem Origin.exists_made {v : View} {owner : String}
    (h : Origin set source v (Naming.anonymousType owner) t) :
    ∃ id, BoundUnder set source (Naming.anonymousType owner) id ∧ Made set v id t := by
  generalize hn : Naming.anonymousType owner = n at h
  cases h with
  | definition hasked hname hmade => exact ⟨_, ⟨_, hasked, hname⟩, hmade⟩
  | items _ _ _ => exact absurd hn (Naming.anonymousType_ne_anonymousListItem _ _)

/-- The type of the field of an element is reached with the field. -/
theorem ElementField.reaches {schema : Repository.Schema} {occurs : Occurs} {f : Repository.Field}
    (h : ElementField set store occurs e f t) (hf : schema.HasField store f) :
    schema.Reaches store t ∧ Named set store (set.element e).type (set.element e).name t := by
  cases h with
  | single _ hnamed => exact ⟨hf.reaches, hnamed⟩
  | @repeated l _ _ _ _ hl hnamed =>
    have hitem : store.RefersTo (.list l) (store.list l).item := .item
    rw [hl] at hitem
    exact ⟨.step hf.reaches hitem, hnamed⟩

end Named

/-! ## Fields of anonymous types -/

/-- **Of which definition the type of a field has been made.** A set is compiled while no schema is
registered. Each global declaration has its field, or a diagnostic, and each type of the schema has
its origin. For an element whose type is an anonymous definition inside it, the type of its field
(or of the items, if it is repeated) is the one that the schema has under the name of the anonymous
definitions of elements of that name, or has given way to the list under the name. That type has
been made of a definition which is bound under the name; so, if no other definition is bound under
it, of the definition inside the element. While the schema is built, a definition whose name means
nothing is bound to a type that is made of this very definition. -/
theorem anonymous_origin {r : Repository} (hv : r.registry.Vacant) {set : SchemaSet}
    (hset : set.Accepted) (limits : Limits) (request : Request) (log : Log) {reg : Registered}
    {diagnostics : List Diagnostic}
    (h : (compile r limits request set log).1 = .ok ⟨some reg, diagnostics⟩) :
    let store := (compile r limits request set log).2.1.store
    let v : View := ⟨r.store, store, diagnostics⟩
    ∃ source, mainSchema? set = some source ∧
      GlobalFields set source v reg.schema.fields ∧
      (∀ n t, reg.schema.types.get? n = some t → Origin set source v n t) ∧
      (∀ e, AnonymousIn set e → ∀ f, reg.schema.HasField store f → ∀ occurs t,
        ElementField set store occurs e f t →
        let n := Naming.anonymousType (set.element e).name
        ∃ t', reg.schema.types.get? n = some t' ∧
          (t = t' ∨ ∃ c l, t = .complex c ∧ t' = .list l ∧ (store.complex c).fields = [] ∧
            (store.complex c).super = none) ∧
          (∃ id, BoundUnder set source n id ∧ Made set v id t') ∧
          ((∀ id, BoundUnder set source n id → id = (set.element e).type) →
            Made set v (set.element e).type t')) ∧
      ∀ b, Reached ⟨set, r.registry⟩ (.start r.store request.name log) b →
        ∀ depth id fieldName n, Asked set source id fieldName →
        Fresh ⟨set, r.registry⟩ id fieldName b n →
        ∀ t, b.resultOf (loadWithin ⟨set, r.registry⟩ depth id fieldName) = .ok t →
          Made set (b.view (b.after (loadWithin ⟨set, r.registry⟩ depth id fieldName))) id t := by
  intro store v
  have hnew : r.registry.schema? request.name = none := by
    rw [Registry.schema?, hv.schemas]
    rfl
  have hfits := (Repository.Consistent.ofVacant hv).fits
  obtain ⟨source, log', hsource, hschema, hstore, hdiagnostics⟩ := bindSchema_of_compile hnew h
  obtain ⟨hadv, hsettled⟩ := @binds_bindSchema ⟨set, r.registry⟩ r.store request source log'
    hset.plainNames hfits
  obtain ⟨horigin, hfields⟩ := @origins_bindSchema ⟨set, r.registry⟩ hset.plainNames r.store hfits
    request source log'
  have hview : v = ⟨r.store, (bindSchema ⟨set, r.registry⟩ r.store request source log').2.store,
      (bindSchema ⟨set, r.registry⟩ r.store request source log').2.diagnostics⟩ :=
    congrArg₂ (View.mk r.store) hstore hdiagnostics
  rw [← hview, ← hschema] at horigin hfields
  refine ⟨source, hsource, hfields, horigin, ?_, ?_⟩
  · intro e he f hf occurs t hfield n
    obtain ⟨hreaches, hnamed⟩ := hfield.reaches hf
    obtain ⟨hp, hname⟩ := he.nameOf_eq hnamed
    have hmade : ∀ t', reg.schema.types.get? n = some t' →
        (∃ id, BoundUnder set source n id ∧ Made set v id t') ∧
          ((∀ id, BoundUnder set source n id → id = (set.element e).type) →
            Made set v (set.element e).type t') := by
      intro t' ht'
      obtain ⟨id, hbound, hmade⟩ := (horigin n t' ht').exists_made
      exact ⟨⟨id, hbound, hmade⟩, fun honly => honly id hbound ▸ hmade⟩
    -- The type is reached, and so it is under its name or has given way.
    have htypes := @types_bindSchema ⟨set, r.registry⟩ r.store request source log'
    rw [show store = _ from hstore] at hreaches hname ⊢
    rw [hschema] at hreaches hmade ⊢
    rcases cases_of_reaches hv hadv.sound htypes hsettled hreaches with
      ⟨p, rfl⟩ | ⟨l, rfl, hlist⟩ | hunder | ⟨c, l, rfl, hnone, hsuper, hunder⟩
    · exact absurd rfl (hp p)
    · obtain ⟨owner, hlist⟩ := hlist
      exact absurd ⟨owner, hname.symm.trans hlist⟩ (Naming.anonymousType_not_isList _)
    · rw [hname] at hunder
      exact ⟨t, hunder, .inl rfl, hmade t hunder⟩
    · rw [hname] at hunder
      exact ⟨.list l, hunder, .inr ⟨c, l, rfl, rfl, hnone, hsuper⟩, hmade _ hunder⟩
  · intro b hb depth id fieldName n hasked hfresh t ht
    have hsound := hb.sound hset.plainNames (sound_start hfits request.name log)
    exact (makesType_loadWithin hset.plainNames hsound depth hasked hfresh).2 t ht

/-! ## Two elements of one name -/

/-- A schema with two types, each with an element of the same name; the definitions inside these
elements allow different lengths. -/
def pairText : String :=
  "<schema xmlns=\"http://www.w3.org/2001/XMLSchema\" xmlns:t=\"t\" targetNamespace=\"t\">" ++
  "<complexType name=\"A\"><sequence><element name=\"x\"><simpleType><restriction " ++
  "base=\"string\"><maxLength value=\"3\"/></restriction></simpleType></element></sequence>" ++
  "</complexType><complexType name=\"B\"><sequence><element name=\"x\"><simpleType><restriction " ++
  "base=\"string\"><maxLength value=\"5\"/></restriction></simpleType></element></sequence>" ++
  "</complexType><element name=\"a\" type=\"t:A\"/><element name=\"b\" type=\"t:B\"/></schema>"

/-- The set of that schema. -/
def pairSet : SchemaSet := .ofText pairText

/-- The compilation of that schema. -/
def pairCompilation : Result Compilation × Repository × Log :=
  compile .empty .standard ⟨"s", "p", false⟩ pairSet #[]

/-- The schema that it registers. -/
def pairSchema : Registered :=
  match pairCompilation.1 with
  | .ok ⟨some reg, _⟩ => reg
  | _ => ⟨0, ⟨"", ⟨"", ""⟩, [], .empty⟩⟩

/-- The field of the element in the second type. -/
def pairField : Repository.Field := ⟨"x", .simple ⟨0⟩, none, .none, some 3⟩

section Pair

set_option maxRecDepth 100000

/-- The schema is accepted. Its second type has one element, whose definition allows other lengths
than the type of the field does. -/
theorem pair_facts :
    (SchemaSet.readText pairText).isOk = true ∧
    (match pairCompilation.1 with
      | .ok ⟨some _, []⟩ => true
      | _ => false) = true ∧
    (∀ t ∈ pairSet.types, t.namespaceUri = Xsd.schemaNamespace ∨ t.namespaceUri = "t") ∧
    (match pairSet.type ⟨47⟩ with
      | ⟨some "B", _, _, .complex definition⟩ =>
        match particlesOf definition with
        | [.element occurs e] => decide (occurs = .once ∧ e = ⟨3⟩)
        | _ => false
      | _ => false) = true ∧
    (match pairSet.type (pairSet.element ⟨3⟩).type with
      | ⟨none, _, _, .simple definition⟩ => decide (definition.variety = .atomic ∧
          constraints definition.facets ≠ .ok (pairCompilation.2.1.store.simple ⟨0⟩).constraints)
      | _ => false) = true ∧
    (pairSet.element ⟨3⟩).name = "x" ∧
    typeName pairSet (pairSet.type (pairSet.element ⟨3⟩).type) "x" = .ok "x#anonymousType" ∧
    pairSchema.schema.types.get? "B" = some (.complex ⟨1⟩) ∧
    pairField ∈ (pairCompilation.2.1.store.complex ⟨1⟩).fields ∧
    pairField = elementField pairCompilation.2.1.store (pairSet.element ⟨3⟩) (.simple ⟨0⟩) ∧
    pairCompilation.2.1.store.simples.size = 1 ∧
    pairCompilation.2.1.store.nameOf (.simple ⟨0⟩) = "x#anonymousType" := by
  decide +kernel

theorem accepted_pair : pairSet.Accepted := SchemaSet.accepted_ofText pair_facts.1

theorem compile_pair : pairCompilation.1 = .ok ⟨some pairSchema, []⟩ := by
  have h := pair_facts.2.1
  unfold pairSchema
  generalize pairCompilation.1 = result at h ⊢
  split at h
  · rfl
  · cases h

/-- The second type, with its one element. -/
theorem exists_pairDefinition : ∃ definition, (pairSet.type ⟨47⟩).name = some "B" ∧
    (pairSet.type ⟨47⟩).kind = .complex definition ∧
    particlesOf definition = [.element .once ⟨3⟩] := by
  have h := pair_facts.2.2.2.1
  generalize pairSet.type ⟨47⟩ = t at h ⊢
  split at h
  · next definition =>
    split at h
    · next hps =>
      obtain ⟨rfl, rfl⟩ := of_decide_eq_true h
      exact ⟨definition, rfl, rfl, hps⟩
    · cases h
  · cases h

/-- The definition inside that element. -/
theorem exists_pairRestriction : ∃ definition,
    (pairSet.type (pairSet.element ⟨3⟩).type).name = none ∧
    (pairSet.type (pairSet.element ⟨3⟩).type).kind = .simple definition ∧
    definition.variety = .atomic ∧
    constraints definition.facets ≠ .ok (pairCompilation.2.1.store.simple ⟨0⟩).constraints := by
  have h := pair_facts.2.2.2.2.1
  generalize pairSet.type (pairSet.element ⟨3⟩).type = t at h ⊢
  split at h
  · exact ⟨_, rfl, rfl, of_decide_eq_true h⟩
  · cases h

theorem anonymousIn_pair : AnonymousIn pairSet ⟨3⟩ := by
  obtain ⟨_, hname, hkind, -⟩ := exists_pairRestriction
  refine ⟨hname, fun definition hcomplex => ?_⟩
  rw [hkind] at hcomplex
  cases hcomplex

theorem elementField_pair :
    ElementField pairSet pairCompilation.2.1.store .once ⟨3⟩ pairField (.simple ⟨0⟩) := by
  obtain ⟨-, -, -, -, -, hx, hname, -, -, hfield, hsize, hnameOf⟩ := pair_facts
  rw [hfield]
  refine .single rfl (.type (hx ▸ hname) ?_ nofun hnameOf)
  show 0 < pairCompilation.2.1.store.simples.size
  rw [hsize]
  exact Nat.one_pos

/-- The type of the field has been made of a definition that is bound under its name. -/
theorem anonymous_origin_pair : ∃ source id, mainSchema? pairSet = some source ∧
    pairSchema.schema.types.get? "x#anonymousType" = some (.simple ⟨0⟩) ∧
    BoundUnder pairSet source "x#anonymousType" id ∧
    Made pairSet ⟨.empty, pairCompilation.2.1.store, []⟩ id (.simple ⟨0⟩) := by
  obtain ⟨-, -, -, -, -, hx, -, hB, hfield, -⟩ := pair_facts
  obtain ⟨source, hsource, -, -, hfields, -⟩ := anonymous_origin ⟨rfl, rfl⟩ accepted_pair .standard
    ⟨"s", "p", false⟩ #[] compile_pair
  obtain ⟨t, ht, hcase, ⟨id, hbound, hmade⟩, -⟩ := hfields ⟨3⟩ anonymousIn_pair pairField
    (.inner (.own hB) hfield) .once _ elementField_pair
  rw [hx] at ht hbound
  rcases hcase with rfl | ⟨c, l, hc, -⟩
  · exact ⟨source, id, hsource, ht, hbound, hmade⟩
  · cases hc

/-- The field of the only element of a type need not be of a type that has been made of the
anonymous definition inside the element, though all types are in one namespace. -/
theorem not_forall_anonymous :
    ¬ ∀ set, SchemaSet.Accepted set → ∀ namespaceUri,
      (∀ t ∈ set.types, t.namespaceUri = Xsd.schemaNamespace ∨ t.namespaceUri = namespaceUri) →
      ∀ r : Repository, r.registry.Vacant → ∀ limits request log reg diagnostics,
      (compile r limits request set log).1 = .ok ⟨some reg, diagnostics⟩ →
      ∀ id n definition e c, (set.type id).name = some n → (set.type id).kind = .complex definition →
      particlesOf definition = [.element .once e] → AnonymousIn set e →
      reg.schema.types.get? n = some (.complex c) →
      ∀ f ∈ ((compile r limits request set log).2.1.store.complex c).fields,
      f.name = (set.element e).name →
      Made set ⟨r.store, (compile r limits request set log).2.1.store, diagnostics⟩
        (set.element e).type f.type := by
  intro h
  obtain ⟨-, -, hns, -, -, hx, -, hB, hfield, -⟩ := pair_facts
  obtain ⟨definition, hname, hkind, hps⟩ := exists_pairDefinition
  have hmade := h pairSet accepted_pair "t" hns .empty ⟨rfl, rfl⟩ .standard ⟨"s", "p", false⟩ #[]
    pairSchema [] compile_pair ⟨47⟩ "B" definition ⟨3⟩ ⟨1⟩ hname hkind hps anonymousIn_pair hB
    pairField hfield hx.symm
  obtain ⟨restriction, -, hsimple, hvariety, hother⟩ := exists_pairRestriction
  generalize ht : pairField.type = t at hmade
  cases hmade with
  | restriction hkind _ _ hsame =>
    rw [hsimple] at hkind
    cases hkind
    cases ht
    exact hother hsame
  | union hkind hunion _ _ =>
    rw [hsimple] at hkind
    cases hkind
    rw [hvariety] at hunion
    cases hunion
  | list _ _ _ _ => cases ht
  | complex hkind _ _ =>
    rw [hsimple] at hkind
    cases hkind

end Pair

end Binding

end SchemaBinding
