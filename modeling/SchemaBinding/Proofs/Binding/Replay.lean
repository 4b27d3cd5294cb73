import SchemaBinding.Proofs.Binding.Rerun

/-!
# Types that are built again

Whatever a definition is made of, the second build makes the same of it as the first one, if it
binds the same types: by induction on the particles of content. So types are bound alike to any
depth, and a schema is bound alike with all of its global declarations.

## Main definitions

* `Rerun.Loads`: two loaders that bind the same types
* `Rerun.Finds`: two ways to look names up that find the same types

## Main results

* `Rerun.copies_addParticles`, `Rerun.follows_addContent`: content
* `Rerun.follows_buildComplex`, `Rerun.follows_loadStepBy`, `Rerun.loads_loadWithinBy`: types
* `Rerun.copies_globalFieldsBy`: global declarations
-/

namespace SchemaBinding.Binding

open Repository (ComplexId ComplexType Field ListType Registry Schema Scope Shift Store TypeRef)
open Xsd (AttributeUse ElementDeclaration Occurs Particle SchemaSet TypeId)

namespace Rerun

variable {v : Rerun} {b b' : Build} {target target' : ComplexId}

/-- Two loaders bind the same types, if names mean the same. -/
def Loads (v : Rerun) (load load' : Loader) : Prop :=
  ∀ id fieldName, v.Follows v.SameType (load id fieldName) (load' id fieldName)

/-- The same type is found under a name, or none. -/
def SameFound (v : Rerun) (found found' : Option TypeRef) : Prop :=
  found' = found.map (·.rename v.shift.ids)

/-- Two ways to look names up find the same types, if names mean the same. -/
def Finds (v : Rerun) (lookup lookup' : Lookup) : Prop :=
  ∀ n, v.Follows v.SameFound (lookup n) (lookup' n)

/-! ## Content -/

/-- What a type that the build has made has by names is the same. -/
theorem Mirrors.complex_eq (hb : v.Mirrors b b') (ht : v.SameTarget target target') :
    b'.store.complex target' = (b.store.complex target).rename v.shift.ids := by
  obtain ⟨hnew, rfl⟩ := ht
  exact hb.store.complex_eq hnew

theorem Mirrors.name_eq (hb : v.Mirrors b b') (ht : v.SameTarget target target') :
    (b'.store.complex target').name = (b.store.complex target).name :=
  (congrArg ComplexType.name (hb.complex_eq ht)).trans rfl

theorem Mirrors.super_eq (hb : v.Mirrors b b') (ht : v.SameTarget target target') :
    v.SameSuper (b.store.complex target).super (b'.store.complex target').super :=
  (congrArg ComplexType.super (hb.complex_eq ht)).trans rfl

/-- An element has the same field in both builds, for types of one identity allow the same lengths.
-/
theorem Mirrors.elementField (hb : v.Mirrors b b') (e : ElementDeclaration) {t t' : TypeRef}
    (ht : v.SameType t t') :
    v.SameField (elementField b.store e t) (elementField b'.store e t') := by
  subst ht
  simp only [SameField, Binding.elementField, hb.store.maxLengthOf_eq, Field.rename]

theorem sameField_attributeField (a : Xsd.AttributeDeclaration) {t t' : TypeRef}
    (ht : v.SameType t t') : v.SameField (attributeField a t) (attributeField a t') := by
  subst ht
  rfl

/-- A field is added in both builds, or left out of both. -/
theorem copies_addFieldOrSkip (ht : v.SameTarget target target') (name : String)
    {field field' : BuildM Field} (h : v.Follows v.SameField field field') :
    v.Copies Eq (addFieldOrSkip target name field) (addFieldOrSkip target' name field') := by
  unfold addFieldOrSkip
  refine copies_bind h fun r r' hr => ?_
  cases hr with
  | ok hf => exact copies_addField ht hf
  | error failure =>
    refine copies_modify (fun b => notes_subset_skip _ _ b) fun b b' hb => ?_
    rw [hb.name_eq ht]
    exact hb.skip _ _

variable {load load' : Loader} {set : SchemaSet} {registry registry' : Registry}

section Entries

variable (hload : v.Loads load load')
include hload

/-- The field of an element is of the same type, or of a list of it. -/
theorem follows_elementEntry (occurs : Occurs) (e : ElementDeclaration) :
    v.Follows v.SameField (elementEntry load occurs e) (elementEntry load' occurs e) := by
  unfold elementEntry
  refine follows_bind (hload _ _) fun t t' ht => ?_
  split
  · refine follows_bind follows_schemaName fun schema _ heq => ?_
    subst heq ht
    refine follows_bind (follows_addList rfl) fun l l' hl => ?_
    subst hl
    exact follows_pure rfl
  · exact follows_get fun b b' hb => follows_pure (hb.elementField e ht)

/-- A type becomes a list in both builds. -/
theorem follows_promote (ht : v.SameTarget target target') (occurs : Occurs)
    (e : ElementDeclaration) :
    v.Follows v.SameType (promote load target occurs e) (promote load' target' occurs e) := by
  unfold promote
  refine follows_bind (hload _ _) fun item item' hitem => ?_
  subst hitem
  refine follows_get fun b b' hb => ?_
  rw [hb.name_eq ht]
  refine follows_bind (follows_report _ _ _) fun _ _ _ => ?_
  refine follows_bind follows_schemaName fun schema _ heq => ?_
  subst heq
  refine follows_bind (follows_addList rfl) fun l l' hl => ?_
  subst hl
  refine follows_bind (follows_modify (fun _ => List.Subset.refl _) ?_) fun _ _ _ => ?_
  · exact fun b b' hb => hb.replace l
  · exact follows_pure rfl

omit hload in
/-- A repeated group becomes a list in both builds, if it is filled alike. -/
theorem follows_groupEntry (ht : v.SameTarget target target') (occurs : Occurs)
    {fill fill' : ComplexId → BuildM TypeRef}
    (hfill : ∀ item item', v.SameTarget item item' →
      v.Follows v.SameType (fill item) (fill' item')) :
    v.Follows v.SameField (groupEntry target occurs fill) (groupEntry target' occurs fill') := by
  unfold groupEntry
  refine follows_get fun b b' hb => ?_
  dsimp only
  rw [hb.name_eq ht]
  refine follows_bind follows_schemaName fun schema _ heq => ?_
  subst heq
  refine follows_bind follows_mark fun mark _ heq => ?_
  subst heq
  refine follows_bind (follows_openComplex _ (hb.super_eq ht)) fun item item' hitem => ?_
  refine follows_bind (follows_attempt (hfill _ _ hitem)) fun r r' hr => ?_
  cases hr with
  | error failure =>
    exact follows_bind (follows_rollback mark) fun _ _ _ => follows_throw failure
  | ok htype =>
    subst htype
    refine follows_bind (follows_addList rfl) fun l l' hl => ?_
    subst hl
    exact follows_pure rfl

/-- Content is made into fields in both builds, or into a list in both. -/
theorem follows_addContent {children : List Particle}
    (hps : ∀ target target', v.SameTarget target target' →
      v.Copies Eq (addParticles ⟨set, registry⟩ load target children)
        (addParticles ⟨set, registry'⟩ load' target' children))
    (ht : v.SameTarget target target') :
    v.Follows v.SameType (addContent ⟨set, registry⟩ load target children)
      (addContent ⟨set, registry'⟩ load' target' children) := by
  unfold addContent
  refine follows_get fun b b' hb => ?_
  rw [hb.super_eq ht]
  -- Whether there is a super type does not depend on which one it is.
  cases (b.store.complex target).super with
  | none =>
    cases soleRepeated? children with
    | none => exact follows_bind (follows_liftState (hps _ _ ht)) fun _ _ _ =>
        follows_pure (congrArg _ ht.2)
    | some sole => exact follows_promote hload ht _ _
  | some super =>
    exact follows_bind (follows_liftState (hps _ _ ht)) fun _ _ _ =>
      follows_pure (congrArg _ ht.2)

end Entries

mutual

/-- A particle is added alike in both builds, by recursion on the particle. -/
theorem copies_addParticle {target target' : ComplexId} (hload : v.Loads load load')
    (p : Particle) (ht : v.SameTarget target target') :
    v.Copies Eq (addParticle ⟨set, registry⟩ load target p)
      (addParticle ⟨set, registry'⟩ load' target' p) := by
  match p with
  | .element occurs id =>
    unfold addParticle
    exact copies_addFieldOrSkip ht _ (follows_elementEntry hload _ _)
  | .group occurs compositor children =>
    have hps := fun target target' (ht : v.SameTarget target target') =>
      copies_addParticles hload children ht
    unfold addParticle
    split
    · refine copies_get fun b b' hb => ?_
      dsimp only
      rw [hb.name_eq ht]
      refine copies_addFieldOrSkip ht _ (follows_groupEntry ht _ fun item item' hitem => ?_)
      exact follows_addContent hload hps hitem
    · exact hps _ _ ht
  | .wildcard occurs =>
    unfold addParticle
    exact copies_report

theorem copies_addParticles {target target' : ComplexId} (hload : v.Loads load load')
    (ps : List Particle) (ht : v.SameTarget target target') :
    v.Copies Eq (addParticles ⟨set, registry⟩ load target ps)
      (addParticles ⟨set, registry'⟩ load' target' ps) := by
  match ps with
  | [] =>
    unfold addParticles
    exact copies_pure rfl
  | p :: ps =>
    unfold addParticles
    exact copies_bind (copies_addParticle hload p ht) fun _ _ _ => copies_addParticles hload ps ht

end

variable (hload : v.Loads load load')
include hload

theorem follows_makeContent (definition : Xsd.ComplexType) (ht : v.SameTarget target target') :
    v.Follows v.SameType (makeContent ⟨set, registry⟩ load definition target)
      (makeContent ⟨set, registry'⟩ load' definition target') := by
  unfold makeContent
  split
  · exact follows_pure (congrArg _ ht.2)
  · exact follows_pure (congrArg _ ht.2)
  · exact follows_addContent hload (fun _ _ ht => copies_addParticles hload _ ht) ht
  · refine follows_get fun b b' hb => ?_
    rw [hb.name_eq ht]
    exact follows_throw _

/-! ## Attributes -/

/-- The same attributes are added, up to the first one that fails. -/
theorem follows_addAttributes (uses : List AttributeUse) (ht : v.SameTarget target target') :
    v.Follows Eq (addAttributes set load target uses) (addAttributes set load' target' uses) := by
  induction uses with
  | nil => exact follows_pure rfl
  | cons use uses ih =>
    unfold addAttributes
    refine follows_bind (follows_attempt (hload _ _)) fun r r' hr => ?_
    cases hr with
    | ok htype =>
      exact follows_bind
        (follows_liftState (copies_addField ht (sameField_attributeField _ htype))) fun _ _ _ => ih
    | error failure =>
      refine follows_get fun b b' hb => ?_
      rw [hb.name_eq ht]
      exact follows_throw _

theorem follows_makeAttributes (id : TypeId) (definition : Xsd.ComplexType)
    (ht : v.SameTarget target target') {t t' : TypeRef} (htype : v.SameType t t') :
    v.Follows Eq (makeAttributes ⟨set, registry⟩ load id definition target t)
      (makeAttributes ⟨set, registry'⟩ load' id definition target' t') := by
  subst htype
  unfold makeAttributes
  refine follows_get fun b b' hb => ?_
  dsimp only
  rw [TypeRef.isList_rename, hb.super_eq ht, Option.isSome_map]
  split
  · split
    · exact follows_report _ _ _
    · exact follows_pure rfl
  · exact follows_addAttributes hload _ ht

/-- A complex type is filled alike: its content first and then its attributes. -/
theorem follows_fillComplex (id : TypeId) (definition : Xsd.ComplexType)
    (ht : v.SameTarget target target') :
    v.Follows v.SameType (fillComplex ⟨set, registry⟩ load id definition target)
      (fillComplex ⟨set, registry'⟩ load' id definition target') := by
  unfold fillComplex
  refine follows_bind (follows_makeContent hload definition ht) fun t t' htype => ?_
  exact follows_bind (follows_makeAttributes hload id definition ht htype) fun _ _ _ =>
    follows_pure htype

/-! ## Types -/

omit hload in
/-- What is reported says nothing of what comes back. -/
theorem follows_report_pure {level : Log.Level} {text text' : String} {α β : Type}
    {R : α → β → Prop} {a : α} {b : β} (h : R a b) :
    v.Follows R (BuildM.report level text >>= fun _ => pure a)
      (BuildM.report level text' >>= fun _ => pure b) :=
  follows_bind (follows_report level text text') fun _ _ _ => follows_pure h

/-- The super type of a simple type is the same in both builds, if there is one. -/
theorem follows_simpleSuper (id : TypeId) (name : String) :
    v.Follows v.SameFound (simpleSuper set load id name) (simpleSuper set load' id name) := by
  unfold simpleSuper
  dsimp only
  split
  · exact follows_pure rfl
  · refine follows_bind (follows_attempt (hload _ _)) fun r r' hr => ?_
    cases hr with
    | @ok t _ htype =>
      subst htype
      have hsimple : isSimpleBase (t.rename v.shift.ids) = isSimpleBase t := by cases t <;> rfl
      dsimp only
      rw [hsimple]
      split
      · exact follows_pure rfl
      · exact follows_get fun _ _ _ => follows_report_pure rfl
    | error failure => exact follows_report_pure rfl

/-- The super type of a complex type is the same in both builds, if there is one. -/
theorem follows_complexSuper (id : TypeId) (name : String) :
    v.Follows v.SameSuper (complexSuper set load id name) (complexSuper set load' id name) := by
  unfold complexSuper
  dsimp only
  split
  · exact follows_pure rfl
  · refine follows_bind (follows_attempt (hload _ _)) fun r r' hr => ?_
    cases hr with
    | error failure => exact follows_report_pure rfl
    | @ok t _ htype =>
      subst htype
      cases t with
      | complex super => exact follows_pure rfl
      | primitive _ | simple _ | list _ =>
        exact follows_get fun _ _ _ => follows_report_pure rfl

theorem follows_buildSimple (id : TypeId) (name : String) (definition : Xsd.SimpleType) :
    v.Follows v.SameType (buildSimple set load id name definition)
      (buildSimple set load' id name definition) := by
  unfold buildSimple
  refine follows_bind (follows_simpleSuper hload id name) fun super super' hsuper => ?_
  subst hsuper
  have hmade : ∀ restrictions, v.Follows v.SameType
      (BuildM.schemaName >>= fun schema => BuildM.addSimple ⟨name, schema, super, restrictions⟩)
      (BuildM.schemaName >>= fun schema => BuildM.addSimple
        ⟨name, schema, super.map (·.rename v.shift.ids), restrictions⟩) := by
    intro restrictions
    refine follows_bind follows_schemaName fun schema _ heq => ?_
    subst heq
    exact follows_addSimple rfl
  dsimp only
  split
  · refine follows_bind (follows_liftExcept _) fun restrictions _ heq => ?_
    subst heq
    exact hmade restrictions
  · exact hmade []

/-- Complex types are built alike, and taken back alike if they cannot be filled. -/
theorem follows_buildComplex (id : TypeId) (name : String) (definition : Xsd.ComplexType) :
    v.Follows v.SameType (buildComplex ⟨set, registry⟩ load id name definition)
      (buildComplex ⟨set, registry'⟩ load' id name definition) := by
  unfold buildComplex
  refine follows_bind (follows_complexSuper hload id name) fun super super' hsuper => ?_
  refine follows_bind follows_mark fun mark _ heq => ?_
  subst heq
  refine follows_bind (follows_openComplex name hsuper) fun target target' ht => ?_
  refine follows_bind (follows_attempt (follows_fillComplex hload id definition ht))
    fun r r' hr => ?_
  cases hr with
  | ok htype => exact follows_pure htype
  | error failure =>
    refine follows_bind (follows_rollback mark) fun dropped _ heq => ?_
    subst heq
    exact follows_bind (follows_report _ _ _) fun _ _ _ => follows_throw failure

omit hload in
/-- Primitives have no other identities. -/
theorem follows_primitiveFor (name : String) :
    v.Follows v.SameType (liftM (primitiveFor name)) (liftM (primitiveFor name)) := by
  unfold primitiveFor
  split
  · exact follows_pure rfl
  · exact follows_throw _

section Lookup

variable {lookup lookup' : Lookup} (hlookup : v.Finds lookup lookup')
include hlookup

omit hload in
theorem follows_buildListBy (definition : Xsd.TypeDefinition) (itemId : TypeId) :
    v.Follows v.SameType (buildListBy ⟨set, registry⟩ lookup definition itemId)
      (buildListBy ⟨set, registry'⟩ lookup' definition itemId) := by
  unfold buildListBy
  cases definition.name with
  | none => exact follows_throw _
  | some name =>
    have hmade : ∀ type type', v.SameType type type' → v.Follows v.SameType
        (BuildM.schemaName >>= fun schema => BuildM.addList (.ofItem name schema type))
        (BuildM.schemaName >>= fun schema => BuildM.addList (.ofItem name schema type')) := by
      intro type type' htype
      subst htype
      refine follows_bind follows_schemaName fun schema _ heq => ?_
      subst heq
      exact follows_addList rfl
    dsimp only
    split
    · refine follows_bind (R := v.SameFound) (follows_pure ?_) ?_
      · cases Repository.Primitive.ofBuiltin? (set.type itemId).displayName <;> rfl
      · rintro (_ | type) _ rfl
        · exact follows_throw _
        · exact hmade type _ rfl
    · refine follows_bind (hlookup _) ?_
      rintro (_ | type) _ rfl
      · exact follows_throw _
      · exact hmade type _ rfl

/-- Types of all kinds are built alike. -/
theorem follows_buildTypeBy (id : TypeId) (name : String) :
    v.Follows v.SameType (buildTypeBy ⟨set, registry⟩ lookup load id name)
      (buildTypeBy ⟨set, registry'⟩ lookup' load' id name) := by
  unfold buildTypeBy
  dsimp only
  split
  · exact follows_buildComplex hload _ _ _
  · split
    · exact follows_buildListBy hlookup _ _
    · exact follows_buildSimple hload _ _ _
    · exact follows_buildSimple hload _ _ _

/-- A type that is bound already is found in both builds, and one that is not is built in both. -/
theorem follows_loadStepBy (id : TypeId) (fieldName : String) :
    v.Follows v.SameType (loadStepBy ⟨set, registry⟩ lookup load id fieldName)
      (loadStepBy ⟨set, registry'⟩ lookup' load' id fieldName) := by
  unfold loadStepBy
  refine follows_bind (follows_liftExcept _) fun name _ heq => ?_
  subst heq
  refine follows_bind (hlookup name) fun found found' hfound => ?_
  subst hfound
  cases found with
  | some t => exact follows_pure rfl
  | none =>
    dsimp only [Option.map_none]
    split
    · exact follows_primitiveFor name
    · refine follows_bind (follows_buildTypeBy hload hlookup id name) fun t t' ht => ?_
      exact follows_bind (follows_register ht) fun _ _ _ => follows_pure ht

omit hload in
/-- Types are bound alike to any depth. -/
theorem loads_loadWithinBy (depth : Nat) :
    v.Loads (loadWithinBy ⟨set, registry⟩ lookup depth)
      (loadWithinBy ⟨set, registry'⟩ lookup' depth) := by
  induction depth with
  | zero => exact fun _ _ => follows_throw _
  | succ depth ih => exact fun id fieldName => follows_loadStepBy ih hlookup id fieldName

end Lookup

/-! ## Global declarations -/

omit hload in
/-- A global declaration has the same field in both builds, or is left out of both. -/
theorem copies_globalField? (declared : String) {field field' : BuildM Field}
    (h : v.Follows v.SameField field field') :
    v.Copies (fun f f' => f' = f.map (·.rename v.shift.ids)) (globalField? declared field)
      (globalField? declared field') := by
  unfold globalField?
  refine copies_bind h fun r r' hr => ?_
  cases hr with
  | ok hf =>
    subst hf
    exact copies_pure rfl
  | error failure =>
    refine copies_bind (copies_modify (notes_subset_skip _ _) ?_) fun _ _ _ => copies_pure rfl
    exact fun b b' hb => hb.skip _ _

/-- The fields of a schema are the same, with their types by the other identities. -/
theorem copies_globalFieldsBy (source : Xsd.Schema) :
    v.Copies (fun fs fs' => fs' = fs.map (·.rename v.shift.ids))
      (globalFieldsBy set load source) (globalFieldsBy set load' source) := by
  have helements := copies_mapM (fun e : String × Xsd.ElementId =>
    copies_globalField? e.1 (follows_bind (hload (set.element e.2).type (set.element e.2).name)
      fun t t' ht => follows_get fun b b' hb =>
        follows_pure (hb.elementField (set.element e.2) ht))) source.elements.entries
  have hattributes := copies_mapM (fun a : String × Xsd.AttributeId =>
    copies_globalField? a.1 (follows_bind (hload (set.attr a.2).type (set.attr a.2).name)
      fun t t' ht => follows_pure (sameField_attributeField (set.attr a.2) ht)))
    source.attributes.entries
  unfold globalFieldsBy
  refine copies_bind helements fun elements elements' he => ?_
  refine copies_bind hattributes fun attributes attributes' ha => copies_pure ?_
  subst he ha
  rw [List.map_append, List.reduceOption_map, List.reduceOption_map]

end Rerun

/-! ## Schemas -/

section Schema

variable {set : SchemaSet} {registry registry' : Registry} {store store' : Store}
  (hf : Fits registry store) (hf' : Fits registry' store') (hg : store.Grows none store')
include hf hf'

/-- A name that means the same type of another schema when the build begins means the same at any
time. -/
theorem finds_noting {schemaName : String} {Names : String → Prop}
    (hnames : ∀ n, Names n →
      registry'.visible? store' schemaName n = registry.visible? store schemaName n) :
    (⟨⟨store, store', hg⟩, schemaName, Names⟩ : Rerun).Finds (noting ⟨set, registry⟩)
      (BuildM.lookup? ⟨set, registry'⟩) := by
  intro n b b' hb
  have hnotes : (b.report .trace n).log.notes = b.log.notes ++ [n] := Log.notes_add _ _ _
  have hafter : b.afterStep (noting ⟨set, registry⟩ n).run = b.report .trace n := rfl
  have hM : Rerun.Mirrors _ (b.report .trace n) b' :=
    ⟨hb.store, hb.schemaName_eq, hb.scope_eq, hb.diagnostics_eq⟩
  rw [hafter, hnotes]
  refine ⟨List.subset_append_left _ _, ⟨.ok _, b', .ok rfl, hM⟩, fun h => ⟨.ok ?_, hM⟩⟩
  have hn : Names n := h n (hnotes ▸ by simp)
  have hvisible : b'.scope.lookupGlobal? b'.store registry' n =
      (b.scope.lookupGlobal? b.store registry n).map
        (·.rename (⟨store, store', hg⟩ : Shift).ids) := by
    unfold Scope.lookupGlobal?
    rw [hb.scope_eq, Scope.rename, hb.schemaName_eq, hb.store.grows'.visible?_eq (hf'.has n),
      hb.store.grows.visible?_eq (hf.has n), hnames n hn]
    cases hv : registry.visible? store schemaName n with
    | none => rfl
    | some t =>
      have hhas := hf.has n t (Registry.visible?_eq_some_iff.mp hv).1
      exact congrArg some (Shift.rename_of_has _ hhas).symm
  show b'.scope.lookup? b'.store registry' n = _
  rw [Scope.lookup?, hvisible, hb.lookupLocal?_eq, ← Option.map_or]
  rfl

/-- A schema is built as the build that takes notes makes it. -/
theorem bindSchema_of_noted (request : Request) (source : Xsd.Schema) (log : Log)
    (hnames : ∀ n ∈ askedIn ⟨set, registry⟩ store request source,
      registry'.visible? store' request.name n = registry.visible? store request.name n) :
    let noted := notedFields ⟨set, registry⟩ store request.name source
    let bound := bindSchema ⟨set, registry'⟩ store' request source log
    let s : Shift := ⟨store, store', hg⟩
    bound.1 = Schema.rename s.ids ⟨request.name, ⟨source.namespaceUri, request.nsPrefix⟩,
        noted.1, noted.2.scope.locals⟩ ∧
      s.Mirrors noted.2.store bound.2.store ∧ bound.2.diagnostics = noted.2.diagnostics := by
  intro noted bound s
  let v : Rerun := ⟨s, request.name, fun n => n ∈ askedIn ⟨set, registry⟩ store request source⟩
  have hstart : v.Mirrors (.start store request.name #[]) (.start store' request.name log) :=
    ⟨.start, rfl, rfl, rfl⟩
  have hload : v.Loads (loadWithinBy ⟨set, registry⟩ (noting ⟨set, registry⟩) (depthOf set))
      (load ⟨set, registry'⟩) := by
    unfold load
    rw [← loadWithinBy_lookup?]
    exact Rerun.loads_loadWithinBy (finds_noting hf hf' hg hnames) _
  obtain ⟨-, -, hcopy⟩ := Rerun.copies_globalFieldsBy hload source _ _ hstart
  -- The names that mean the same are just those that have been noted.
  obtain ⟨hfields, hend⟩ := hcopy fun n hn => hn
  refine ⟨?_, hend.store, hend.diagnostics_eq⟩
  exact congr_arg₂ (Schema.mk request.name ⟨source.namespaceUri, request.nsPrefix⟩) hfields
    (congrArg Scope.locals hend.scope_eq)

omit hf' in
/-- **A schema is built alike in a grown repository**, if no name that is looked up has come to mean
another type: it has the same fields and types, under other identities, and the same declarations
are left out. -/
theorem bindSchema_eq (hf' : Fits registry' store') (request : Request) (source : Xsd.Schema)
    (log log' : Log)
    (hnames : ∀ n ∈ askedIn ⟨set, registry⟩ store request source,
      registry'.visible? store' request.name n = registry.visible? store request.name n) :
    let first := bindSchema ⟨set, registry⟩ store request source log
    let second := bindSchema ⟨set, registry'⟩ store' request source log'
    let s : Shift := ⟨store, store', hg⟩
    second.1 = first.1.rename s.ids ∧ s.Mirrors first.2.store second.2.store ∧
      second.2.diagnostics = first.2.diagnostics := by
  obtain ⟨hschema, hstore, hdiagnostics⟩ :=
    bindSchema_of_noted hf hf (.refl _ _) request source log fun _ _ => rfl
  obtain ⟨hschema', hstore', hdiagnostics'⟩ :=
    bindSchema_of_noted hf hf' hg request source log' hnames
  -- In the repository as it was, taking notes makes no difference.
  rw [show (⟨store, store, .refl _ _⟩ : Shift) = .refl store from rfl, Shift.ids_refl,
    Schema.rename_id] at hschema
  refine ⟨hschema'.trans (congrArg _ hschema.symm), ?_, hdiagnostics'.trans hdiagnostics.symm⟩
  rw [hstore.eq_of_refl]
  exact hstore'

end Schema

end SchemaBinding.Binding
