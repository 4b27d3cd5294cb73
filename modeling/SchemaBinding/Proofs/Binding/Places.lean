import SchemaBinding.Binding.Compilation
import SchemaBinding.Proofs.Xsd.RenumberedCompletion

/-!
# Binding does not depend on places

A schema is bound in the same way whatever the places of the components are: identifiers are only
used to find components, and to tell whether a type is its own base. So sets with the same
components at different places are compiled alike, with the same log.

## Main definitions

* `Renumbers`: two loaders that bind the same types at different places
* `Setting.Renumbered`: settings of the same registry and sets with the same components

## Main results

* `addParticles_renumber`, `addContent_renumber`: the content of complex types
* `buildType_renumber`, `load_renumber`: types
* `compile_renumbered`: whole sets
-/

namespace SchemaBinding.Binding

open Repository (ComplexId)
open Xsd (AttributeUse Particle Renumbering SchemaSet TypeDefinition TypeId)

/-- Two loaders bind the same types, the second one by their other places. -/
def Renumbers (ρ : Renumbering) (load load' : Loader) : Prop :=
  ∀ id name, load' (id.renumber ρ) name = load id name

/-- The same schemas are registered, and the sets have the same components at different places. -/
structure Setting.Renumbered (ρ : Renumbering) (setting setting' : Setting) : Prop where
  registry : setting'.registry = setting.registry
  set : setting.set.Renumbered ρ setting'.set

variable {ρ : Renumbering} {setting setting' : Setting} {load load' : Loader}

/-- Names are looked up in the registry and the scope, which know nothing of places. -/
theorem lookup?_renumber (h : setting.Renumbered ρ setting') :
    BuildM.lookup? setting' = BuildM.lookup? setting := by
  funext name
  unfold BuildM.lookup?
  rw [h.registry]

/-! ## Content -/

/-- Content of one repeated element is such content at other places. -/
theorem soleRepeated?_renumber (ps : List Particle) :
    soleRepeated? (ps.map (Particle.renumber ρ)) =
      (soleRepeated? ps).map fun sole => (sole.1, sole.2.renumber ρ) := by
  match ps with
  | [] => rfl
  | [.element occurs id] =>
    simp only [List.map_cons, List.map_nil, Particle.renumber, soleRepeated?]
    split <;> rfl
  | [.group occurs compositor children] =>
    simp only [List.map_cons, List.map_nil, Particle.renumber, soleRepeated?]
    rfl
  | [.wildcard occurs] => rfl
  | p :: q :: ps => cases p <;> simp [Particle.renumber, soleRepeated?]

section Content

variable (hload : Renumbers ρ load load')
include hload

/-- The field of an element is made of what the element says, wherever it stands. -/
theorem elementEntry_renumber (occurs : Xsd.Occurs) (e : Xsd.ElementDeclaration) :
    elementEntry load' occurs (e.renumber ρ) = elementEntry load occurs e := by
  unfold elementEntry
  rw [Xsd.ElementDeclaration.renumber, hload]
  rfl

theorem promote_renumber (target : ComplexId) (occurs : Xsd.Occurs) (e : Xsd.ElementDeclaration) :
    promote load' target occurs (e.renumber ρ) = promote load target occurs e := by
  unfold promote
  rw [Xsd.ElementDeclaration.renumber, hload]

omit hload

mutual

/-- A particle is added alike from its other place, by recursion on the particle. -/
theorem addParticle_renumber (h : setting.Renumbered ρ setting') (hload : Renumbers ρ load load')
    (target : ComplexId) (p : Particle) :
    addParticle setting' load' target (p.renumber ρ) = addParticle setting load target p := by
  cases p with
  | element occurs id =>
    rw [Particle.renumber]
    unfold addParticle
    rw [h.set.element_renumber]
    dsimp only
    rw [elementEntry_renumber hload]
    rfl
  | group occurs compositor children =>
    rw [Particle.renumber, Particle.renumberAll_eq_map]
    have hcontent (item : ComplexId) := addContent_renumber h hload item children
    unfold addParticle
    simp only [hcontent, addParticles_renumber h hload target children]
  | wildcard occurs =>
    rw [Particle.renumber]
    unfold addParticle
    rfl
termination_by 2 * sizeOf p

theorem addParticles_renumber (h : setting.Renumbered ρ setting') (hload : Renumbers ρ load load')
    (target : ComplexId) (ps : List Particle) :
    addParticles setting' load' target (ps.map (Particle.renumber ρ)) =
      addParticles setting load target ps := by
  cases ps with
  | nil =>
    unfold addParticles
    rfl
  | cons p ps =>
    rw [List.map_cons]
    unfold addParticles
    rw [addParticle_renumber h hload target p, addParticles_renumber h hload target ps]
termination_by 2 * sizeOf ps

theorem addContent_renumber (h : setting.Renumbered ρ setting') (hload : Renumbers ρ load load')
    (target : ComplexId) (children : List Particle) :
    addContent setting' load' target (children.map (Particle.renumber ρ)) =
      addContent setting load target children := by
  unfold addContent
  rw [soleRepeated?_renumber, addParticles_renumber h hload target children]
  refine bind_congr fun b => ?_
  cases (b.store.complex target).super with
  | some super => rfl
  | none =>
    cases soleRepeated? children with
    | none => rfl
    | some sole =>
      dsimp only [Option.map_some]
      rw [h.set.element_renumber, promote_renumber hload]
termination_by 2 * sizeOf children + 1

end

end Content

/-! ## Types -/

/-- A type goes by the same name at its other place. -/
theorem typeName_renumber (h : setting.Renumbered ρ setting') (t : TypeDefinition)
    (fieldName : String) :
    typeName setting'.set (t.renumber ρ) fieldName = typeName setting.set t fieldName := by
  obtain ⟨name, namespaceUri, base, kind⟩ := t
  cases name with
  | some name => rfl
  | none =>
    cases kind with
    | simple definition => rfl
    | complex definition =>
      obtain ⟨scope, derivation, explicitContent, content, uses, mixed⟩ := definition
      cases scope with
      | none => rfl
      | some e =>
        show Except.ok (Naming.anonymousType (setting'.set.element (e.renumber ρ)).name) = _
        rw [h.set.element_renumber]
        rfl

section Types

variable (h : setting.Renumbered ρ setting') (hload : Renumbers ρ load load')
include h hload

theorem simpleSuper_renumber (id : TypeId) (name : String) :
    simpleSuper setting'.set load' (id.renumber ρ) name = simpleSuper setting.set load id name := by
  unfold simpleSuper
  simp only [h.set.baseOf_renumber, Xsd.TypeId.renumber_inj, hload _ _]

theorem buildSimple_renumber (id : TypeId) (name : String) (definition : Xsd.SimpleType) :
    buildSimple setting'.set load' (id.renumber ρ) name
      { definition with variety := definition.variety.renumber ρ } =
        buildSimple setting.set load id name definition := by
  unfold buildSimple
  rw [simpleSuper_renumber h hload]
  obtain ⟨variety, facets⟩ := definition
  cases variety <;> rfl

omit hload in
theorem buildList_renumber (t : TypeDefinition) (item : TypeId) :
    buildList setting' (t.renumber ρ) (item.renumber ρ) = buildList setting t item := by
  unfold buildList
  rw [h.set.type_renumber, lookup?_renumber h]
  rfl

theorem complexSuper_renumber (id : TypeId) (name : String) :
    complexSuper setting'.set load' (id.renumber ρ) name =
      complexSuper setting.set load id name := by
  unfold complexSuper
  simp only [h.set.baseOf_renumber, Xsd.TypeId.renumber_inj, hload _ _]

/-- The same attributes are added in the same order. -/
theorem addAttributes_renumber (target : ComplexId) (uses : List AttributeUse) :
    addAttributes setting'.set load' target (uses.map (AttributeUse.renumber ρ)) =
      addAttributes setting.set load target uses := by
  induction uses with
  | nil => rfl
  | cons use uses ih =>
    have hattr : setting'.set.attr (use.renumber ρ).declaration =
        (setting.set.attr use.declaration).renumber ρ := h.set.attr_renumber use.declaration
    rw [List.map_cons]
    unfold addAttributes
    rw [ih, hattr]
    dsimp only [Xsd.AttributeDeclaration.renumber]
    rw [hload]
    rfl

omit hload in
/-- The attributes of a type that are added are the same, whether they are inherited or its own. -/
theorem attributesToAdd_renumber (id : TypeId) (hasSuper : Bool) :
    attributesToAdd setting'.set (id.renumber ρ) hasSuper =
      (attributesToAdd setting.set id hasSuper).map (AttributeUse.renumber ρ) := by
  unfold attributesToAdd
  split
  · exact h.set.ownUses_renumber id
  · exact h.set.attributeUses_renumber id

theorem makeContent_renumber (definition : Xsd.ComplexType) (target : ComplexId) :
    makeContent setting' load' (definition.renumber ρ) target =
      makeContent setting load definition target := by
  have hcontent : (definition.renumber ρ).explicitContent.getD (definition.renumber ρ).content =
      (definition.explicitContent.getD definition.content).renumber ρ := by
    obtain ⟨scope, derivation, explicitContent, content, uses, mixed⟩ := definition
    cases explicitContent <;> rfl
  unfold makeContent
  rw [hcontent]
  cases definition.explicitContent.getD definition.content with
  | empty => rfl
  | simple type => rfl
  | particle p =>
    cases p with
    | group occurs compositor children =>
      show addContent setting' load' target (Particle.renumberAll ρ children) = _
      rw [Particle.renumberAll_eq_map]
      exact addContent_renumber h hload target children
    | element occurs id => rfl
    | wildcard occurs => rfl

theorem makeAttributes_renumber (id : TypeId) (definition : Xsd.ComplexType) (target : ComplexId)
    (type : Repository.TypeRef) :
    makeAttributes setting' load' (id.renumber ρ) (definition.renumber ρ) target type =
      makeAttributes setting load id definition target type := by
  unfold makeAttributes
  simp only [attributesToAdd_renumber h, addAttributes_renumber h hload]
  simp only [Xsd.ComplexType.renumber, ne_eq, List.map_eq_nil_iff, List.length_map]

/-- A complex type is built alike from its other place. -/
theorem buildComplex_renumber (id : TypeId) (name : String) (definition : Xsd.ComplexType) :
    buildComplex setting' load' (id.renumber ρ) name (definition.renumber ρ) =
      buildComplex setting load id name definition := by
  unfold buildComplex fillComplex
  simp only [complexSuper_renumber h hload, makeContent_renumber h hload,
    makeAttributes_renumber h hload]

/-- Types of all kinds are built alike from their other places. -/
theorem buildType_renumber (id : TypeId) (name : String) :
    buildType setting' load' (id.renumber ρ) name = buildType setting load id name := by
  unfold buildType
  rw [h.set.type_renumber]
  generalize setting.set.type id = t
  obtain ⟨typeName, namespaceUri, base, kind⟩ := t
  cases kind with
  | complex definition => exact buildComplex_renumber h hload id name definition
  | simple definition =>
    have hsimple := buildSimple_renumber h hload id name definition
    obtain ⟨variety, facets⟩ := definition
    cases variety with
    | list item => exact buildList_renumber h ⟨typeName, namespaceUri, base, _⟩ item
    | atomic => exact hsimple
    | union members => exact hsimple

theorem loadStep_renumber : Renumbers ρ (loadStep setting load) (loadStep setting' load') := by
  intro id fieldName
  unfold loadStep
  simp only [h.set.type_renumber, typeName_renumber h, lookup?_renumber h,
    buildType_renumber h hload]
  rfl

omit hload

/-- Types are bound alike from their other places, to any depth. -/
theorem loadWithin_renumber (depth : Nat) :
    Renumbers ρ (loadWithin setting depth) (loadWithin setting' depth) := by
  induction depth with
  | zero => exact fun _ _ => rfl
  | succ depth ih => exact loadStep_renumber h ih

/-- The depth that suffices is the same, for both sets have as many types. -/
theorem load_renumber : Renumbers ρ (Binding.load setting) (Binding.load setting') := by
  have hdepth : depthOf setting'.set = depthOf setting.set := by
    unfold depthOf
    rw [h.set.types_size]
  unfold Binding.load
  rw [hdepth]
  exact loadWithin_renumber h _

/-! ## Sets -/

/-- Global elements and attributes come in the same order in both schemas. -/
theorem globalFields_renumber {source source' : Xsd.Schema}
    (hsource : source.Renumbered ρ source') :
    globalFields setting' source' = globalFields setting source := by
  have hload := load_renumber h
  unfold globalFields
  rw [hsource.elements, hsource.attributes]
  simp only [OrderedMap.mapValues, List.mapM_map, Function.comp_def, h.set.element_renumber,
    h.set.attr_renumber]
  simp only [Xsd.ElementDeclaration.renumber, Xsd.AttributeDeclaration.renumber, hload _ _]
  rfl

end Types

/-- The schema that is compiled is the same in both sets. -/
theorem rel_mainSchema? {set set' : SchemaSet} (h : set.Renumbered ρ set') :
    Option.Rel (Xsd.Schema.Renumbered ρ) (mainSchema? set) (mainSchema? set') := by
  have hschemas := h.schemas
  unfold mainSchema?
  generalize set.schemas = ss at hschemas
  generalize set'.schemas = ss' at hschemas
  induction hschemas with
  | nil => exact .none
  | @cons s s' ss ss' hs _ ih =>
    rw [List.find?_cons, List.find?_cons]
    unfold Xsd.Schema.isMeta at ih ⊢
    rw [hs.namespaceUri]
    split
    · exact .some hs
    · exact ih

/-- Sets with the same components at different places are compiled alike. -/
theorem compile_renumbered {set set' : SchemaSet} (h : set.Renumbered ρ set')
    (repository : Repository) (limits : Limits) (request : Request) (log : Log) :
    compile repository limits request set' log = compile repository limits request set log := by
  have hbuild {source source' : Xsd.Schema} (hsource : source.Renumbered ρ source') (log : Log) :
      build repository request set' source' log = build repository request set source log := by
    have hsetting : Setting.Renumbered ρ ⟨set, repository.registry⟩ ⟨set', repository.registry⟩ :=
      ⟨rfl, h⟩
    unfold build bindSchema
    dsimp only
    rw [hsource.namespaceUri, globalFields_renumber hsetting hsource]
  have hmain := rel_mainSchema? h
  unfold compile
  rw [h.componentCount_eq]
  generalize mainSchema? set = main at hmain
  generalize mainSchema? set' = main' at hmain
  cases hmain with
  | none => rfl
  | some hsource => simp only [hbuild hsource]

end SchemaBinding.Binding
