import Mathlib.Data.List.Forall2
import SchemaBinding.Proofs.MapValues
import SchemaBinding.Proofs.Xsd.Additions
import SchemaBinding.Proofs.Xsd.RereadContent

/-!
# Other spellings

The same may be written in several ways. Two elements say the same, each in its document, if they
have the same tags and attributes, and what they refer to is the same component: prefixes and
default namespaces may differ. Two drafts in which the same has been declared differ in the spelling
of their groups, and in the sources of their schemas.

## Main definitions

* `Context.SameSettings`: documents of one namespace with the same defaults
* `Respelled`: elements that say the same
* `SchemaSet.Alike`: schema sets that differ in the sources of their schemas at most
* `Draft.Respelled`: drafts in which the same has been declared

## Main results

* `Respelled.symm`, `Respelled.find?`: elements that say the same
* `Respelled.facets`, `Respelled.localNamespace_eq`: values that are read alike
* `AddsAll.respelled`: elements that say the same are declared alike
-/

namespace SchemaBinding.Xsd

open Xml (Element QName)

/-! ## Documents -/

/-- Two documents are of one namespace, and have the same defaults for local declarations. -/
structure Context.SameSettings (context context' : Context) : Prop where
  targetNamespace : context'.targetNamespace = context.targetNamespace
  elementsQualified : context'.elementsQualified = context.elementsQualified
  attributesQualified : context'.attributesQualified = context.attributesQualified

namespace Context.SameSettings

variable {context context' : Context}

theorem refl (context : Context) : context.SameSettings context := ⟨rfl, rfl, rfl⟩

theorem symm (h : context.SameSettings context') : context'.SameSettings context :=
  ⟨h.1.symm, h.2.symm, h.3.symm⟩

theorem nameOf_eq (h : context.SameSettings context') (name : String) :
    context'.nameOf name = context.nameOf name := by
  unfold Context.nameOf
  rw [h.targetNamespace]

end Context.SameSettings

/-! ## Elements -/

/-- An element says in one document what another one says in another document: the same tags and
attributes, and references to the same components. -/
inductive Respelled (context context' : Context) : Element → Element → Prop
  | intro {e e' : Element} : e.SameTag e' →
      (∀ reference, context'.resolve e' reference = context.resolve e reference) →
      List.Forall₂ (Respelled context context') e.children e'.children →
      Respelled context context' e e'

namespace Respelled

variable {context context' : Context} {e e' : Element}

theorem sameTag (h : Respelled context context' e e') : e.SameTag e' := by
  cases h
  assumption

theorem resolve (h : Respelled context context' e e') (reference : String) :
    context'.resolve e' reference = context.resolve e reference := by
  cases h with
  | intro _ h => exact h reference

theorem children (h : Respelled context context' e e') :
    List.Forall₂ (Respelled context context') e.children e'.children := by
  cases h
  assumption

theorem localName (h : Respelled context context' e e') : e'.localName = e.localName :=
  h.sameTag.localName

theorem attribute? (h : Respelled context context' e e') (name : String) :
    e'.attribute? name = e.attribute? name :=
  h.sameTag.attribute? name

/-- An element says what it says. -/
theorem refl (context : Context) (e : Element) : Respelled context context e e :=
  .intro ⟨rfl, fun _ => rfl⟩ (fun _ => rfl) (List.forall₂_same.mpr fun c _ => refl context c)
termination_by sizeOf e
decreasing_by exact DraftM.sizeOf_lt_of_mem_children ‹_›

theorem symm {e e' : Element} (h : Respelled context context' e e') :
    Respelled context' context e' e :=
  have hchildren := (List.forall₂_and_left e.children e'.children).mpr ⟨fun _ hc => hc, h.children⟩
  .intro ⟨h.localName.symm, fun name => (h.attribute? name).symm⟩
    (fun reference => (h.resolve reference).symm)
    (hchildren.imp fun c c' hc => symm hc.2).flip
termination_by sizeOf e
decreasing_by exact DraftM.sizeOf_lt_of_mem_children hc.1

/-- The first child with one of some tags is the same. -/
theorem find? (h : Respelled context context' e e') (p : String → Bool) :
    Option.Rel (Respelled context context') (e.children.find? (p ·.localName))
      (e'.children.find? (p ·.localName)) := by
  have hchildren := h.children
  generalize e.children = cs at hchildren
  generalize e'.children = cs' at hchildren
  induction hchildren with
  | nil => exact .none
  | @cons c c' cs cs' hc _ ih =>
    rw [List.find?_cons, List.find?_cons, hc.localName]
    split
    · exact .some hc
    · exact ih

theorem facets (h : Respelled context context' e e') {facets : FacetSet}
    (hfacets : context.facets e = .ok facets) : context'.facets e' = .ok facets := by
  unfold Context.facets at hfacets ⊢
  have hchildren := h.children
  generalize e.children = cs at hchildren hfacets
  generalize e'.children = cs' at hchildren
  generalize FacetSet.empty = before at hfacets ⊢
  induction hchildren generalizing before with
  | nil => exact hfacets
  | cons hc _ ih =>
    rw [List.foldlM_cons] at hfacets ⊢
    obtain ⟨next, hnext, hfacets⟩ := bind_eq_ok_iff.mp hfacets
    exact bind_eq_ok_iff.mpr ⟨next, Context.addFacet_of_ok hc.sameTag hnext, ih next hfacets⟩

theorem localNamespace_eq (h : Respelled context context' e e')
    (hcontext : context.SameSettings context') (qualified : Bool) :
    context'.localNamespace e' qualified = context.localNamespace e qualified := by
  unfold Context.localNamespace
  rw [h.attribute?, hcontext.targetNamespace]

end Respelled

/-! ## Schema sets -/

/-- Two schemas are the same but for their sources, which `S` relates. -/
structure Schema.Alike (S : List String → List String → Prop) (s s' : Schema) : Prop where
  namespaceUri : s'.namespaceUri = s.namespaceUri
  elements : s'.elements = s.elements
  attributes : s'.attributes = s.attributes
  types : s'.types = s.types
  sources : S s.sources s'.sources

/-- Schemas that are alike in all respects are equal. -/
theorem Schema.Alike.eq {s s' : Schema} (h : s.Alike Eq s') : s' = s := by
  cases s
  cases s'
  rw [Schema.mk.injEq]
  exact ⟨h.namespaceUri, h.sources.symm, h.elements, h.attributes, h.types⟩

/-- Two schema sets are the same but for the sources of their schemas, which `S` relates. -/
structure SchemaSet.Alike (S : List String → List String → Prop) (set set' : SchemaSet) :
    Prop where
  types : set'.types = set.types
  elements : set'.elements = set.elements
  attributes : set'.attributes = set.attributes
  schemas : List.Forall₂ (Schema.Alike S) set.schemas set'.schemas

namespace SchemaSet.Alike

variable {S : List String → List String → Prop} {set set' : SchemaSet}

theorem refl (hS : ∀ sources, S sources sources) (set : SchemaSet) : set.Alike S set :=
  ⟨rfl, rfl, rfl, List.forall₂_same.mpr fun s _ => ⟨rfl, rfl, rfl, rfl, hS s.sources⟩⟩

/-- Sets with the same sources are equal. -/
theorem eq (h : set.Alike Eq set') : set' = set := by
  have hschemas : set.schemas = set'.schemas := by
    rw [← List.forall₂_eq_eq_eq]
    exact h.schemas.imp fun _ _ hs => hs.eq.symm
  cases set
  cases set'
  rw [SchemaSet.mk.injEq]
  exact ⟨hschemas.symm, h.types, h.elements, h.attributes⟩

theorem type_eq (h : set.Alike S set') : set'.type = set.type := by
  funext id
  unfold SchemaSet.type
  rw [h.types]

/-- What is found in the schema of a name. -/
theorem bind_schemaOf?_eq {α : Type} {view : Schema → Option α}
    (hview : ∀ s s' : Schema, s.Alike S s' → view s' = view s) (h : set.Alike S set')
    (name : QName) : (set'.schemaOf? name).bind view = (set.schemaOf? name).bind view := by
  have hmap := SchemaSet.bind_schemaOf?_eq_map (fun _ _ hs => hs.namespaceUri)
    (fun s s' hs => (hview s s' hs).trans Option.map_id'.symm) h.schemas name
  rwa [Option.map_id'] at hmap

theorem findType?_eq (h : set.Alike S set') : set'.findType? = set.findType? :=
  funext fun name => h.bind_schemaOf?_eq (fun _ _ hs => by rw [hs.types]) name

theorem findElement?_eq (h : set.Alike S set') : set'.findElement? = set.findElement? :=
  funext fun name => h.bind_schemaOf?_eq (fun _ _ hs => by rw [hs.elements]) name

theorem findAttribute?_eq (h : set.Alike S set') : set'.findAttribute? = set.findAttribute? :=
  funext fun name => h.bind_schemaOf?_eq (fun _ _ hs => by rw [hs.attributes]) name

theorem modifySchema (h : set.Alike S set') (hS : S [] []) (uri : String) {f f' : Schema → Schema}
    (hf : ∀ s s', s.Alike S s' → (f s).Alike S (f' s')) :
    (set.modifySchema uri f).Alike S (set'.modifySchema uri f') :=
  { h with
    schemas := SchemaSet.forall₂_modifySchemas (fun _ _ hs => hs.namespaceUri)
      ⟨rfl, rfl, rfl, rfl, hS⟩ hf h.schemas }

/-! ### The same changes -/

theorem addType (h : set.Alike S set') (t : TypeDefinition) :
    (set.addType t).2.Alike S (set'.addType t).2 :=
  { h with types := congrArg (Array.push · t) h.types }

theorem addElement (h : set.Alike S set') (e : ElementDeclaration) :
    (set.addElement e).2.Alike S (set'.addElement e).2 :=
  { h with elements := congrArg (Array.push · e) h.elements }

theorem addAttribute (h : set.Alike S set') (a : AttributeDeclaration) :
    (set.addAttribute a).2.Alike S (set'.addAttribute a).2 :=
  { h with attributes := congrArg (Array.push · a) h.attributes }

theorem modifyType (h : set.Alike S set') (id : TypeId) (f : TypeDefinition → TypeDefinition) :
    (set.modifyType id f).Alike S (set'.modifyType id f) :=
  { h with types := congrArg (Array.modify · id.index f) h.types }

theorem modifyElement (h : set.Alike S set') (id : ElementId)
    (f : ElementDeclaration → ElementDeclaration) :
    (set.modifyElement id f).Alike S (set'.modifyElement id f) :=
  { h with elements := congrArg (Array.modify · id.index f) h.elements }

theorem modifyAttribute (h : set.Alike S set') (id : AttributeId)
    (f : AttributeDeclaration → AttributeDeclaration) :
    (set.modifyAttribute id f).Alike S (set'.modifyAttribute id f) :=
  { h with attributes := congrArg (Array.modify · id.index f) h.attributes }

section Declare

variable {context context' : Context} (hcontext : context.SameSettings context') (hS : S [] [])
  (name : String)
include hcontext hS

theorem withElement (h : set.Alike S set') :
    (set.withElement context name).Alike S (set'.withElement context' name) := by
  unfold SchemaSet.withElement
  rw [hcontext.targetNamespace, h.elements]
  exact (h.addElement _).modifySchema hS _ fun s s' hs =>
    { hs with elements := congrArg (OrderedMap.insert · name _) hs.elements }

theorem withAttribute (h : set.Alike S set') :
    (set.withAttribute context name).Alike S (set'.withAttribute context' name) := by
  unfold SchemaSet.withAttribute
  rw [hcontext.targetNamespace, h.attributes]
  exact (h.addAttribute _).modifySchema hS _ fun s s' hs =>
    { hs with attributes := congrArg (OrderedMap.insert · name _) hs.attributes }

theorem withType (h : set.Alike S set') (kind : TypeKind) :
    (set.withType context name kind).Alike S (set'.withType context' name kind) := by
  unfold SchemaSet.withType
  rw [hcontext.targetNamespace, h.types]
  exact (h.addType _).modifySchema hS _ fun s s' hs =>
    { hs with types := congrArg (OrderedMap.insert · name _) hs.types }

end Declare

end SchemaSet.Alike

/-! ## Drafts -/

/-- Two definitions of groups say the same. -/
structure GroupDefinition.Respelled (definition definition' : GroupDefinition) : Prop where
  context : definition.context.SameSettings definition'.context
  element : Xsd.Respelled definition.context definition'.context definition.element
    definition'.element

/-- The same has been declared and read in two drafts. -/
structure Draft.Respelled (S : List String → List String → Prop) (d d' : Draft) : Prop where
  set : d.set.Alike S d'.set
  groups : d.groups.Related GroupDefinition.Respelled d'.groups
  attributeGroups : d.attributeGroups.Related GroupDefinition.Respelled d'.attributeGroups
  waiting : d'.waiting = d.waiting

/-- Two declared components with the same place say the same. -/
structure Global.Respelled (g g' : Global) : Prop where
  target : g'.target = g.target
  context : g.context.SameSettings g'.context
  element : Xsd.Respelled g.context g'.context g.element g'.element

/-- A child of a document says what a child of another document says. -/
structure SchemaDocument.Respelled (item item' : Context × Element) : Prop where
  context : item.1.SameSettings item'.1
  element : Xsd.Respelled item.1 item'.1 item.2 item'.2

section Adds

variable {S : List String → List String → Prop} (hS : S [] [])
include hS

/-- Children that say the same add the same. -/
theorem Draft.Adds.respelled {item item' : Context × Element} {g : Option Global}
    {d d₁ d' : Draft} (h : d.Adds item.1 item.2 g d₁) (hd : d.Respelled S d')
    (hitem : SchemaDocument.Respelled item item') :
    ∃ g' d₁', d'.Adds item'.1 item'.2 g' d₁' ∧ d₁.Respelled S d₁' ∧
      Option.Rel Global.Respelled g g' := by
  obtain ⟨context, e⟩ := item
  obtain ⟨context', e'⟩ := item'
  obtain ⟨hcontext, he⟩ := hitem
  dsimp only at hcontext he h ⊢
  have hnew {m m' : OrderedMap QName GroupDefinition} {name : QName}
      (hm : m.Related GroupDefinition.Respelled m') (hnone : m.get? name = none) :
      m'.get? name = none :=
    Rereading.eq_none_of_rel (hm.get? name) hnone
  have hnameOf := hcontext.nameOf_eq
  have hset := hd.set
  cases h with
  | element htag hname hfind =>
    rw [← hset.findElement?_eq, ← hnameOf] at hfind
    exact ⟨_, _, .element (he.localName.trans htag) (Context.requiredName_of_ok he.sameTag hname)
      hfind, { hd with set := hset.withElement hcontext hS _ },
      .some ⟨by rw [hset.elements], hcontext, he⟩⟩
  | attr htag hname hfind =>
    rw [← hset.findAttribute?_eq, ← hnameOf] at hfind
    exact ⟨_, _, .attr (he.localName.trans htag) (Context.requiredName_of_ok he.sameTag hname)
      hfind, { hd with set := hset.withAttribute hcontext hS _ },
      .some ⟨by rw [hset.attributes], hcontext, he⟩⟩
  | type hdefines hname hfind =>
    rw [← hset.findType?_eq, ← hnameOf] at hfind
    rw [← he.localName] at hdefines
    exact ⟨_, _, .type hdefines (Context.requiredName_of_ok he.sameTag hname) hfind,
      { hd with set := hset.withType hcontext hS _ _ },
      .some ⟨by rw [hset.types], hcontext, he⟩⟩
  | group htag hname hfind =>
    rw [← hnameOf] at hfind ⊢
    exact ⟨_, _, .group (he.localName.trans htag) (Context.requiredName_of_ok he.sameTag hname)
      (hnew hd.groups hfind), { hd with groups := hd.groups.insert _ ⟨hcontext, he⟩ }, .none⟩
  | attributeGroup htag hname hfind =>
    rw [← hnameOf] at hfind ⊢
    exact ⟨_, _, .attributeGroup (he.localName.trans htag)
      (Context.requiredName_of_ok he.sameTag hname) (hnew hd.attributeGroups hfind),
      { hd with attributeGroups := hd.attributeGroups.insert _ ⟨hcontext, he⟩ }, .none⟩
  | ignored htag => exact ⟨_, _, .ignored (he.localName.trans htag), { hd with }, .none⟩
  | nothing htag => exact ⟨_, _, .nothing (he.localName ▸ htag), { hd with }, .none⟩

/-- Children that say the same, one after the other, add the same. -/
theorem Draft.AddsAll.respelled {items items' : List (Context × Element)}
    {gs : List (Option Global)} {d d₁ d' : Draft} (h : AddsAll items d gs d₁)
    (hd : d.Respelled S d') (hitems : List.Forall₂ SchemaDocument.Respelled items items') :
    ∃ gs' d₁', AddsAll items' d' gs' d₁' ∧ d₁.Respelled S d₁' ∧
      List.Forall₂ (Option.Rel Global.Respelled) gs gs' := by
  induction h generalizing d' items' with
  | nil =>
    cases hitems
    exact ⟨[], d', .nil, hd, .nil⟩
  | cons hadds _ ih =>
    cases hitems with
    | cons hi hitems =>
      obtain ⟨g', d₁', hadds', hd₁, hg⟩ := Draft.Adds.respelled hS hadds hd hi
      obtain ⟨gs', d₂', hrest', hd₂, hgs⟩ := ih hd₁ hitems
      exact ⟨g' :: gs', d₂', .cons hadds' hrest', hd₂, .cons hg hgs⟩

end Adds

end SchemaBinding.Xsd
