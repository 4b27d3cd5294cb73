import Mathlib.Data.List.Forall2
import SchemaBinding.Proofs.Binding.Mentions
import SchemaBinding.Proofs.Binding.Soundness

/-!
# What types are made of

From which definition a type has been made, and from which declaration each of its fields. A type is
only said to be made of what has been bound under its name; which definition that was is not seen
from the name. What is said of a type stays true while further types are built.

## Main definitions

* `Asked`: the definitions that are bound while a schema is built, under the names of fields
* `Named`: what a definition is bound to
* `ElementField`, `AttributeField`, `ParticleFields`: the fields of declarations and of particles
* `Made`, `Origin`: a type that has been made of a definition, and what is under a name
* `View`, `View.Later`: what is looked at, and a later moment of it

## Main results

* `ParticleFields.later`, `Made.later`, `Origin.later`: what is made later makes no difference
-/

namespace SchemaBinding.Binding

open Repository (ComplexId ComplexType Field ListId ListType Primitive SimpleId Store TypeRef)
open Xsd (AttributeId AttributeUse Compositor ElementId Occurs Particle SchemaSet TypeId)

/-! ## Definitions that are bound -/

/-- The definitions that are bound while a schema is built, each under the name of a field: those of
global declarations, bases under the name of the type that is derived from them, and what is
mentioned by a definition that is bound. -/
inductive Asked (set : SchemaSet) (source : Xsd.Schema) : TypeId → String → Prop
  | element {declared : String} {e : ElementId} : (declared, e) ∈ source.elements.entries →
      Asked set source (set.element e).type (set.element e).name
  | globalAttribute {declared : String} {a : AttributeId} :
      (declared, a) ∈ source.attributes.entries →
      Asked set source (set.attr a).type (set.attr a).name
  | base {id : TypeId} {fieldName n : String} : Asked set source id fieldName →
      typeName set (set.type id) fieldName = .ok n → Asked set source (set.baseOf id) n
  | mention {id id' : TypeId} {fieldName fieldName' : String} : Asked set source id fieldName →
      Mentions set id id' fieldName' → Asked set source id' fieldName'

/-! ## Fields -/

section Fields

variable (set : SchemaSet) (store : Store)

/-- What a definition is bound to: a type of its name, or a primitive if it is built in. -/
inductive Named (id : TypeId) (fieldName : String) : TypeRef → Prop
  | type {n : String} {t : TypeRef} : typeName set (set.type id) fieldName = .ok n →
      store.Has t → (∀ p, t ≠ .primitive p) → store.nameOf t = n → Named id fieldName t
  | primitive {n : String} {p : Primitive} : typeName set (set.type id) fieldName = .ok n →
      (set.type id).namespaceUri = Xsd.schemaNamespace → Primitive.ofBuiltin? n = some p →
      Named id fieldName (.primitive p)

/-- The field of an element, with its type or the type of its items. -/
inductive ElementField (occurs : Occurs) (e : ElementId) : Field → TypeRef → Prop
  | single {t : TypeRef} : occurs.isMultiple = false →
      Named set store (set.element e).type (set.element e).name t →
      ElementField occurs e (elementField store (set.element e) t) t
  | repeated {l : ListId} {schema : String} {item : TypeRef} : occurs.isMultiple = true →
      store.Has (.list l) →
      store.list l = ⟨Naming.anonymousListType (set.element e).name, schema, item,
        (set.element e).name, none, 0, occurs.max⟩ →
      Named set store (set.element e).type (set.element e).name item →
      ElementField occurs e (.plain (set.element e).name (.list l)) item

/-- The field of an attribute. -/
def AttributeField (a : AttributeId) (f : Field) : Prop :=
  f = attributeField (set.attr a) f.type ∧
    Named set store (set.attr a).type (set.attr a).name f.type

/-- A list that has taken the place of a complex type whose content is one repeated element. -/
structure Promoted (ps : List Particle) (l : ListId) : Prop where
  has : store.Has (.list l)
  sole : ∃ occurs e, soleRepeated? ps = some (occurs, e) ∧
    (store.list l).elementName = (set.element e).name ∧
    (store.list l).defaultValue = (set.element e).defaultValue ∧
    (store.list l).minOccurs = occurs.min ∧ (store.list l).maxOccurs = occurs.max ∧
    Named set store (set.element e).type (set.element e).name (store.list l).item

/-- What is looked at: what a build has made since the store was `old`, and has left out. -/
structure View where
  old : Store
  store : Store
  diagnostics : List Diagnostic

/-- A complex type has been made since. -/
structure View.New (v : View) (c : ComplexId) : Prop where
  has : v.store.Has (.complex c)
  not_old : ¬ v.old.Has (.complex c)

/-- The fields that particles become in a complex type named `owner`, in order. A declaration that
could not be bound is left out, with a diagnostic. The items of a repeated group are a complex type
of their own, which is new, or a list. -/
inductive ParticleFields (v : View) : String → List Particle → List Field → Prop
  | nil {owner : String} : ParticleFields v owner [] []
  | cons {owner : String} {p : Particle} {ps : List Particle} {fs fs' : List Field} :
      ParticleFields v owner [p] fs → ParticleFields v owner ps fs' →
      ParticleFields v owner (p :: ps) (fs ++ fs')
  | element {owner : String} {occurs : Occurs} {e : ElementId} {f : Field} {t : TypeRef} :
      ElementField set v.store occurs e f t → ParticleFields v owner [.element occurs e] [f]
  | elementLeftOut {owner : String} {occurs : Occurs} {e : ElementId} {failure : Failure} :
      ⟨s!"{owner}/{(set.element e).name}", failure⟩ ∈ v.diagnostics →
      ParticleFields v owner [.element occurs e] []
  | group {owner : String} {occurs : Occurs} {compositor : Compositor} {children : List Particle}
      {fs : List Field} : occurs.isMultiple = false → ParticleFields v owner children fs →
      ParticleFields v owner [.group occurs compositor children] fs
  | items {owner schema : String} {occurs : Occurs} {compositor : Compositor}
      {children : List Particle} {l : ListId} {c : ComplexId} : occurs.isMultiple = true →
      v.store.Has (.list l) →
      v.store.list l = { ListType.ofItem (Naming.anonymousListType owner) schema (.complex c) with
        maxOccurs := occurs.max } →
      v.New c → (v.store.complex c).name = Naming.anonymousListItem owner →
      ParticleFields v (v.store.complex c).name children (v.store.complex c).fields →
      ParticleFields v owner [.group occurs compositor children]
        [.plain (Naming.anonymousList owner) (.list l)]
  | itemLists {owner schema : String} {occurs : Occurs} {compositor : Compositor}
      {children : List Particle} {l l' : ListId} : occurs.isMultiple = true →
      v.store.Has (.list l) →
      v.store.list l = { ListType.ofItem (Naming.anonymousListType owner) schema (.list l') with
        maxOccurs := occurs.max } →
      Promoted set v.store children l' →
      ParticleFields v owner [.group occurs compositor children]
        [.plain (Naming.anonymousList owner) (.list l)]
  | groupLeftOut {owner : String} {occurs : Occurs} {compositor : Compositor}
      {children : List Particle} {failure : Failure} : occurs.isMultiple = true →
      ⟨s!"{owner}/{Naming.anonymousList owner}", failure⟩ ∈ v.diagnostics →
      ParticleFields v owner [.group occurs compositor children] []
  | wildcard {owner : String} {occurs : Occurs} : ParticleFields v owner [.wildcard occurs] []

/-! ## Types -/

/-- What a complex type has become that has been filled: itself, with a field for each particle and
each attribute that is not left out, or a list. -/
inductive Filled (v : View) (c : ComplexId) (ps : List Particle) (uses : List AttributeUse) :
    TypeRef → Prop
  | fields {fs attributes : List Field} : (v.store.complex c).fields = fs ++ attributes →
      ParticleFields set v (v.store.complex c).name ps fs →
      List.Forall₂ (fun use => AttributeField set v.store use.declaration) uses attributes →
      Filled v c ps uses (.complex c)
  | promoted {l : ListId} : Promoted set v.store ps l → Filled v c ps uses (.list l)

/-- A type that has been made of a definition. Lists are only made of definitions with a name. -/
inductive Made (v : View) (id : TypeId) : TypeRef → Prop
  | restriction {definition : Xsd.SimpleType} {s : SimpleId} :
      (set.type id).kind = .simple definition → definition.variety = .atomic →
      v.store.Has (.simple s) →
      constraints definition.facets = .ok (v.store.simple s).constraints → Made v id (.simple s)
  | union {definition : Xsd.SimpleType} {members : List TypeId} {s : SimpleId} :
      (set.type id).kind = .simple definition → definition.variety = .union members →
      v.store.Has (.simple s) → (v.store.simple s).constraints = [] → Made v id (.simple s)
  | list {definition : Xsd.SimpleType} {item : TypeId} {l : ListId} {n : String} :
      (set.type id).kind = .simple definition → definition.variety = .list item →
      (set.type id).name = some n → v.store.Has (.list l) → Made v id (.list l)
  | complex {definition : Xsd.ComplexType} {c : ComplexId} {t : TypeRef} :
      (set.type id).kind = .complex definition → v.New c →
      Filled set v c (particlesOf definition)
        (attributesToAdd set id (v.store.complex c).super.isSome) t → Made v id t

/-- What has come under a name: a type that is made of a definition which is bound under the name,
or of the items of a group. -/
inductive Origin (source : Xsd.Schema) (v : View) : String → TypeRef → Prop
  | definition {id : TypeId} {fieldName n : String} {t : TypeRef} : Asked set source id fieldName →
      typeName set (set.type id) fieldName = .ok n → Made set v id t → Origin source v n t
  | items {owner : String} {children : List Particle} {c : ComplexId} {t : TypeRef} :
      v.New c → (v.store.complex c).name = Naming.anonymousListItem owner →
      Filled set v c children [] t → Origin source v (Naming.anonymousListItem owner) t

end Fields

/-- The list that stands for a repeated group is known by its name, and has the items that it has
been made with. -/
theorem item_and_isList_of_list_eq {store : Store} {l : ListId} {owner schema : String} {t : TypeRef}
    {maxOccurs : Option UInt32}
    (hl : store.list l = { ListType.ofItem (Naming.anonymousListType owner) schema t with
      maxOccurs }) :
    (store.list l).item = t ∧ Naming.IsList (store.list l).name := by
  rw [hl]
  exact ⟨rfl, Naming.isList_anonymousListType _⟩

/-! ## Further types -/

/-- A store that has all that is there in another one, where only types that are in `old` have got
further fields. -/
structure Spares (old store store' : Store) : Prop where
  has : ∀ t, store.Has t → store'.Has t
  nameOf_eq : ∀ t, store.Has t → store'.nameOf t = store.nameOf t
  simple_eq : ∀ s, store.Has (.simple s) → store'.simple s = store.simple s
  list_eq : ∀ l, store.Has (.list l) → store'.list l = store.list l
  complex_eq : ∀ c, store.Has (.complex c) → ¬ old.Has (.complex c) →
    store'.complex c = store.complex c

/-- A store that grows, but for a type that was there, has all that has been made since. -/
theorem Spares.ofGrows {target : Option ComplexId} {old store store' : Store}
    (hg : store.Grows target store') (ht : ∀ c, target = some c → old.Has (.complex c)) :
    Spares old store store' where
  has := hg.has
  nameOf_eq _ h := hg.nameOf_eq h
  simple_eq := hg.simple_eq
  list_eq := hg.list_eq
  complex_eq c h hnew := hg.complex_eq c h fun heq => hnew (ht c heq.symm)

/-- A later view of a build, perhaps of more that has been made. -/
structure View.Later (v v' : View) : Prop where
  old : ∀ t, v'.old.Has t → v.old.Has t
  spares : Spares v.old v.store v'.store
  diagnostics : v.diagnostics ⊆ v'.diagnostics

section Later

variable {set : SchemaSet} {source : Xsd.Schema} {v v' : View} (hv : v.Later v')
include hv

theorem View.New.later {c : ComplexId} (h : v.New c) : v'.New c :=
  ⟨hv.spares.has _ h.has, fun hold => h.not_old (hv.old _ hold)⟩

theorem View.New.complex_eq {c : ComplexId} (h : v.New c) :
    v'.store.complex c = v.store.complex c :=
  hv.spares.complex_eq c h.has h.not_old

theorem Named.later {id : TypeId} {fieldName : String} {t : TypeRef}
    (h : Named set v.store id fieldName t) : Named set v'.store id fieldName t := by
  cases h with
  | type htype hhas hp hname =>
    exact .type htype (hv.spares.has _ hhas) hp ((hv.spares.nameOf_eq _ hhas).trans hname)
  | primitive htype hns hp => exact .primitive htype hns hp

/-- The greatest length of a type does not change. -/
theorem Named.elementField_eq {id : TypeId} {fieldName : String} {t : TypeRef}
    (h : Named set v.store id fieldName t) (e : Xsd.ElementDeclaration) :
    elementField v'.store e t = elementField v.store e t := by
  have hmax : v'.store.maxLengthOf t = v.store.maxLengthOf t := by
    cases t with
    | simple s =>
      cases h with
      | type _ hhas _ _ => exact congrArg Repository.SimpleType.maxLength (hv.spares.simple_eq s hhas)
    | primitive | complex | list => rfl
  unfold elementField
  rw [hmax]

theorem ElementField.later {occurs : Occurs} {e : ElementId} {f : Field} {t : TypeRef}
    (h : ElementField set v.store occurs e f t) : ElementField set v'.store occurs e f t := by
  cases h with
  | single hm hn =>
    rw [← hn.elementField_eq hv]
    exact .single hm (hn.later hv)
  | repeated hm hhas hl hn =>
    exact .repeated hm (hv.spares.has _ hhas) ((hv.spares.list_eq _ hhas).trans hl) (hn.later hv)

theorem AttributeField.later {a : AttributeId} {f : Field} (h : AttributeField set v.store a f) :
    AttributeField set v'.store a f :=
  ⟨h.1, h.2.later hv⟩

theorem Promoted.later {ps : List Particle} {l : ListId} (h : Promoted set v.store ps l) :
    Promoted set v'.store ps l := by
  obtain ⟨hhas, occurs, e, hsole, hname, hdefault, hmin, hmax, hitem⟩ := h
  have heq := hv.spares.list_eq l hhas
  exact ⟨hv.spares.has _ hhas, occurs, e, hsole, heq.symm ▸ hname, heq.symm ▸ hdefault,
    heq.symm ▸ hmin, heq.symm ▸ hmax, heq.symm ▸ hitem.later hv⟩

/-- By induction on how the fields have been made: no type that is made for items changes. -/
theorem ParticleFields.later {owner : String} {ps : List Particle} {fs : List Field}
    (h : ParticleFields set v owner ps fs) : ParticleFields set v' owner ps fs := by
  induction h with
  | nil => exact .nil
  | cons _ _ ih ih' => exact .cons ih ih'
  | element hf => exact .element (hf.later hv)
  | elementLeftOut hd => exact .elementLeftOut (hv.diagnostics hd)
  | group hm _ ih => exact .group hm ih
  | items hm hl heq hc hname _ ih =>
    rw [← hc.complex_eq hv] at hname ih
    exact .items hm (hv.spares.has _ hl) ((hv.spares.list_eq _ hl).trans heq) (hc.later hv) hname ih
  | itemLists hm hl heq hp =>
    exact .itemLists hm (hv.spares.has _ hl) ((hv.spares.list_eq _ hl).trans heq) (hp.later hv)
  | groupLeftOut hm hd => exact .groupLeftOut hm (hv.diagnostics hd)
  | wildcard => exact .wildcard

theorem Filled.later {c : ComplexId} (hc : v'.store.complex c = v.store.complex c)
    {ps : List Particle} {uses : List AttributeUse} {t : TypeRef} (h : Filled set v c ps uses t) :
    Filled set v' c ps uses t := by
  cases h with
  | fields hfields hps has =>
    rw [← hc] at hfields hps
    exact .fields hfields (hps.later hv) (has.imp fun _ _ h => h.later hv)
  | promoted hp => exact .promoted (hp.later hv)

theorem Made.later {id : TypeId} {t : TypeRef} (h : Made set v id t) : Made set v' id t := by
  cases h with
  | restriction hkind hvariety hhas hc =>
    rw [← hv.spares.simple_eq _ hhas] at hc
    exact .restriction hkind hvariety (hv.spares.has _ hhas) hc
  | union hkind hvariety hhas hc =>
    rw [← hv.spares.simple_eq _ hhas] at hc
    exact .union hkind hvariety (hv.spares.has _ hhas) hc
  | list hkind hvariety hname hhas => exact .list hkind hvariety hname (hv.spares.has _ hhas)
  | complex hkind hc hfilled =>
    have hfilled := hfilled.later hv (hc.complex_eq hv)
    rw [← hc.complex_eq hv] at hfilled
    exact .complex hkind (hc.later hv) hfilled

theorem Origin.later {n : String} {t : TypeRef} (h : Origin set source v n t) :
    Origin set source v' n t := by
  cases h with
  | definition hasked hname hmade => exact .definition hasked hname (hmade.later hv)
  | items hc hname hfilled =>
    rw [← hc.complex_eq hv] at hname
    exact .items (hc.later hv) hname (hfilled.later hv (hc.complex_eq hv))

end Later

end SchemaBinding.Binding
