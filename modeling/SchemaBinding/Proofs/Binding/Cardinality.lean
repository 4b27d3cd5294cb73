import SchemaBinding.Proofs.Binding.Origins
import SchemaBinding.Proofs.Repository.Publication
import SchemaBinding.Proofs.Xsd.WellFormed

/-!
# Repeated content

Where the values of the elements are in a type that has been made of a complex definition. The
fields of the type are read in order, and so are those of the items of repeated groups. Each element
in the content that is not left out has its place, and a list is passed on the way just if the
element may occur more than once, or a group around it may: but for the group that is the content
itself, whose own bounds make no difference.

## Main definitions

* `Xsd.Leaf`, `Xsd.Content.leaves`: the elements in content, and which of them may be repeated
* `Place`, `Places`: where values are, as read from the fields of a type
* `Holds`: elements have their places
* `Carries`: a type has a place for each element, in a list if it is repeated
* `Faithful`: what has been made of a complex definition has the places that it should have

## Main results

* `Places.unique`: places are read in one way only
* `ParticleFields.exists_places`: the places in the fields of particles
* `faithful_of_reachable`: all types that are made of complex definitions
* `not_forall_carries`: content that may itself occur more than once
-/

namespace SchemaBinding

open Repository (ComplexId Field ListId Reachable Store TypeRef)
open Xsd (AttributeUse Content ElementId Occurs Particle SchemaSet TypeId)

/-! ## Elements that may be repeated -/

namespace Xsd

/-- An element in content, and whether it may be repeated: it or a group around it may occur more
than once. -/
structure Leaf where
  repeated : Bool
  element : ElementId
  deriving DecidableEq

/-- An element in a group, which may itself be repeated. -/
def Leaf.within (repeated : Bool) (leaf : Leaf) : Leaf :=
  { leaf with repeated := repeated || leaf.repeated }

namespace Particle

mutual

/-- The elements in a particle, in order. -/
def leaves : Particle → List Leaf
  | .element occurs e => [⟨occurs.isMultiple, e⟩]
  | .group occurs _ children => (leavesAmong children).map (.within occurs.isMultiple)
  | .wildcard _ => []

/-- The elements in some particles, in order. -/
def leavesAmong : List Particle → List Leaf
  | [] => []
  | p :: ps => p.leaves ++ leavesAmong ps

end

@[simp] theorem leavesAmong_nil : leavesAmong [] = [] := by
  rw [leavesAmong]

@[simp] theorem leavesAmong_cons (p : Particle) (ps : List Particle) :
    leavesAmong (p :: ps) = p.leaves ++ leavesAmong ps := by
  rw [leavesAmong]

theorem leavesAmong_singleton (p : Particle) : leavesAmong [p] = p.leaves := by simp

end Particle

/-- The elements in content, in order. -/
def Content.leaves : Content → List Leaf
  | .empty | .simple _ => []
  | .particle p => p.leaves

/-- The particles in the group that is content. -/
def Content.particles : Content → List Particle
  | .particle (.group _ _ children) => children
  | _ => []

/-- Whether content may occur more than once as a whole. -/
def Content.isRepeated : Content → Bool
  | .empty | .simple _ => false
  | .particle p => p.isRepeated

@[simp] theorem map_within_false (leaves : List Leaf) :
    leaves.map (Leaf.within false) = leaves := by
  induction leaves with
  | nil => rfl
  | cons leaf leaves ih =>
    rw [List.map_cons, ih]
    rfl

end Xsd

namespace Binding

open Xsd (Leaf)

/-! ## Places -/

/-- Where the values of an element are: in fields of a type, perhaps of a list of them. -/
structure Place where
  listed : Bool
  type : TypeRef

/-- A place in the items of a list. -/
def Place.inList (place : Place) : Place := { place with listed := true }

/-- The places in fields, in order. A field of a list that was made for repeated content holds the
values of a list, and if its items are those of a repeated group, all that is in their fields. -/
inductive Places (store : Store) : List Field → List Place → Prop
  | nil : Places store [] []
  | direct {f : Field} {fs : List Field} {places : List Place} :
      (∀ l, f.type = .list l → ¬ Naming.IsList (store.list l).name) → Places store fs places →
      Places store (f :: fs) (⟨false, f.type⟩ :: places)
  | listed {f : Field} {fs : List Field} {places : List Place} {l : ListId} :
      f.type = .list l → Naming.IsList (store.list l).name →
      (∀ c owner, (store.list l).item = .complex c →
        (store.complex c).name ≠ Naming.anonymousListItem owner) →
      Places store fs places → Places store (f :: fs) (⟨true, (store.list l).item⟩ :: places)
  | items {f : Field} {fs : List Field} {inner places : List Place} {l : ListId} {c : ComplexId}
      {owner : String} :
      f.type = .list l → Naming.IsList (store.list l).name → (store.list l).item = .complex c →
      (store.complex c).name = Naming.anonymousListItem owner →
      Places store (store.complex c).fields inner → Places store fs places →
      Places store (f :: fs) (inner.map Place.inList ++ places)

namespace Places

variable {store : Store} {fs fs' : List Field} {places places' : List Place}

/-- Places are read in one way only. -/
theorem unique (h : Places store fs places) (h' : Places store fs places') : places = places' := by
  induction h generalizing places' with
  | nil =>
    cases h'
    rfl
  | direct hdirect _ ih =>
    cases h' with
    | direct _ h' => rw [ih h']
    | listed hf hl => exact absurd hl (hdirect _ hf)
    | items hf hl => exact absurd hl (hdirect _ hf)
  | listed hf hl hitem _ ih =>
    cases h' with
    | direct hdirect => exact absurd hl (hdirect _ hf)
    | listed hf' _ _ h' =>
      cases hf.symm.trans hf'
      rw [ih h']
    | items hf' _ hitem' hname =>
      cases hf.symm.trans hf'
      exact absurd hname (hitem _ _ hitem')
  | items hf hl hitem hname _ _ ihinner ih =>
    cases h' with
    | direct hdirect => exact absurd hl (hdirect _ hf)
    | listed hf' _ hitem' =>
      cases hf.symm.trans hf'
      exact absurd hname (hitem' _ _ hitem)
    | items hf' _ hitem' _ hinner h' =>
      cases hf.symm.trans hf'
      cases hitem.symm.trans hitem'
      rw [ihinner hinner, ih h']

theorem append (h : Places store fs places) (h' : Places store fs' places') :
    Places store (fs ++ fs') (places ++ places') := by
  induction h with
  | nil => exact h'
  | direct hdirect _ ih => exact .direct hdirect ih
  | listed hf hl hitem _ ih => exact .listed hf hl hitem ih
  | items hf hl hitem hname hinner _ _ ih =>
    rw [List.append_assoc]
    exact .items hf hl hitem hname hinner ih

/-- Where no field is of a list, no place is in one. -/
theorem listed_eq_false (h : Places store fs places) (hfs : ∀ f ∈ fs, ∀ l, f.type ≠ .list l) :
    ∀ place ∈ places, place.listed = false := by
  induction h with
  | nil => exact nofun
  | direct _ _ ih =>
    rintro place (_ | ⟨_, hplace⟩)
    · rfl
    · exact ih (fun f hf => hfs f (.tail _ hf)) place hplace
  | listed hf => exact absurd hf (hfs _ (.head _) _)
  | items hf => exact absurd hf (hfs _ (.head _) _)

end Places

/-! ## Elements and their places -/

section Holds

variable (set : SchemaSet) (v : View)

/-- Elements have their places, in order; a list is passed on the way to a place just if the element
is repeated. The items of a repeated group that is nothing but a repeated element are a list
themselves. An element that has no place has been left out, or the repeated group around it has. -/
inductive Holds : List Leaf → List Place → Prop
  | nil : Holds [] []
  | value {leaf : Leaf} {leaves : List Leaf} {place : Place} {places : List Place} :
      place.listed = leaf.repeated →
      Named set v.store (set.element leaf.element).type (set.element leaf.element).name place.type →
      Holds leaves places → Holds (leaf :: leaves) (place :: places)
  | list {leaf : Leaf} {leaves : List Leaf} {l : ListId} {places : List Place} :
      leaf.repeated = true → (v.store.list l).elementName = (set.element leaf.element).name →
      Named set v.store (set.element leaf.element).type (set.element leaf.element).name
        (v.store.list l).item →
      Holds leaves places → Holds (leaf :: leaves) (⟨true, .list l⟩ :: places)
  | leftOut {leaf : Leaf} {leaves : List Leaf} {places : List Place} {owner part : String}
      {failure : Failure} : part = (set.element leaf.element).name ∨
        part = Naming.anonymousList owner →
      ⟨s!"{owner}/{part}", failure⟩ ∈ v.diagnostics → Holds leaves places →
      Holds (leaf :: leaves) places

/-- A type has a place for each element, followed by those of the attributes. If it is a list, it
holds the values of the only element, which is repeated. -/
inductive Carries (leaves : List Leaf) (uses : List AttributeUse) : TypeRef → Prop
  | fields {c : ComplexId} {fs attributes : List Field} {places : List Place} :
      (v.store.complex c).fields = fs ++ attributes →
      List.Forall₂ (fun use => AttributeField set v.store use.declaration) uses attributes →
      Places v.store fs places → Holds set v leaves places → Carries leaves uses (.complex c)
  | list {l : ListId} {e : ElementId} : leaves = [⟨true, e⟩] →
      (v.store.list l).elementName = (set.element e).name →
      Named set v.store (set.element e).type (set.element e).name (v.store.list l).item →
      Carries leaves uses (.list l)

end Holds

namespace Holds

variable {set : SchemaSet} {v : View} {leaves leaves' : List Leaf} {places places' : List Place}

theorem append (h : Holds set v leaves places) (h' : Holds set v leaves' places') :
    Holds set v (leaves ++ leaves') (places ++ places') := by
  induction h with
  | nil => exact h'
  | value hlisted hnamed _ ih => exact .value hlisted hnamed ih
  | list hrepeated hname hitem _ ih => exact .list hrepeated hname hitem ih
  | leftOut hpart hd _ ih => exact .leftOut hpart hd ih

/-- In a repeated group, all places are in its list. -/
theorem inList (h : Holds set v leaves places) :
    Holds set v (leaves.map (.within true)) (places.map Place.inList) := by
  induction h with
  | nil => exact .nil
  | value _ hnamed _ ih => exact .value rfl hnamed ih
  | list _ hname hitem _ ih => exact .list rfl hname hitem ih
  | leftOut hpart hd _ ih => exact .leftOut hpart hd ih

/-- A group that is left out has no places. -/
theorem ofGroupLeftOut {owner : String} {failure : Failure}
    (hd : ⟨s!"{owner}/{Naming.anonymousList owner}", failure⟩ ∈ v.diagnostics)
    (leaves : List Leaf) : Holds set v leaves [] := by
  induction leaves with
  | nil => exact .nil
  | cons leaf leaves ih => exact .leftOut (.inr rfl) hd ih

/-- Where nothing is left out, a repeated element has a place in a list. -/
theorem exists_listed {leaf : Leaf} (h : Holds set v (leaf :: leaves) places)
    (hrepeated : leaf.repeated = true) (hd : v.diagnostics = []) :
    ∃ place ∈ places, place.listed = true := by
  cases h with
  | value hlisted => exact ⟨_, .head _, hlisted.trans hrepeated⟩
  | list => exact ⟨_, .head _, rfl⟩
  | leftOut _ hmem =>
    rw [hd] at hmem
    cases hmem

end Holds

/-! ## Fields of particles -/

section Named

variable {set : SchemaSet} (hset : set.PlainNames) {store : Store} {id : TypeId}
  {fieldName : String} {t : TypeRef}
include hset

/-- What a definition is bound to is no list of repeated content. -/
theorem Named.not_isList (h : Named set store id fieldName t) (l : ListId) (hl : t = .list l) :
    ¬ Naming.IsList (store.list l).name := by
  subst hl
  cases h with
  | type htype _ _ hname =>
    have hname : (store.list l).name = _ := hname
    rw [hname]
    exact typeName_not_isList hset htype

/-- Nor is it an item of a repeated group. -/
theorem Named.ne_anonymousListItem (h : Named set store id fieldName t) (c : ComplexId)
    (owner : String) (hc : t = .complex c) :
    (store.complex c).name ≠ Naming.anonymousListItem owner := by
  subst hc
  cases h with
  | type htype _ _ hname =>
    have hname : (store.complex c).name = _ := hname
    rw [hname]
    exact typeName_ne_anonymousListItem hset htype owner

end Named

section Particles

variable {set : SchemaSet} (hset : set.PlainNames) {v : View}
include hset

/-- The place of an element. -/
theorem ElementField.places {occurs : Occurs} {e : ElementId} {f : Field} {t : TypeRef}
    (h : ElementField set v.store occurs e f t) :
    Places v.store [f] [⟨occurs.isMultiple, t⟩] ∧
      Named set v.store (set.element e).type (set.element e).name t := by
  cases h with
  | single hm hnamed =>
    rw [hm]
    exact ⟨.direct (fun l hl => hnamed.not_isList hset l hl) .nil, hnamed⟩
  | @repeated l schema item hm _ hl hnamed =>
    have hitem : (v.store.list l).item = t := by rw [hl]
    have hname : Naming.IsList (v.store.list l).name := by
      rw [hl]
      exact Naming.isList_anonymousListType _
    refine ⟨?_, hnamed⟩
    rw [hm, ← hitem]
    refine .listed rfl hname (fun c owner hc => ?_) .nil
    exact hnamed.ne_anonymousListItem hset c owner (hitem.symm.trans hc)

/-- The places of the elements among particles. By induction on how the fields have been made; the
fields of the items of a repeated group are part of that. -/
theorem ParticleFields.exists_places {owner : String} {ps : List Particle} {fs : List Field}
    (h : ParticleFields set v owner ps fs) :
    ∃ places, Places v.store fs places ∧ Holds set v (Particle.leavesAmong ps) places := by
  induction h with
  | nil => exact ⟨[], .nil, by simpa using .nil⟩
  | @cons _ p _ _ _ _ _ ih ih' =>
    obtain ⟨places, hplaces, hholds⟩ := ih
    obtain ⟨places', hplaces', hholds'⟩ := ih'
    refine ⟨places ++ places', hplaces.append hplaces', ?_⟩
    rw [Particle.leavesAmong_singleton] at hholds
    rw [Particle.leavesAmong_cons]
    exact hholds.append hholds'
  | element hf =>
    obtain ⟨hplaces, hnamed⟩ := hf.places hset
    refine ⟨_, hplaces, ?_⟩
    rw [Particle.leavesAmong_singleton, Particle.leaves]
    exact .value rfl hnamed .nil
  | elementLeftOut hd =>
    refine ⟨[], .nil, ?_⟩
    rw [Particle.leavesAmong_singleton, Particle.leaves]
    exact .leftOut (.inl rfl) hd .nil
  | group hm _ ih =>
    obtain ⟨places, hplaces, hholds⟩ := ih
    refine ⟨places, hplaces, ?_⟩
    rw [Particle.leavesAmong_singleton, Particle.leaves, hm,
      Xsd.map_within_false]
    exact hholds
  | @items owner schema _ _ _ l c hm _ hl hc hname _ ih =>
    obtain ⟨inner, hinner, hholds⟩ := ih
    obtain ⟨hitem, hlist⟩ := item_and_isList_of_list_eq hl
    refine ⟨inner.map Place.inList ++ [], .items rfl hlist hitem hname hinner .nil, ?_⟩
    rw [Particle.leavesAmong_singleton, Particle.leaves, hm, List.append_nil]
    exact hholds.inList
  | @itemLists owner schema _ _ _ l l' hm _ hl hp =>
    obtain ⟨-, occurs, e, hsole, hname, -, -, -, hnamed⟩ := hp
    obtain ⟨rfl, -⟩ := soleRepeated?_eq_some_iff.mp hsole
    obtain ⟨hitem, hlist⟩ := item_and_isList_of_list_eq hl
    refine ⟨[⟨true, (v.store.list l).item⟩], .listed rfl hlist (fun c owner hc => ?_) .nil, ?_⟩
    · rw [hitem] at hc
      cases hc
    · rw [hitem, Particle.leavesAmong_singleton, Particle.leaves, hm,
        Particle.leavesAmong_singleton, Particle.leaves]
      exact .list rfl hname hnamed .nil
  | @groupLeftOut owner _ _ children _ hm hd =>
    refine ⟨[], .nil, .ofGroupLeftOut hd _⟩
  | wildcard =>
    refine ⟨[], .nil, ?_⟩
    rw [Particle.leavesAmong_singleton, Particle.leaves]
    exact .nil

/-- A complex type that has been filled has a place for each element, and so has the list that has
taken its place. -/
theorem Filled.carries {c : ComplexId} {ps : List Particle} {uses : List AttributeUse} {t : TypeRef}
    (h : Filled set v c ps uses t) : Carries set v (Particle.leavesAmong ps) uses t := by
  cases h with
  | fields hfields hps has =>
    obtain ⟨places, hplaces, hholds⟩ := hps.exists_places hset
    exact .fields hfields has hplaces hholds
  | promoted hp =>
    obtain ⟨-, occurs, e, hsole, hname, -, -, -, hnamed⟩ := hp
    obtain ⟨rfl, hm⟩ := soleRepeated?_eq_some_iff.mp hsole
    refine .list ?_ hname hnamed
    rw [Particle.leavesAmong_singleton, Particle.leaves, hm]

end Particles

/-! ## Types of complex definitions -/

/-- The content of which a complex type is made. -/
def contentFor (definition : Xsd.ComplexType) : Content :=
  definition.explicitContent.getD definition.content

theorem particlesOf_eq (definition : Xsd.ComplexType) :
    particlesOf definition = (contentFor definition).particles :=
  rfl

/-- What has been made of a complex definition has a place for each element, in a list if it may be
repeated. That the content itself may occur more than once makes no difference; if it may not, these
are all elements that may be repeated. -/
def Faithful (set : SchemaSet) (v : View) (id : TypeId) (definition : Xsd.ComplexType)
    (t : TypeRef) : Prop :=
  ∃ hasSuper,
    Carries set v (Particle.leavesAmong (particlesOf definition))
      (attributesToAdd set id hasSuper) t ∧
    ((contentFor definition).isRepeated = false →
      Carries set v (contentFor definition).leaves (attributesToAdd set id hasSuper) t)

/-- What a type is made of refers to components of the set. -/
theorem closed_contentFor {set : SchemaSet} {definition : Xsd.ComplexType}
    (hd : definition.Closed set) : (contentFor definition).Closed set := by
  unfold contentFor
  cases hexplicit : definition.explicitContent with
  | none => exact hd.content
  | some content => exact hd.explicitContent content hexplicit

/-- The elements in content that does not occur more than once are those of its particles. -/
theorem leaves_contentFor {set : SchemaSet} {definition : Xsd.ComplexType}
    (hd : definition.Closed set) (h : (contentFor definition).isRepeated = false) :
    (contentFor definition).leaves = Particle.leavesAmong (particlesOf definition) := by
  have hclosed := closed_contentFor hd
  rw [particlesOf_eq]
  generalize contentFor definition = content at h hclosed ⊢
  cases content with
  | empty | simple => exact Particle.leavesAmong_nil.symm
  | particle p =>
    cases p with
    | group occurs compositor children =>
      have hm : occurs.isMultiple = false := h
      rw [Content.leaves, Particle.leaves, hm, Xsd.map_within_false, Content.particles]
    | element | wildcard => cases hclosed.1

/-- What is made of a definition has the cardinalities that its leaves have. -/
theorem Made.faithful {set : SchemaSet} (hset : set.Accepted) {v : View} {id : TypeId}
    {definition : Xsd.ComplexType} {t : TypeRef} (h : Made set v id t)
    (hkind : (set.type id).kind = .complex definition) : Faithful set v id definition t := by
  cases h with
  | restriction hsimple | union hsimple | list hsimple => cases hkind.symm.trans hsimple
  | complex hcomplex _ hfilled =>
    cases hkind.symm.trans hcomplex
    have hcarries := hfilled.carries hset.plainNames
    refine ⟨_, hcarries, fun hm => ?_⟩
    rw [leaves_contentFor (hset.wellFormed.complex id definition hkind) hm]
    exact hcarries

/-- **Which elements are in lists.** Whatever has been compiled before, each type of a schema that
is built from a complex definition has its places as it should, and so has each type at the moment
at which it is built. -/
theorem faithful_of_reachable {r : Repository} (hr : Reachable r) {set : SchemaSet}
    (hset : set.Accepted) (request : Request) (source : Xsd.Schema) (log : Log) :
    let setting : Setting := ⟨set, r.registry⟩
    let schema := (bindSchema setting r.store request source log).1
    let last := (bindSchema setting r.store request source log).2
    (∀ n t, schema.types.get? n = some t → (∃ owner, n = Naming.anonymousListItem owner) ∨
      ∃ id fieldName, Asked set source id fieldName ∧
        typeName set (set.type id) fieldName = .ok n ∧
        ∀ definition, (set.type id).kind = .complex definition →
          Faithful set ⟨r.store, last.store, last.diagnostics⟩ id definition t) ∧
    ∀ b, Reached setting (.start r.store request.name log) b →
      ∀ depth id fieldName n, Asked set source id fieldName → Fresh setting id fieldName b n →
      ∀ t, b.resultOf (loadWithin setting depth id fieldName) = .ok t →
      ∀ definition, (set.type id).kind = .complex definition →
        Faithful set (b.view (b.after (loadWithin setting depth id fieldName))) id definition
          t := by
  intro setting schema last
  have hfits := hr.consistent.fits
  obtain ⟨horigin, -⟩ :=
    @origins_bindSchema setting hset.plainNames r.store hfits request source log
  refine ⟨fun n t ht => ?_, fun b hb depth id fieldName n hasked hfresh t ht definition hkind => ?_⟩
  · cases horigin n t ht with
    | definition hasked hname hmade =>
      exact .inr ⟨_, _, hasked, hname, fun definition hkind => hmade.faithful hset hkind⟩
    | items => exact .inl ⟨_, rfl⟩
  · have hsound := hb.sound hset.plainNames (sound_start hfits request.name log)
    have hmade := (makesType_loadWithin hset.plainNames hsound depth hasked hfresh).2 t ht
    exact hmade.faithful hset hkind

/-! ## Content that may occur more than once -/

/-- A schema with two types. The content of the first one may occur more than once, and that of the
second one has a group that may. -/
def repeatingText : String :=
  "<schema xmlns=\"http://www.w3.org/2001/XMLSchema\" xmlns:t=\"t\" targetNamespace=\"t\">" ++
  "<complexType name=\"T\"><sequence maxOccurs=\"unbounded\"><element name=\"a\" " ++
  "type=\"string\"/><element name=\"b\" type=\"string\"/></sequence></complexType>" ++
  "<complexType name=\"G\"><sequence><element name=\"c\" type=\"string\"/>" ++
  "<choice maxOccurs=\"2\"><element name=\"d\" type=\"string\"/><element name=\"e\" " ++
  "type=\"string\"/></choice></sequence></complexType><element name=\"r\" type=\"t:T\"/>" ++
  "<element name=\"g\" type=\"t:G\"/></schema>"

/-- The set of that schema, as the first one that is compiled. -/
def repeatingSetting : Setting := ⟨.ofText repeatingText, .empty⟩

/-- The schema of the two types. -/
def repeatingSource : Xsd.Schema :=
  (mainSchema? repeatingSetting.set).getD (.empty "")

/-- The build of the schema as it starts. -/
def repeatingBuild : Build := .start .empty "s" #[]

/-- The elements in the content of which a type is made, and whether that may be repeated itself. -/
def leavesOf? (set : SchemaSet) (id : TypeId) : Option (Bool × List Leaf) :=
  (set.type id).complex?.map fun definition =>
    ((contentFor definition).isRepeated, (contentFor definition).leaves)

/-- Only complex types with content of particles have leaves. -/
theorem exists_of_leavesOf? {set : SchemaSet} {id : TypeId} {isRepeated : Bool} {leaves : List Leaf}
    (h : leavesOf? set id = some (isRepeated, leaves)) :
    ∃ definition, (set.type id).kind = .complex definition ∧
      (contentFor definition).isRepeated = isRepeated ∧
      (contentFor definition).leaves = leaves := by
  unfold leavesOf? Xsd.TypeDefinition.complex? at h
  split at h
  · cases h
  · next definition hkind =>
    cases h
    exact ⟨definition, hkind, rfl, rfl⟩

section Repeating

set_option maxRecDepth 100000

/-- The schema is accepted. The two types are those of the two global elements, and can be bound at
the start. What is made of the first type has fields of its two elements, which are in no list. -/
theorem repeating_facts :
    (SchemaSet.readText repeatingText).isOk = true ∧
    (repeatingSource.elements.entries = [("r", ⟨0⟩), ("g", ⟨1⟩)] ∧
      (repeatingSetting.set.element ⟨0⟩).type = ⟨46⟩ ∧
      (repeatingSetting.set.element ⟨0⟩).name = "r" ∧
      (repeatingSetting.set.element ⟨1⟩).type = ⟨47⟩ ∧
      (repeatingSetting.set.element ⟨1⟩).name = "g" ∧
      typeName repeatingSetting.set (repeatingSetting.set.type ⟨46⟩) "r" = .ok "T" ∧
      typeName repeatingSetting.set (repeatingSetting.set.type ⟨47⟩) "g" = .ok "G" ∧
      (repeatingSetting.set.type ⟨46⟩).namespaceUri ≠ Xsd.schemaNamespace ∧
      (repeatingSetting.set.type ⟨47⟩).namespaceUri ≠ Xsd.schemaNamespace) ∧
    leavesOf? repeatingSetting.set ⟨46⟩ = some (true, [⟨true, ⟨2⟩⟩, ⟨true, ⟨3⟩⟩]) ∧
    leavesOf? repeatingSetting.set ⟨47⟩ =
      some (false, [⟨false, ⟨4⟩⟩, ⟨true, ⟨5⟩⟩, ⟨true, ⟨6⟩⟩]) ∧
    repeatingBuild.resultOf (loadWithin repeatingSetting 2 ⟨46⟩ "r") = .ok (.complex ⟨0⟩) ∧
    repeatingBuild.resultOf (loadWithin repeatingSetting 2 ⟨47⟩ "g") = .ok (.complex ⟨0⟩) ∧
    (repeatingBuild.after (loadWithin repeatingSetting 2 ⟨46⟩ "r")).diagnostics.isEmpty = true ∧
    ∀ f ∈ ((repeatingBuild.after
        (loadWithin repeatingSetting 2 ⟨46⟩ "r")).store.complex ⟨0⟩).fields,
      f.type = .primitive .string := by
  decide +kernel

theorem accepted_repeating : (SchemaSet.ofText repeatingText).Accepted :=
  SchemaSet.accepted_ofText repeating_facts.1

/-- The two types are bound at the start, under the names of the elements. -/
theorem repeating_asked :
    (Asked repeatingSetting.set repeatingSource ⟨46⟩ "r" ∧
      Fresh repeatingSetting ⟨46⟩ "r" repeatingBuild "T") ∧
    Asked repeatingSetting.set repeatingSource ⟨47⟩ "g" ∧
      Fresh repeatingSetting ⟨47⟩ "g" repeatingBuild "G" := by
  obtain ⟨-, ⟨hentries, htypeT, hnameT, htypeG, hnameG, hT, hG, hnsT, hnsG⟩, -⟩ :=
    repeating_facts
  have hr : ("r", ⟨0⟩) ∈ repeatingSource.elements.entries := by simp [hentries]
  have hg : ("g", ⟨1⟩) ∈ repeatingSource.elements.entries := by simp [hentries]
  refine ⟨⟨?_, hT, rfl, hnsT⟩, ?_, hG, rfl, hnsG⟩
  · rw [← htypeT, ← hnameT]
    exact .element hr
  · rw [← htypeG, ← hnameG]
    exact .element hg

/-- The second type has its first element in a field and the other two in the items of a list. -/
theorem faithful_repeating : ∃ hasSuper,
    Carries repeatingSetting.set
      (repeatingBuild.view (repeatingBuild.after (loadWithin repeatingSetting 2 ⟨47⟩ "g")))
      [⟨false, ⟨4⟩⟩, ⟨true, ⟨5⟩⟩, ⟨true, ⟨6⟩⟩]
      (attributesToAdd repeatingSetting.set ⟨47⟩ hasSuper) (.complex ⟨0⟩) := by
  obtain ⟨-, -, -, hleaves, -, hmade, -⟩ := repeating_facts
  obtain ⟨-, hasked, hfresh⟩ := repeating_asked
  obtain ⟨definition, hkind, hrepeated, hleaves⟩ := exists_of_leavesOf? hleaves
  obtain ⟨-, hbuild⟩ := faithful_of_reachable .empty accepted_repeating ⟨"s", "p", false⟩
    repeatingSource #[]
  obtain ⟨hasSuper, -, hcarries⟩ :=
    hbuild repeatingBuild .start 2 ⟨47⟩ "g" "G" hasked hfresh (.complex ⟨0⟩) hmade definition hkind
  exact ⟨hasSuper, hleaves ▸ hcarries hrepeated⟩

/-- That content may itself occur more than once is lost: its elements are not always in lists. -/
theorem not_forall_carries :
    ¬ ∀ r, Reachable r → ∀ set, SchemaSet.Accepted set → ∀ (request : Request) source log b,
      Reached ⟨set, r.registry⟩ (.start r.store request.name log) b → ∀ depth id fieldName n,
      Asked set source id fieldName → Fresh ⟨set, r.registry⟩ id fieldName b n →
      ∀ t, b.resultOf (loadWithin ⟨set, r.registry⟩ depth id fieldName) = .ok t →
      ∀ definition, (set.type id).kind = .complex definition → ∃ hasSuper,
        Carries set (b.view (b.after (loadWithin ⟨set, r.registry⟩ depth id fieldName)))
          (contentFor definition).leaves (attributesToAdd set id hasSuper) t := by
  intro h
  obtain ⟨-, -, hleaves, -, hmade, -, hdiagnostics, hfields⟩ := repeating_facts
  obtain ⟨⟨hasked, hfresh⟩, -⟩ := repeating_asked
  obtain ⟨definition, hkind, -, hleaves⟩ := exists_of_leavesOf? hleaves
  obtain ⟨hasSuper, hcarries⟩ := h .empty .empty _ accepted_repeating ⟨"s", "p", false⟩
    repeatingSource #[] repeatingBuild .start 2 ⟨46⟩ "r" "T" hasked hfresh (.complex ⟨0⟩) hmade
    definition hkind
  rw [hleaves] at hcarries
  cases hcarries with
  | fields hsplit _ hplaces hholds =>
    obtain ⟨place, hplace, hlisted⟩ := hholds.exists_listed rfl (List.isEmpty_iff.mp hdiagnostics)
    have hdirect := hplaces.listed_eq_false (fun f hf l hl => ?_) place hplace
    · rw [hlisted] at hdirect
      cases hdirect
    · have hstring := hfields f (hsplit ▸ List.mem_append_left _ hf)
      rw [hl] at hstring
      cases hstring

end Repeating

end Binding

end SchemaBinding
