import SchemaBinding.Proofs.Binding.InheritedElements

/-!
# Inherited attributes

The fields of attributes that a complex type has, those of the types above it included. A type that
has a super type gets fields for the attributes that it uses itself, and inherits those of the super
type; one that has none gets fields for all attributes that it uses or inherits. In both ways each
attribute has a field, and no other one has, as long as the type is no list: what gives way to a
list loses its attributes.

There is one field for each attribute just if no type with a super type redeclares an attribute.
Where uses are merged, an attribute that is redeclared replaces the one that is inherited; where
there is a super type, it gets a second field beside that of the super type.

## Main definitions

* `AttributeFields`: the fields of attributes of a type and of those above it
* `Redeclares`: a type with a super type, or one above it, redeclares an attribute
* `InheritsAttributes`: which attributes these fields are for

## Main results

* `Lineage.inheritsAttributes`: the attributes along a lineage
* `inherited_attributes`: compiled schemas, and single types
* `not_forall_attributeFields`: an attribute that is redeclared has two fields
* `not_forall_list_attributeFields`: a type that has become a list has none
-/

namespace SchemaBinding.Binding

open Repository (ComplexId Field ListId Registered TypeRef)
open Xsd (AttributeUse SchemaSet TypeId)

/-! ## Fields of attributes -/

/-- The fields of attributes that a type has which has been made of a definition, after those of the
type above it, with the uses that they are for. They come after the fields of the particles. A list
has none. -/
inductive AttributeFields (set : SchemaSet) (v : View) :
    TypeId → TypeRef → List AttributeUse → List Field → Prop
  | list {id : TypeId} {l : ListId} : AttributeFields set v id (.list l) [] []
  | top {id : TypeId} {c : ComplexId} {definition : Xsd.ComplexType} {fs attributes : List Field} :
      (set.type id).kind = .complex definition → (v.store.complex c).super = none →
      (v.store.complex c).fields = fs ++ attributes →
      ParticleFields set v (v.store.complex c).name (particlesOf definition) fs →
      List.Forall₂ (fun use => AttributeField set v.store use.declaration) (set.attributeUses id)
        attributes →
      AttributeFields set v id (.complex c) (set.attributeUses id) attributes
  | derived {id : TypeId} {c above : ComplexId} {definition : Xsd.ComplexType}
      {uses : List AttributeUse} {inherited fs attributes : List Field} :
      (set.type id).kind = .complex definition → (v.store.complex c).super = some above →
      AttributeFields set v (set.baseOf id) (.complex above) uses inherited →
      (v.store.complex c).fields = fs ++ attributes →
      ParticleFields set v (v.store.complex c).name (particlesOf definition) fs →
      List.Forall₂ (fun use => AttributeField set v.store use.declaration) (set.ownUses id)
        attributes →
      AttributeFields set v id (.complex c) (uses ++ set.ownUses id) (inherited ++ attributes)

/-- Some type along the super types, one that has a super type itself, uses an attribute under a
name that it inherits, or uses two attributes under one name. -/
inductive Redeclares (set : SchemaSet) (v : View) : TypeId → ComplexId → Prop
  | here {id : TypeId} {c above : ComplexId} : (v.store.complex c).super = some above →
      ¬ ((set.attributeUses (set.baseOf id) ++ set.ownUses id).map set.useName).Nodup →
      Redeclares set v id c
  | above {id : TypeId} {c above : ComplexId} : (v.store.complex c).super = some above →
      Redeclares set v (set.baseOf id) above → Redeclares set v id c

/-- The fields of attributes that a type has, those of the types above it included, are by name
those of the attributes that its definition uses or inherits: none of these is without a field, and
no other attribute has one. There is one field for each of them, and none twice, just if none is
redeclared where there is a super type. -/
def InheritsAttributes (set : SchemaSet) (v : View) (id : TypeId) (c : ComplexId) : Prop :=
  ∃ uses attributes, AttributeFields set v id (.complex c) uses attributes ∧
    (∀ n, n ∈ attributes.map Field.name ↔ n ∈ (set.attributeUses id).map set.useName) ∧
    (¬ Redeclares set v id c →
      List.Forall₂ (fun use => AttributeField set v.store use.declaration) (set.attributeUses id)
        attributes) ∧
    ((attributes.map Field.name).Nodup ↔ ¬ Redeclares set v id c)

section Fields

variable {set : SchemaSet} {source : Xsd.Schema} {v : View} {id : TypeId} {c : ComplexId}

/-- Fields have the names of the attributes that they are for. -/
theorem map_name_of_attributeFields {uses : List AttributeUse} {attributes : List Field}
    (h : List.Forall₂ (fun use => AttributeField set v.store use.declaration) uses attributes) :
    attributes.map Field.name = uses.map set.useName := by
  induction h with
  | nil => rfl
  | cons hfield _ ih =>
    rw [List.map_cons, List.map_cons, ih, hfield.1]
    rfl

/-- A type that has no super type has all attributes merged. -/
theorem not_redeclares_of_top (hsuper : (v.store.complex c).super = none) :
    ¬ Redeclares set v id c := by
  intro h
  cases h with
  | here habove _ => cases hsuper.symm.trans habove
  | above habove _ => cases hsuper.symm.trans habove

/-- Where nothing is redeclared, the uses below a super type are those that are merged. -/
theorem attributeUses_of_not_redeclares (hset : set.Accepted) (hid : set.HasType id)
    (hne : set.baseOf id ≠ id) {above : ComplexId}
    (hsuper : (v.store.complex c).super = some above) (h : ¬ Redeclares set v id c) :
    set.attributeUses id = set.attributeUses (set.baseOf id) ++ set.ownUses id := by
  rw [SchemaSet.attributeUses_of_base (hset.rooted id hid) hne]
  exact SchemaSet.foldl_addUse_of_nodup (not_not.mp fun hnot => h (.here hsuper hnot))

/-- Where something is redeclared, but not above the type, the type itself does. -/
theorem Redeclares.not_nodup {above : ComplexId} (h : Redeclares set v id c)
    (hsuper : (v.store.complex c).super = some above)
    (habove : ¬ Redeclares set v (set.baseOf id) above) :
    ¬ ((set.attributeUses (set.baseOf id) ++ set.ownUses id).map set.useName).Nodup := by
  cases h with
  | here _ hnot => exact hnot
  | above hsuper' h =>
    cases hsuper.symm.trans hsuper'
    exact absurd h habove

/-- The attributes along a lineage, by induction on it: the type at its top has fields for all that
its definition uses or inherits, and each further one adds what it uses itself. -/
theorem Lineage.exists_attributeFields (hset : set.Accepted) (hid : set.HasType id)
    (h : Lineage set source v id c) :
    ∃ uses attributes, AttributeFields set v id (.complex c) uses attributes ∧
      List.Forall₂ (fun use => AttributeField set v.store use.declaration) uses attributes ∧
      (∀ n, n ∈ uses.map set.useName ↔ n ∈ (set.attributeUses id).map set.useName) ∧
      (¬ Redeclares set v id c → uses = set.attributeUses id) ∧
      (Redeclares set v id c → ¬ (uses.map set.useName).Nodup) := by
  induction h with
  | @top id c hmade hsuper =>
    obtain ⟨definition, hkind, -, hfilled⟩ := hmade.made.filled
    rw [hsuper] at hfilled
    cases hfilled with
    | fields hfields hps has =>
      exact ⟨_, _, .top hkind hsuper hfields hps has, has, fun n => Iff.rfl, fun _ => rfl,
        fun h => absurd h (not_redeclares_of_top hsuper)⟩
  | @derived id c above hmade hsuper _ hne _ ih =>
    obtain ⟨definition, hkind, -, hfilled⟩ := hmade.made.filled
    obtain ⟨uses, inherited, hinherited, hall, hnames, honce, htwice⟩ :=
      ih (hset.wellFormed.base id hid)
    rw [hsuper] at hfilled
    cases hfilled with
    | fields hfields hps has =>
      refine ⟨_, _, .derived hkind hsuper hinherited hfields hps has,
        List.rel_append hall has, fun n => ?_, fun hnot => ?_, fun hredeclared hnodup => ?_⟩
      · rw [SchemaSet.attributeUses_of_base (hset.rooted id hid) hne,
          SchemaSet.mem_useNames_foldl_addUse, List.map_append, List.mem_append, hnames]
      · rw [attributeUses_of_not_redeclares hset hid hne hsuper hnot,
          honce fun h => hnot (.above hsuper h)]
      · have habove : ¬ Redeclares set v (set.baseOf id) above := by
          intro h
          rw [List.map_append] at hnodup
          exact htwice h (List.nodup_append.mp hnodup).1
        rw [honce habove] at hnodup
        exact hredeclared.not_nodup hsuper habove hnodup

/-- A super type that is a complex type without super type has a field for each attribute that is
merged for the base, and the type has further ones for those that it uses itself. -/
theorem AttributeFields.length_eq {t above : ComplexId} {uses : List AttributeUse}
    {attributes : List Field} (h : AttributeFields set v id (.complex t) uses attributes)
    (hsuper : (v.store.complex t).super = some above) (htop : (v.store.complex above).super = none) :
    attributes.length = (set.attributeUses (set.baseOf id)).length + (set.ownUses id).length := by
  cases h with
  | top _ hnone => cases hsuper.symm.trans hnone
  | derived _ hsuper' hinherited _ _ hown =>
    cases hsuper.symm.trans hsuper'
    cases hinherited with
    | top _ _ _ _ hall => rw [List.length_append, hall.length_eq, hown.length_eq]
    | derived _ hsome => cases htop.symm.trans hsome

theorem Lineage.inheritsAttributes (hset : set.Accepted) (hid : set.HasType id)
    (h : Lineage set source v id c) : InheritsAttributes set v id c := by
  obtain ⟨uses, attributes, hfields, hall, hnames, honce, htwice⟩ :=
    h.exists_attributeFields hset hid
  have hmap := map_name_of_attributeFields hall
  refine ⟨uses, attributes, hfields, fun n => ?_, fun hnot => ?_, fun hnodup hredeclared => ?_,
    fun hnot => ?_⟩
  · rw [hmap]
    exact hnames n
  · exact honce hnot ▸ hall
  · rw [hmap] at hnodup
    exact htwice hredeclared hnodup
  · rw [hmap, honce hnot]
    exact SchemaSet.nodup_attributeUses set id

end Fields

/-! ## Compiled schemas, and single types -/

/-- **The two ways of inheriting attributes agree, but for attributes that are redeclared.** A set
is compiled while no schema is registered. A complex type of the schema, under whose name and under
those of the types above it one definition each is bound, none of which has given way to a list, has
been made of a definition, and the fields of attributes are those of the attributes that this
definition uses or inherits, with one field for each just if none is redeclared below a super type.
When a single definition is bound, with all that it refers to, the same holds of the complex type
that it is bound to, whatever else is bound under its name or has given way to a list. -/
theorem inherited_attributes {r : Repository} (hv : r.registry.Vacant) {set : SchemaSet}
    (hset : set.Accepted) :
    (∀ limits request log reg diagnostics source,
      (compile r limits request set log).1 = .ok ⟨some reg, diagnostics⟩ →
      mainSchema? set = some source →
      let store := (compile r limits request set log).2.1.store
      let v : View := ⟨r.store, store, diagnostics⟩
      ∀ c, Intact set source store reg.schema.types c →
        (∀ owner, (store.complex c).name ≠ Naming.anonymousListItem owner) →
        ∃ id, MadeOf set source v id c ∧ InheritsAttributes set v id c) ∧
    ∀ schemaName log source depth id fieldName c, set.HasType id → Asked set source id fieldName →
      let first : Build := .start r.store schemaName log
      let last := first.after (loadWithin ⟨set, r.registry⟩ depth id fieldName)
      first.resultOf (loadWithin ⟨set, r.registry⟩ depth id fieldName) = .ok (.complex c) →
      InheritsAttributes set (first.view last) id c := by
  refine ⟨?_, ?_⟩
  · intro limits request log reg diagnostics source h hmain store v c hintact hitem
    obtain ⟨id, hid, hlineage⟩ := exists_lineage_of_compile hv hset h hmain hintact hitem
    exact ⟨id, hlineage.madeOf, hlineage.inheritsAttributes hset hid⟩
  · intro schemaName log source depth id fieldName c hid hasked first last hresult
    have hsound := @sound_start ⟨set, r.registry⟩ r.store (Repository.Consistent.ofVacant hv).fits
      schemaName log
    -- The scope is empty, so all names are those of the registry, which has none.
    have hlineage := lineage_loadWithin hset.plainNames hsound (fun n => lookup?_of_vacant hv n)
      depth hasked c hresult
    exact hlineage.inheritsAttributes hset hid

/-! ## An extension, and a base that has become a list -/

section Extending

set_option maxRecDepth 100000

/-- The build in which a definition of a set is bound alone. -/
def buildOf (set : SchemaSet) (id : TypeId) (fieldName : String) : Build :=
  (Build.start .empty "s" #[]).after (load ⟨set, .empty⟩ id fieldName)

/-- The extension is bound after its base. -/
theorem extension_facts :
    (Build.start .empty "s" #[]).resultOf (load ⟨plainSet, .empty⟩ ⟨47⟩ "r") =
      .ok (.complex ⟨1⟩) ∧
    47 < plainSet.types.size ∧ (sourceOf plainSet).elements.entries = [("r", ⟨0⟩)] ∧
    (plainSet.element ⟨0⟩).type = ⟨47⟩ ∧ (plainSet.element ⟨0⟩).name = "r" := by
  decide +kernel

/-- The base becomes a list, though it uses an attribute. -/
theorem base_facts :
    (SchemaSet.readText (extendingText " maxOccurs=\"unbounded\"")).isOk = true ∧
    (sourceOf listSet).elements.entries = [("r", ⟨0⟩)] ∧
    (listSet.element ⟨0⟩).type = ⟨47⟩ ∧
    typeName listSet (listSet.type ⟨47⟩) (listSet.element ⟨0⟩).name = .ok "D" ∧
    listSet.baseOf ⟨47⟩ = ⟨46⟩ ∧ (listSet.type ⟨46⟩).complex?.isSome = true ∧
    (Build.start .empty "s" #[]).resultOf (load ⟨listSet, .empty⟩ ⟨46⟩ "D") =
      .ok (.list ⟨0⟩) ∧
    (listSet.attributeUses ⟨46⟩).map listSet.useName = ["a"] := by
  decide +kernel

/-- The extension has the attribute of its base and its own, when its schema is compiled, and when
it is bound alone. -/
theorem inherited_attributes_plain :
    (let store := (compile .empty .standard ⟨"s", "p", false⟩ plainSet #[]).2.1.store
      let v : View := ⟨.empty, store, []⟩
      ∃ id, MadeOf plainSet (sourceOf plainSet) v id ⟨1⟩ ∧
        InheritsAttributes plainSet v id ⟨1⟩) ∧
    InheritsAttributes plainSet
      ((Build.start .empty "s" #[]).view (buildOf plainSet ⟨47⟩ "r")) ⟨47⟩ ⟨1⟩ := by
  obtain ⟨-, hwhole, hextended, -⟩ := plain_facts
  obtain ⟨hresult, hsize, hentries, htype, hname⟩ := extension_facts
  obtain ⟨-, -, -, hnameD, -⟩ := id hextended
  have hasked : Asked plainSet (sourceOf plainSet) ⟨47⟩ "r" :=
    htype ▸ hname ▸ asked_of_entries hentries
  refine ⟨?_, ?_⟩
  · refine (inherited_attributes ⟨rfl, rfl⟩ accepted_plain).1 .standard ⟨"s", "p", false⟩ #[] _ _ _
      hwhole.compile_eq hwhole.main_eq ⟨1⟩ hextended.intact fun owner hitem => ?_
    exact Naming.ne_anonymousListItem (by decide) owner (hnameD.symm.trans hitem)
  · exact (@inherited_attributes .empty ⟨rfl, rfl⟩ _ accepted_plain).2 "s" #[] _ _ ⟨47⟩ "r" ⟨1⟩
      hsize hasked hresult

/-- A schema with a type that has an attribute, and a restriction of it that requires the attribute.
-/
def redeclaringText : String :=
  "<schema xmlns=\"http://www.w3.org/2001/XMLSchema\" xmlns:t=\"t\" targetNamespace=\"t\">" ++
  "<complexType name=\"B\"><attribute name=\"a\" type=\"string\"/></complexType>" ++
  "<complexType name=\"D\"><complexContent><restriction base=\"t:B\">" ++
  "<attribute name=\"a\" type=\"string\" use=\"required\"/>" ++
  "</restriction></complexContent></complexType><element name=\"r\" type=\"t:D\"/></schema>"

/-- The set of the schema. -/
def redeclaringSet : SchemaSet := .ofText redeclaringText

/-- The restriction is bound below its base. One attribute is merged for either type, and the
restriction uses it itself. -/
theorem redeclaring_facts :
    (SchemaSet.readText redeclaringText).isOk = true ∧ 47 < redeclaringSet.types.size ∧
    (sourceOf redeclaringSet).elements.entries = [("r", ⟨0⟩)] ∧
    (redeclaringSet.element ⟨0⟩).type = ⟨47⟩ ∧ (redeclaringSet.element ⟨0⟩).name = "r" ∧
    (Build.start .empty "s" #[]).resultOf (load ⟨redeclaringSet, .empty⟩ ⟨47⟩ "r") =
      .ok (.complex ⟨1⟩) ∧
    ((buildOf redeclaringSet ⟨47⟩ "r").store.complex ⟨1⟩).super = some ⟨0⟩ ∧
    ((buildOf redeclaringSet ⟨47⟩ "r").store.complex ⟨0⟩).super = none ∧
    (redeclaringSet.attributeUses (redeclaringSet.baseOf ⟨47⟩)).map redeclaringSet.useName = ["a"] ∧
    (redeclaringSet.ownUses ⟨47⟩).map redeclaringSet.useName = ["a"] ∧
    (redeclaringSet.attributeUses ⟨47⟩).map redeclaringSet.useName = ["a"] := by
  decide +kernel

/-- A complex type may have two fields for an attribute: one that it redeclares below its super
type. -/
theorem not_forall_attributeFields :
    ¬ ∀ set, SchemaSet.Accepted set → ∀ schemaName log source id fieldName c, set.HasType id →
      Asked set source id fieldName →
      let first : Build := .start .empty schemaName log
      let last := first.after (load ⟨set, .empty⟩ id fieldName)
      first.resultOf (load ⟨set, .empty⟩ id fieldName) = .ok (.complex c) →
      ∃ uses attributes, AttributeFields set (first.view last) id (.complex c) uses attributes ∧
        (attributes.map Field.name).Perm ((set.attributeUses id).map set.useName) := by
  intro h
  obtain ⟨hread, hsize, hentries, htype, hname, hresult, hsuper, htop, hbase, hown, huses⟩ :=
    redeclaring_facts
  have hasked : Asked redeclaringSet (sourceOf redeclaringSet) ⟨47⟩ "r" :=
    htype ▸ hname ▸ asked_of_entries hentries
  obtain ⟨uses, attributes, hfields, hperm⟩ := h redeclaringSet (SchemaSet.accepted_ofText hread) "s"
    #[] _ ⟨47⟩ "r" _ hsize hasked hresult
  have hlength := hfields.length_eq hsuper htop
  rw [← List.length_map redeclaringSet.useName, hbase, ← List.length_map redeclaringSet.useName, hown,
    ← List.length_map Field.name, hperm.length_eq, huses] at hlength
  exact absurd hlength (by decide)

/-- A type may be without a field for an attribute that it uses: one that has become a list. -/
theorem not_forall_list_attributeFields :
    ¬ ∀ set, SchemaSet.Accepted set → ∀ schemaName log source id fieldName l,
      Asked set source id fieldName → (set.type id).complex?.isSome = true →
      let first : Build := .start .empty schemaName log
      let last := first.after (load ⟨set, .empty⟩ id fieldName)
      first.resultOf (load ⟨set, .empty⟩ id fieldName) = .ok (.list l) →
      ∃ uses attributes, AttributeFields set (first.view last) id (.list l) uses attributes ∧
        (attributes.map Field.name).Perm ((set.attributeUses id).map set.useName) := by
  intro h
  obtain ⟨hread, hentries, htype, hname, hbase, hcomplex, hresult, huses⟩ := base_facts
  have hasked : Asked listSet (sourceOf listSet) ⟨47⟩ (listSet.element ⟨0⟩).name :=
    htype ▸ asked_of_entries hentries
  obtain ⟨uses, attributes, hfields, hperm⟩ := h listSet (SchemaSet.accepted_ofText hread) "s" #[] _
    ⟨46⟩ "D" _ (hbase ▸ hasked.base hname) hcomplex hresult
  cases hfields
  rw [huses] at hperm
  exact absurd hperm.length_eq (by decide)

end Extending

end SchemaBinding.Binding
