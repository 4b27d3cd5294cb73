import Mathlib.Data.List.Nodup
import SchemaBinding.Proofs.Binding.Lineage

/-!
# What diagnostics describe

The diagnostics of a schema are those of declarations that the complex types made for it have left
out, and of global declarations. A declaration that a type leaves out is no field of the type, and
is left out once. But a type may be dropped, with all that was made for it, when a type that it is
part of cannot be built, and be made again later on: then the diagnostics are those of both, and the
second one may have a field where the first one had none. So the diagnostics under the name of a
type describe it if no other type of that name has been made.

## Main definitions

* `Distinct`: the declarations of each type, and the global ones, have different names
* `MadeOnce`: no other type of its name has been made
* `Describes`: what diagnostics say of the types that have been made

## Main results

* `Titled.slash_not_mem`: the names of complex types
* `Concluded.describes`: a build that has come to its end
* `diagnostics_describe`: compiled schemas
* `not_forall_describes`: a type that is made again
-/

namespace SchemaBinding.Binding

open Repository (ComplexId Field Registered Store)
open Xsd (AttributeUse Particle SchemaSet TypeId)
open Xsd.Particle (labels labelsAmong repeatedGroupsAmong)

/-! ## Names in diagnostics -/

/-- A label has no `#` and no `/` in its name, if it has one. -/
def PlainLabel (label : Option String) : Prop :=
  ∀ n, label = some n → '#' ∉ n.toList ∧ '/' ∉ n.toList

section Names

variable {set : SchemaSet} {source : Xsd.Schema}

mutual

/-- The labels of a particle are plain, as they are names of elements. -/
theorem plain_labels (hset : set.NCNames) (p : Particle) : ∀ l ∈ p.labels set, PlainLabel l := by
  match p with
  | .element occurs e =>
    unfold labels
    rintro l hl n rfl
    obtain rfl := Option.some.inj (List.mem_singleton.mp hl)
    exact ⟨hset.not_mem_element (by decide) e, hset.not_mem_element (by decide) e⟩
  | .group occurs compositor children =>
    unfold labels
    split
    · rintro l hl n rfl
      cases List.mem_singleton.mp hl
    · exact plain_labelsAmong hset children
  | .wildcard occurs =>
    unfold labels
    exact nofun

theorem plain_labelsAmong (hset : set.NCNames) (ps : List Particle) :
    ∀ l ∈ labelsAmong set ps, PlainLabel l := by
  match ps with
  | [] =>
    unfold labelsAmong
    exact nofun
  | p :: ps =>
    unfold labelsAmong
    intro l hl
    rcases List.mem_append.mp hl with hl | hl
    · exact plain_labels hset p l hl
    · exact plain_labelsAmong hset ps l hl

end

/-- The labels of attributes are plain, as they are names of attributes. -/
theorem plain_useLabels (hset : set.NCNames) (uses : List AttributeUse) :
    ∀ l ∈ useLabels set uses, PlainLabel l := by
  rintro l hl n rfl
  obtain ⟨use, -, heq⟩ := List.mem_map.mp hl
  obtain rfl := Option.some.inj heq
  exact ⟨hset.not_mem_attribute (by decide) _, hset.not_mem_attribute (by decide) _⟩

/-- Definitions are bound under names without `/`. -/
theorem slash_not_mem_typeName (hset : set.NCNames) {id : TypeId} {fieldName n : String}
    (hfield : '/' ∉ fieldName.toList) (h : typeName set (set.type id) fieldName = .ok n) :
    '/' ∉ n.toList := by
  have hanonymous : ∀ {owner : String}, '/' ∉ owner.toList →
      '/' ∉ (Naming.anonymousType owner).toList := by
    intro owner howner
    simpa [Naming.anonymousType] using howner
  unfold typeName at h
  split at h
  · next hn =>
    cases h
    exact hset.not_mem_type (by decide) hn
  · split at h
    · cases h
      exact hanonymous (hset.not_mem_element (by decide) _)
    · cases h
  · split at h
    · cases h
    · cases h
      exact hanonymous hfield

/-- A type is never asked for under a name with a slash in it. -/
theorem Asked.slash_not_mem (hset : set.NCNames) {id : TypeId} {fieldName : String}
    (h : Asked set source id fieldName) : '/' ∉ fieldName.toList := by
  induction h with
  | element _ => exact hset.not_mem_element (by decide) _
  | globalAttribute _ => exact hset.not_mem_attribute (by decide) _
  | base _ htype ih => exact slash_not_mem_typeName hset ih htype
  | mention _ hm _ =>
    cases hm with
    | element => exact hset.not_mem_element (by decide) _
    | use => exact hset.not_mem_attribute (by decide) _

/-- Complex types are opened under names without `/`. -/
theorem Titled.slash_not_mem (hset : set.NCNames) {n : String} (h : Titled set source n) :
    '/' ∉ n.toList := by
  induction h with
  | definition hasked htype => exact slash_not_mem_typeName hset (hasked.slash_not_mem hset) htype
  | items _ ih => simpa [Naming.anonymousListItem] using ih

/-- Global declarations have names without `/`. -/
theorem slash_not_mem_of_mem_keys (hset : set.Accepted) (hsource : source ∈ set.schemas) {n : String}
    (hn : n ∈ source.elements.keys ++ source.attributes.keys) : '/' ∉ n.toList := by
  have hlists := hset.wellFormed.listed source hsource
  rcases List.mem_append.mp hn with hn | hn
  · obtain ⟨⟨_, e⟩, he, rfl⟩ := List.mem_map.mp hn
    rw [← congrArg Prod.fst (hlists.elements _ _ he).2]
    exact hset.ncNames.not_mem_element (by decide) e
  · obtain ⟨⟨_, a⟩, ha, rfl⟩ := List.mem_map.mp hn
    rw [← congrArg Prod.fst (hlists.attributes _ _ ha).2]
    exact hset.ncNames.not_mem_attribute (by decide) a

end Names

/-! ## Paths -/

section Paths

variable {owner : String} {label label' : Option String}

theorem toList_path (owner part : String) :
    (s!"{owner}/{part}").toList = owner.toList ++ '/' :: part.toList := by
  show (owner ++ "/" ++ part).toList = _
  simp

/-- The path of a part has a slash in it, so it is no name. -/
theorem slash_mem_path (owner part : String) : '/' ∈ (s!"{owner}/{part}").toList := by
  rw [toList_path]
  exact List.mem_append_right _ List.mem_cons_self

/-- A part of a type is named without a slash, if the type is. -/
theorem slash_not_mem_partName (howner : '/' ∉ owner.toList) (hlabel : PlainLabel label) :
    '/' ∉ (partName owner label).toList := by
  cases label with
  | none => simpa [partName, Naming.anonymousList] using howner
  | some n => exact (hlabel n rfl).2

/-- The field of a repeated group has the name of no declaration. -/
theorem partName_injective (hlabel : PlainLabel label) (hlabel' : PlainLabel label')
    (h : partName owner label = partName owner label') : label = label' := by
  have hne : ∀ n, PlainLabel (some n) → n ≠ Naming.anonymousList owner := by
    rintro _ hn rfl
    exact (hn _ rfl).1 (by simp [Naming.anonymousList])
  cases label with
  | none =>
    cases label' with
    | none => rfl
    | some n => exact absurd h.symm (hne n hlabel')
  | some n =>
    cases label' with
    | none => exact absurd h (hne n hlabel)
    | some n' => exact congrArg some h

/-- A path has one `/`, so it names one type and one declaration of it. -/
theorem path_inj {part other label : String} (howner : '/' ∉ owner.toList)
    (hpart : '/' ∉ part.toList) (h : s!"{owner}/{part}" = s!"{other}/{label}") :
    owner = other ∧ part = label := by
  have hlists := congrArg String.toList h
  rw [toList_path, toList_path, List.append_cons_inj_of_notMem howner hpart] at hlists
  exact ⟨String.toList_injective hlists.1, String.toList_injective hlists.2.2⟩

end Paths

/-! ## What types have left out -/

/-- The declarations of a type have different names, those of the particles that it is made of as
well as those of its attributes, and it has one repeated group at most. The same holds of the items
of repeated groups. -/
def DistinctContent (set : SchemaSet) (id : TypeId) (definition : Xsd.ComplexType) : Prop :=
  (∀ hasSuper, (labelsAmong set (particlesOf definition) ++
    useLabels set (attributesToAdd set id hasSuper)).Nodup) ∧
  ∀ children ∈ repeatedGroupsAmong (particlesOf definition), (labelsAmong set children).Nodup

instance (set : SchemaSet) (id : TypeId) (definition : Xsd.ComplexType) :
    Decidable (DistinctContent set id definition) :=
  inferInstanceAs (Decidable (_ ∧ _))

/-- The declarations of each type have different names, and so have the global ones of the schema.
-/
structure Distinct (set : SchemaSet) (source : Xsd.Schema) : Prop where
  content : ∀ id definition, set.HasType id → (set.type id).kind = .complex definition →
    DistinctContent set id definition
  globals : (source.elements.keys ++ source.attributes.keys).Nodup

/-- A type with a repeated group is there; where there is none, `anyType` is read. -/
theorem hasType_of_repeatedGroup {set : SchemaSet} {id : TypeId} {definition : Xsd.ComplexType}
    {children : List Particle} (hkind : (set.type id).kind = .complex definition)
    (hm : children ∈ repeatedGroupsAmong (particlesOf definition)) : set.HasType id := by
  by_contra hnot
  rw [SchemaSet.type_of_not_hasType hnot] at hkind
  cases hkind
  exact absurd (show children ∈ [] from hm) List.not_mem_nil

/-- What an account says of the labels of a type: they are different, and each one is used for a
field or left out at most. -/
structure Ledgered (v : View) (ledger : Ledger) (c : ComplexId) : Prop where
  slash_not_mem : '/' ∉ (v.store.complex c).name.toList
  plain : ∀ l ∈ omitted ledger c, PlainLabel l
  nodup : (omitted ledger c).Nodup
  fields : ∀ f ∈ (v.store.complex c).fields, ∀ l ∈ omitted ledger c,
    f.name ≠ partName (v.store.complex c).name l

section Accounts

variable {set : SchemaSet} {source : Xsd.Schema} {v : View} {ledger : Ledger} {c : ComplexId}

/-- The entries of a type that is charged have plain labels, each of them once, and none of a field
that the type has. -/
theorem Charged.ledgered {names : List (Option String)} (h : Charged v ledger c names)
    (hnodup : names.Nodup) (hplain : ∀ l ∈ names, PlainLabel l)
    (hslash : '/' ∉ (v.store.complex c).name.toList) : Ledgered v ledger c := by
  obtain ⟨used, hfields, hsub⟩ := h
  have hplain : ∀ l ∈ used ++ omitted ledger c, PlainLabel l := fun l hl => hplain l (hsub.subset hl)
  obtain ⟨sub, hperm, hsublist⟩ := hsub
  obtain ⟨-, hnodup, hdisjoint⟩ :=
    List.nodup_append.mp (hperm.nodup_iff.mp (hnodup.sublist hsublist))
  refine ⟨hslash, fun l hl => hplain l (List.mem_append_right _ hl), hnodup, fun f hf l hl heq => ?_⟩
  have hname := List.mem_map_of_mem (f := Field.name) hf
  rw [hfields] at hname
  obtain ⟨l', hl', hpart⟩ := List.mem_map.mp hname
  refine hdisjoint l' hl' l hl (partName_injective (hplain l' ?_) (hplain l ?_) (hpart.trans heq))
  · exact List.mem_append_left _ hl'
  · exact List.mem_append_right _ hl

/-- The entries of a type with an account are those of its parts. -/
theorem Account.ledgered {scope : Repository.Scope} (hset : set.Accepted)
    (hsource : source ∈ set.schemas) (hdistinct : Distinct set source)
    (h : Account set source v scope ledger c) : Ledgered v ledger c := by
  have hslash := h.titled.slash_not_mem hset.ncNames
  cases h with
  | definition hasked _ hkind _ _ hcharged =>
    have hid := hasked.hasType hset.wellFormed hsource
    refine hcharged.ledgered ((hdistinct.content _ _ hid hkind).1 _) (fun l hl => ?_) hslash
    rcases List.mem_append.mp hl with hl | hl
    · exact plain_labelsAmong hset.ncNames _ l hl
    · exact plain_useLabels hset.ncNames _ l hl
  | items _ _ hkind hm hcharged =>
    have hid := hasType_of_repeatedGroup hkind hm
    exact hcharged.ledgered ((hdistinct.content _ _ hid hkind).2 _ hm)
      (plain_labelsAmong hset.ncNames _) hslash

end Accounts

/-! ## Diagnostics -/

/-- A complex type that has been made, and no other one of its name. -/
def MadeOnce (v : View) (c : ComplexId) : Prop :=
  v.New c ∧ ∀ c', v.New c' → (v.store.complex c').name = (v.store.complex c).name → c' = c

/-- The declarations that diagnostics name. -/
def View.paths (v : View) : List String := v.diagnostics.map Diagnostic.declaration

/-- What diagnostics say of the types that have been made. Each one names a global declaration, or a
declaration in a type. The global ones are named once, and so are those in a type that has been made
once; none of these is a field of the type. -/
structure Describes (source : Xsd.Schema) (v : View) : Prop where
  origin : ∀ p ∈ v.paths, p ∈ source.elements.keys ++ source.attributes.keys ∨
    ∃ c, ∃ part : String, v.New c ∧ p = s!"{(v.store.complex c).name}/{part}"
  globals : ∀ n, '/' ∉ n.toList → v.paths.count n ≤ 1
  once : ∀ c, MadeOnce v c → ∀ part : String, v.paths.count s!"{(v.store.complex c).name}/{part}" ≤ 1
  fields : ∀ c, MadeOnce v c → ∀ f ∈ (v.store.complex c).fields,
    s!"{(v.store.complex c).name}/{f.name}" ∉ v.paths

/-- The entries of a type in a ledger, counted by the declarations that they are for. -/
theorem count_pathOf {store : Store} {ledger : Ledger} {c : ComplexId} {part : String}
    (h : ∀ e ∈ ledger, pathOf store e = s!"{(store.complex c).name}/{part}" →
      e.1 = c ∧ partName (store.complex c).name e.2 = part) :
    (ledger.map (pathOf store)).count s!"{(store.complex c).name}/{part}" =
      ((omitted ledger c).map (partName (store.complex c).name)).count part := by
  unfold omitted
  rw [List.map_map, List.count, List.count, List.countP_map, List.countP_map, List.countP_filter]
  refine List.countP_congr fun e he => ?_
  simp only [Function.comp_apply, beq_iff_eq, Bool.and_eq_true, decide_eq_true_eq]
  constructor
  · intro hpath
    obtain ⟨hc, hpart⟩ := h e he hpath
    exact ⟨hpart, hc⟩
  · rintro ⟨rfl, rfl⟩
    rfl

namespace Concluded

variable {set : SchemaSet} {source : Xsd.Schema} {first b : Build} {ledger : Ledger}
  {globals : List String} (h : Concluded set source first b ledger globals)
include h

/-- Whatever is in the ledger is a declaration of a type that has been made. -/
theorem new_of_mem {e : ComplexId × Option String} (he : e ∈ ledger) : (first.view b).New e.1 :=
  (h.books.author e he).resolve_left nofun

/-- Diagnostics are of the entries in the ledger and of global declarations. -/
theorem paths_perm :
    List.Perm (first.view b).paths (ledger.map (pathOf b.store) ++ globals) := by
  obtain ⟨ds, hds, hperm⟩ := h.books.diagnostics
  rw [h.diagnostics, List.nil_append] at hds
  unfold View.paths
  rw [show (first.view b).diagnostics = ds from hds]
  exact hperm

variable (hset : set.Accepted) (hsource : source ∈ set.schemas)
include hset hsource

theorem slash_not_mem {n : String} (hn : n ∈ globals) : '/' ∉ n.toList :=
  slash_not_mem_of_mem_keys hset hsource (h.globals.subset hn)

variable (hdistinct : Distinct set source)
include hdistinct

theorem ledgered {c : ComplexId} (hnew : (first.view b).New c) :
    Ledgered (first.view b) ledger c :=
  (h.books.account c hnew).ledgered hset hsource hdistinct

/-- A path in a type that has been made once is that of a declaration of this type. -/
theorem eq_of_path {c : ComplexId} (hc : MadeOnce (first.view b) c) {part : String}
    {e : ComplexId × Option String} (he : e ∈ ledger)
    (hpath : pathOf b.store e = s!"{(b.store.complex c).name}/{part}") :
    e.1 = c ∧ partName (b.store.complex c).name e.2 = part := by
  have hl := h.ledgered hset hsource hdistinct (h.new_of_mem he)
  have hplain := hl.plain e.2 (mem_omitted.mpr he)
  obtain ⟨hname, hpart⟩ :=
    path_inj hl.slash_not_mem (slash_not_mem_partName hl.slash_not_mem hplain) hpath
  exact ⟨hc.2 e.1 (h.new_of_mem he) hname, hname ▸ hpart⟩

/-- The diagnostics of a build that has come to its end. -/
theorem describes : Describes source (first.view b) := by
  have hperm := h.paths_perm
  refine ⟨fun p hp => ?_, fun n hn => ?_, fun c hc part => ?_, fun c hc f hf hp => ?_⟩
  · rcases List.mem_append.mp (hperm.subset hp) with hp | hp
    · obtain ⟨e, he, rfl⟩ := List.mem_map.mp hp
      exact .inr ⟨e.1, _, h.new_of_mem he, rfl⟩
    · exact .inl (h.globals.subset hp)
  · have hnone : n ∉ ledger.map (pathOf b.store) := by
      intro hm
      obtain ⟨e, -, rfl⟩ := List.mem_map.mp hm
      exact hn (slash_mem_path _ _)
    rw [hperm.count_eq, List.count_append, List.count_eq_zero.mpr hnone, Nat.zero_add]
    exact List.nodup_iff_count_le_one.mp (hdistinct.globals.sublist h.globals) n
  · have hnone : s!"{(b.store.complex c).name}/{part}" ∉ globals := fun hm =>
      h.slash_not_mem hset hsource hm (slash_mem_path _ _)
    have hl := h.ledgered hset hsource hdistinct hc.1
    have hcount := @count_pathOf b.store ledger c part fun e he hpath =>
      h.eq_of_path hset hsource hdistinct hc he hpath
    show (first.view b).paths.count s!"{(b.store.complex c).name}/{part}" ≤ 1
    rw [hperm.count_eq, List.count_append, List.count_eq_zero.mpr hnone, Nat.add_zero, hcount]
    refine List.nodup_iff_count_le_one.mp (hl.nodup.map_on fun l hm l' hm' heq => ?_) part
    exact partName_injective (hl.plain l hm) (hl.plain l' hm') heq
  · rcases List.mem_append.mp (hperm.subset hp) with hp | hp
    · obtain ⟨e, he, heq⟩ := List.mem_map.mp hp
      obtain ⟨rfl, hpart⟩ := h.eq_of_path hset hsource hdistinct hc he heq
      have hl := h.ledgered hset hsource hdistinct hc.1
      exact hl.fields f hf e.2 (mem_omitted.mpr he) hpart.symm
    · exact h.slash_not_mem hset hsource hp (slash_mem_path _ _)

end Concluded

/-- No declaration is named twice if no two types of one name have been made. -/
theorem Describes.nodup {source : Xsd.Schema} {v : View} (h : Describes source v)
    (hkeys : ∀ n ∈ source.elements.keys ++ source.attributes.keys, '/' ∉ n.toList)
    (hsole : ∀ c, v.New c → MadeOnce v c) : v.paths.Nodup := by
  rw [List.nodup_iff_count_le_one]
  intro p
  by_cases hp : p ∈ v.paths
  · rcases h.origin p hp with hn | ⟨c, part, hnew, rfl⟩
    · exact h.globals p (hkeys p hn)
    · exact h.once c (hsole c hnew) part
  · rw [List.count_eq_zero.mpr hp]
    exact Nat.zero_le 1

/-- **Diagnostics describe the compiled schema.** A set is compiled while no schema is registered,
and the declarations of its types, and the global ones, have different names. The complex types of
the schema are among those that have been made, under their names. No declaration of one that has
been made once is named by two diagnostics, and none that is named is a field of it. No global
declaration is named twice. If no two complex types of one name have been made, no declaration at
all is. -/
theorem diagnostics_describe {r : Repository} (hv : r.registry.Vacant) {set : SchemaSet}
    (hset : set.Accepted) (limits : Limits) (request : Request) (log : Log) {reg : Registered}
    {diagnostics : List Diagnostic}
    (h : (compile r limits request set log).1 = .ok ⟨some reg, diagnostics⟩) {source : Xsd.Schema}
    (hmain : mainSchema? set = some source) (hdistinct : Distinct set source) :
    let store := (compile r limits request set log).2.1.store
    let v : View := ⟨r.store, store, diagnostics⟩
    (∀ n c, reg.schema.types.get? n = some (.complex c) →
      v.New c ∧ (store.complex c).name = n) ∧
    Describes source v ∧ ((∀ c, v.New c → MadeOnce v c) → v.paths.Nodup) := by
  intro store v
  obtain ⟨source', first, b, ledger, globals, hmain', hb, hfirst, hstore, htypes, hdiagnostics⟩ :=
    concluded_of_compile hv hset.plainNames h
  cases hmain.symm.trans hmain'
  have hsource := mem_schemas_of_mainSchema? hmain
  have hview : first.view b = v := by
    rw [Build.view, hfirst, hstore, hdiagnostics]
  have hdescribes := hb.describes hset hsource hdistinct
  rw [hview] at hdescribes
  refine ⟨fun n c hn => ?_, hdescribes, fun hsole => ?_⟩
  · rw [← htypes] at hn
    have hname := hb.nameOf_eq n _ hn
    rw [hstore] at hname
    exact ⟨hview ▸ hb.new_of_lookup hn, hname⟩
  · exact hdescribes.nodup (fun n hn => slash_not_mem_of_mem_keys hset hsource hn) hsole

/-! ## A type that is made again -/

/-- A schema in which `T` is part of `A`, which has an attribute of a given type. The list that `T`
has can be bound only after its items, which are bound between `A` and another use of `T`. -/
def revivingText (type : String) : String :=
  "<schema xmlns=\"http://www.w3.org/2001/XMLSchema\" xmlns:t=\"t\" targetNamespace=\"t\">" ++
  "<complexType name=\"A\"><sequence><element name=\"t\" type=\"t:T\"/></sequence>" ++
  "<attribute name=\"q\" type=\"" ++ type ++ "\"/></complexType>" ++
  "<simpleType name=\"code\"><restriction base=\"string\"/></simpleType>" ++
  "<simpleType name=\"codes\"><list itemType=\"t:code\"/></simpleType>" ++
  "<complexType name=\"T\"><sequence><element name=\"l\" type=\"t:codes\"/></sequence>" ++
  "</complexType>" ++
  "<element name=\"first\" type=\"t:A\"/><element name=\"second\" type=\"t:code\"/>" ++
  "<element name=\"third\" type=\"t:T\"/></schema>"

/-- The set of the schema in which `A` can be built: `T` is made once, without its list. -/
def keptSet : SchemaSet := .ofText (revivingText "string")

/-- The set of the schema in which `A` cannot be built: `T` is dropped with it, and made again. -/
def revivedSet : SchemaSet := .ofText (revivingText "QName")

section Reviving

set_option maxRecDepth 100000

/-- The declarations of a set that is compiled have different names. -/
def CompilesDistinct (set : SchemaSet) : Prop :=
  Compiles set ∧ (∀ i < set.types.size, ∀ definition ∈ (set.type ⟨i⟩).complex?,
    DistinctContent set ⟨i⟩ definition) ∧
  ((sourceOf set).elements.keys ++ (sourceOf set).attributes.keys).Nodup

instance (set : SchemaSet) : Decidable (CompilesDistinct set) :=
  inferInstanceAs (Decidable (_ ∧ _ ∧ _))

theorem CompilesDistinct.distinct {set : SchemaSet} (h : CompilesDistinct set) :
    Distinct set (sourceOf set) := by
  refine ⟨fun id definition hid hkind => h.2.1 id.index hid definition ?_, h.2.2⟩
  unfold Xsd.TypeDefinition.complex?
  rw [hkind]
  rfl

/-- The list is left out of the type that is made once. -/
theorem kept_facts :
    (SchemaSet.readText (revivingText "string")).isOk = true ∧ CompilesDistinct keptSet ∧
    (viewOf keptSet).paths = ["T/l"] ∧ (viewOf keptSet).store.complexes.size = 2 ∧
    ∀ i < 2, ∀ j < 2, ((viewOf keptSet).store.complex ⟨i⟩).name =
      ((viewOf keptSet).store.complex ⟨j⟩).name → i = j := by
  decide +kernel

/-- The list is a field of the type that is made again. -/
theorem revived_facts :
    (SchemaSet.readText (revivingText "QName")).isOk = true ∧ CompilesDistinct revivedSet ∧
    (diagnosticsOf revivedSet).map Diagnostic.declaration = ["T/l", "first"] ∧
    (schemaOf revivedSet).schema.types.get? "T" = some (.complex ⟨2⟩) ∧
    ((compilationOf revivedSet).2.1.store.complex ⟨2⟩).fields.map Field.name = ["l"] := by
  decide +kernel

/-- The diagnostic describes the type that is made once. -/
theorem diagnostics_describe_kept : (viewOf keptSet).paths = ["T/l"] ∧
    Describes (sourceOf keptSet) (viewOf keptSet) ∧ (viewOf keptSet).paths.Nodup := by
  obtain ⟨hread, hcompiles, hpaths, hsize, hnames⟩ := kept_facts
  obtain ⟨-, hdescribes, hnodup⟩ := diagnostics_describe (r := .empty) ⟨rfl, rfl⟩
    (SchemaSet.accepted_ofText hread) .standard ⟨"s", "p", false⟩ #[] hcompiles.1.compile_eq
    hcompiles.1.main_eq hcompiles.distinct
  rw [compilationOf_eq] at hdescribes hnodup
  have hlt : ∀ c : ComplexId, (viewOf keptSet).New c → c.index < 2 := fun c hc => hsize ▸ hc.has
  have honce : ∀ c, (viewOf keptSet).New c → MadeOnce (viewOf keptSet) c := fun c hc =>
    ⟨hc, fun c' hc' hname =>
      congrArg ComplexId.mk (hnames c'.index (hlt c' hc') c.index (hlt c hc) hname)⟩
  exact ⟨hpaths, hdescribes, hnodup honce⟩

/-- A diagnostic may name a field of a type of the schema: that of a type which is made again. -/
theorem not_forall_describes :
    ¬ ∀ r : Repository, r.registry.Vacant → ∀ set, SchemaSet.Accepted set →
      ∀ limits request log reg diagnostics,
      (compile r limits request set log).1 = .ok ⟨some reg, diagnostics⟩ →
      ∀ source, mainSchema? set = some source → Distinct set source →
      let store := (compile r limits request set log).2.1.store
      let paths := diagnostics.map Diagnostic.declaration
      paths.Nodup ∧ ∀ n c, reg.schema.types.get? n = some (.complex c) →
        ∀ f ∈ (store.complex c).fields, s!"{n}/{f.name}" ∉ paths := by
  intro h
  obtain ⟨hread, hcompiles, hpaths, hT, hfields⟩ := revived_facts
  obtain ⟨-, hnone⟩ := h .empty ⟨rfl, rfl⟩ revivedSet (SchemaSet.accepted_ofText hread) .standard
    ⟨"s", "p", false⟩ #[] _ _ hcompiles.1.compile_eq _ hcompiles.1.main_eq hcompiles.distinct
  rw [compilationOf_eq] at hnone
  obtain ⟨f, hf, hname⟩ : ∃ f ∈ ((compilationOf revivedSet).2.1.store.complex ⟨2⟩).fields,
      f.name = "l" := List.mem_map.mp (hfields ▸ List.mem_cons_self)
  refine hnone "T" ⟨2⟩ hT f hf ?_
  rw [hpaths, hname]
  exact List.mem_cons_self

end Reviving

end SchemaBinding.Binding
