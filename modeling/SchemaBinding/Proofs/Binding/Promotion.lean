import SchemaBinding.Proofs.Binding.Mentions
import SchemaBinding.Proofs.Binding.Tabulation
import SchemaBinding.Proofs.Xsd.BuiltinNames

/-!
# Complex types that become lists

A complex type comes into the scope before it is filled. When it has been filled it is still there,
unless it has no super type and its content is one repeated element: then a list of that element is
there instead. Other types come into the scope meanwhile, and some go again, but none of them comes
before it. So in both cases the result is in the place that the type was given at first.

## Main definitions

* `IsRepeatedElement`: content that consists of one repeated element
* `Turns`: what a complex type that is filled turns into
* `Placed`: what a complex definition is bound to, and where it is in the scope

## Main results

* `turns_makeContent`, `turns_makeAttributes`: content and attributes
* `turns_buildComplex`: a complex type
* `promotion_of_loadWithin`: a complex definition that is bound while a set is compiled
* `promotion_tags`: a list with bounds and a default value
-/

namespace SchemaBinding.Binding

open Repository (ComplexId ListId ListType Reachable Store TypeRef)
open Xsd (ElementId Occurs SchemaSet TypeId)

/-! ## Places in the scope -/

/-- Where the keys of a map have stayed in front, an entry has its place with what is under its key
now. -/
theorem getElem?_entries_of_keys {m m' : OrderedMap String TypeRef} {i : Nat} {k : String}
    {t t' : TypeRef} (hkeys : m.keys <+: m'.keys) (hentry : m.entries[i]? = some (k, t))
    (ht : m'.get? k = some t') : m'.entries[i]? = some (k, t') := by
  have hkey : m.keys[i]? = some k := by
    rw [OrderedMap.keys, List.getElem?_map, hentry]
    rfl
  have hkey' : m'.keys[i]? = some k := by
    obtain ⟨rest, heq⟩ := hkeys
    rw [← heq, List.getElem?_append_left (List.getElem?_eq_some_iff.mp hkey).1, hkey]
  rw [OrderedMap.keys, List.getElem?_map] at hkey'
  obtain ⟨⟨_, t''⟩, hentry', rfl⟩ := Option.map_eq_some_iff.mp hkey'
  have ht' := OrderedMap.get?_eq_some_iff.mpr (List.mem_of_getElem? hentry')
  rw [hentry', Option.some.inj (ht.symm.trans ht')]

/-- The content of a definition is a group of one particle, which is an element that may occur more
than once. Content without that of the base counts before the complete one. -/
def IsRepeatedElement (definition : Xsd.ComplexType) (occurs : Occurs) (e : ElementId) : Prop :=
  (∃ bounds compositor, definition.explicitContent.getD definition.content =
    .particle (.group bounds compositor [.element occurs e])) ∧ occurs.isMultiple = true

/-- What `target` turns into when it is filled by a definition, from a build `b` on. It stays what
it is, unless it has no super type and the content of the definition is one repeated element; then
it gives way to a list. What is in the scope stays in front. -/
inductive Turns (setting : Setting) (load : Loader) (target : ComplexId)
    (definition : Xsd.ComplexType) (b : Build) : TypeRef → Build → Prop
  | kept {b' : Build} : ((b.store.complex target).super = none →
        ∀ occurs e, ¬ IsRepeatedElement definition occurs e) →
      b.scope.locals.keys <+: b'.scope.locals.keys →
      Turns setting load target definition b (.complex target) b'
  | list {b' : Build} {occurs : Occurs} {e : ElementId} {item : TypeRef} {l : ListId} :
      (b.store.complex target).super = none → IsRepeatedElement definition occurs e →
      b.resultOf (load (setting.set.element e).type (setting.set.element e).name) = .ok item →
      b'.store.list l = ⟨(b.store.complex target).name, b.scope.schemaName, item,
        (setting.set.element e).name, (setting.set.element e).defaultValue, occurs.min,
        occurs.max⟩ →
      b.scope.locals.keys <+: b'.scope.locals.keys →
      Turns setting load target definition b (.list l) b'

section Filling

variable {setting : Setting} {load : Loader} {b b' : Build} {target : ComplexId}
  {definition : Xsd.ComplexType} {t : TypeRef}

theorem Build.Grows.keys_prefix {other : Option ComplexId} (h : Build.Grows other b b') :
    b.scope.locals.keys <+: b'.scope.locals.keys :=
  h.locals_prefix.map Prod.fst

theorem Turns.keys_prefix (h : Turns setting load target definition b t b') :
    b.scope.locals.keys <+: b'.scope.locals.keys := by
  cases h with
  | kept _ hkeys => exact hkeys
  | list _ _ _ _ hkeys => exact hkeys

/-! ## Filling a type -/

/-- A list takes the place of a complex type. -/
theorem turns_promote (hload : Loads setting load) (h : setting.Sound b)
    (ho : IsOpen b.store b.scope target) (hsuper : (b.store.complex target).super = none)
    {occurs : Occurs} {e : ElementId} (he : IsRepeatedElement definition occurs e) :
    Ends b (promote load target occurs (setting.set.element e)) fun r b' =>
      ∀ t, r = .ok t → Turns setting load target definition b t b' := by
  refine ends_promote (((hload b _ _ h).and (ends_self b _)).mono ?_)
  rintro r b₁ ⟨⟨hadv, -⟩, rfl, -⟩
  refine ⟨fun _ _ => ok_of_error, fun item hr => ?_⟩
  have htarget : b₁.store.complex target = b.store.complex target :=
    hadv.grows.store.complex_eq target ho.has (Option.some_ne_none _)
  let l := b₁.promotedList occurs (setting.set.element e) item target
  have hl : (b₁.store.addList l).2.list (b₁.store.addList l).1 = l := Store.list_addList _ _
  rintro _ ⟨⟩
  -- Binding the items has left the type as it was, so the list has its name.
  refine .list hsuper he hr (hl.trans ?_) ?_
  · rw [← hadv.grows.schemaName_eq, ← htarget]
    rfl
  · -- The name of the type is a key already, so the list adds none.
    have hname : (b.store.complex target).name ∈ b₁.scope.locals.keys := by
      refine Classical.byContradiction fun hmem => ?_
      have hnone := OrderedMap.get?_eq_none_iff.mpr hmem
      have hsome := hadv.grows.lookupLocal? ho.lookup_eq
      exact Option.some_ne_none _ (hsome.symm.trans hnone)
    have hkey : (b₁.store.addList l).2.nameOf (.list (b₁.store.addList l).1) =
        (b.store.complex target).name :=
      (congrArg ListType.name hl).trans (congrArg Repository.ComplexType.name htarget)
    have hkeys := OrderedMap.keys_insert_of_mem (.list (b₁.store.addList l).1) (hkey ▸ hname)
    exact hkeys ▸ hadv.grows.keys_prefix

theorem turns_makeContent (hload : Loads setting load) (h : setting.Sound b)
    (ho : IsOpen b.store b.scope target) (definition : Xsd.ComplexType) :
    Ends b (makeContent setting load definition target) fun r b' =>
      ∀ t, r = .ok t → Turns setting load target definition b t b' := by
  -- Only a group has an element that may be repeated.
  have hkept (hc : ∀ p, definition.explicitContent.getD definition.content ≠ .particle p) :
      Turns setting load target definition b (.complex target) b := by
    refine .kept (fun _ occurs e he => ?_) List.prefix_rfl
    obtain ⟨⟨_, _, hcontent⟩, -⟩ := he
    exact hc _ hcontent
  unfold makeContent
  split
  · next hc =>
    rintro _ ⟨⟩
    exact hkept fun p hp => by cases hc.symm.trans hp
  · next hc =>
    rintro _ ⟨⟩
    exact hkept fun p hp => by cases hc.symm.trans hp
  · next bounds compositor children hc =>
    have hsole {occurs : Occurs} {e : ElementId} : IsRepeatedElement definition occurs e ↔
        soleRepeated? children = some (occurs, e) := by
      rw [soleRepeated?_eq_some_iff]
      constructor
      · rintro ⟨⟨_, _, hcontent⟩, hm⟩
        cases hc.symm.trans hcontent
        exact ⟨rfl, hm⟩
      · rintro ⟨rfl, hm⟩
        exact ⟨⟨bounds, compositor, hc⟩, hm⟩
    unfold addContent
    rw [ends_bind, ends_get]
    dsimp only
    split
    · next hsuper hs => exact turns_promote hload h ho hsuper (hsole.mpr hs)
    · next hnot =>
      rw [ends_bind, ends_liftState]
      apply (advances_addParticles hload children h ho).mono
      rintro _ b₁ hadv _ ⟨⟩
      exact .kept (fun hsuper occurs e he => hnot occurs e hsuper (hsole.mp he))
        hadv.grows.keys_prefix
  · exact fun t ht => by cases ht

/-- Attributes are added to a type that has stayed what it is. -/
theorem turns_makeAttributes (hload : Loads setting load) (ho : IsOpen b.store b.scope target)
    (hf : Fills setting target b (.ok t) b') (h : Turns setting load target definition b t b')
    (id : TypeId) :
    Ends b' (makeAttributes setting load id definition target t) fun r b'' =>
      r = .ok ⟨⟩ → Turns setting load target definition b t b'' := by
  unfold makeAttributes
  rw [ends_bind, ends_get]
  dsimp only
  cases h with
  | kept hnot hkeys =>
    have hlist : ¬ (TypeRef.complex target).isList = true := Bool.false_ne_true
    rw [if_neg hlist]
    apply (advances_addAttributes hload _ _ hf.sound (hf.isOpen ho)).mono
    exact fun r b₂ hadv _ => .kept hnot (hkeys.trans hadv.grows.keys_prefix)
  | @list _ _ _ _ l hsuper he hitem hl hkeys =>
    have hlist : (TypeRef.list l).isList = true := rfl
    rw [if_pos hlist]
    split
    · exact fun _ => .list hsuper he hitem hl hkeys
    · exact fun _ => .list hsuper he hitem hl hkeys

theorem turns_fillComplex (hload : Loads setting load) (h : setting.Sound b)
    (ho : IsOpen b.store b.scope target) (hfields : (b.store.complex target).fields = [])
    (id : TypeId) (definition : Xsd.ComplexType) :
    Ends b (fillComplex setting load id definition target) fun r b' =>
      ∀ t, r = .ok t → Turns setting load target definition b t b' := by
  unfold fillComplex
  rw [ends_bind]
  apply ((fills_makeContent hload h ho hfields definition).and
    (turns_makeContent hload h ho definition)).mono
  rintro (failure | t) b₁ ⟨hf, hturns⟩
  · exact ok_of_error
  · dsimp only
    rw [ends_bind]
    apply (turns_makeAttributes hload ho hf (hturns t rfl) id).mono
    rintro (failure | _) b₂ hturns
    · exact ok_of_error
    · rintro _ ⟨⟩
      exact hturns rfl

/-! ## Complex types -/

/-- A complex type that is built has been opened after its super type, and what it has turned into
is under its name. -/
theorem turns_buildComplex {depth : Nat} {id : TypeId} {name : String}
    (hset : setting.set.PlainNames) (h : setting.Sound b) (hname : NewName setting b name)
    (definition : Xsd.ComplexType) :
    Ends b (buildComplex setting (loadWithin setting depth) id name definition) fun r b' =>
      ∀ t, r = .ok t → b'.scope.lookupLocal? name = some t ∧ ∃ super,
        b.resultOf (complexSuper setting.set (loadWithin setting depth) id name) = .ok super ∧
        (afterSuper setting depth id name b).scope.lookupLocal? name = none ∧
        Turns setting (loadWithin setting depth)
          ((afterSuper setting depth id name b).nextComplex name super) definition
          ((afterSuper setting depth id name b).opened name super) t b' := by
  have hload := loads_loadWithin hset depth
  let b₁ := afterSuper setting depth id name b
  refine ends_buildComplex_afterSuper hset h (fun _ _ _ => ok_of_error) ?_
  intro super hsuper hadv hsettled hn
  have hopened : Advances setting none b₁ (b₁.opened name super) :=
    hadv.openedNamed h hname hn hsettled
  have ho := isOpen_opened name super b₁
  have hstub := b₁.complex_opened name super
  have hfields : ((b₁.opened name super).store.complex (b₁.nextComplex name super)).fields = [] :=
    congrArg Repository.ComplexType.fields hstub
  apply ((fills_fillComplex hload hopened.sound ho hfields id definition).and
    (turns_fillComplex hload hopened.sound ho hfields id definition)).mono
  rintro (failure | t) b₂ ⟨hf, hturns⟩
  · exact ok_of_error
  · rintro _ ⟨⟩
    have hlookup := hf.lookup_eq t rfl
    rw [hstub] at hlookup
    exact ⟨hlookup, super, hsuper, hn, hturns t rfl⟩

end Filling

/-! ## Definitions of the schema language -/

/-- A complex definition that belongs to the namespace of the schema language stands for no
primitive: the built-in types that do are simple, and no document defines them again. -/
theorem primitiveFor_of_complex {set : SchemaSet} (hset : set.Accepted) {id : TypeId}
    {definition : Xsd.ComplexType} (hkind : (set.type id).kind = .complex definition)
    (hns : (set.type id).namespaceUri = Xsd.schemaNamespace) {fieldName name : String}
    (hname : typeName set (set.type id) fieldName = .ok name) :
    primitiveFor name = .error (.unknownPrimitive name) := by
  have hall : ∀ p ∈ Repository.Primitive.builtins, ∀ n ∈ p.2,
      Xsd.Builtin.isBuiltin n = true ∧ n ≠ Xsd.Builtin.anyType ∧ '#' ∉ n.toList := by
    decide +kernel
  unfold primitiveFor
  cases hp : Repository.Primitive.ofBuiltin? name with
  | none => rfl
  | some p =>
    obtain ⟨entry, hentry, -⟩ := Option.map_eq_some_iff.mp hp
    obtain ⟨hbuiltin, hany, hhash⟩ := hall entry (List.mem_of_find?_eq_some hentry) name
      (by simpa using List.find?_some hentry)
    rcases typeName_eq_ok hname with hnamed | ⟨owner, rfl⟩
    · by_cases hid : set.HasType id
      · obtain ⟨hid, hheading⟩ := hset.heading_of_isBuiltin hid hns hnamed hbuiltin
        rcases Xsd.SchemaSet.isSimple_or_anyType hid with hsimple | hname
        · have hsimple : (set.type id).isSimple = true := (congrArg (·.2.2) hheading).trans hsimple
          rw [Xsd.TypeDefinition.isSimple_eq, hkind] at hsimple
          cases hsimple
        · exact absurd (Option.some.inj
            ((hnamed.symm.trans (congrArg (·.1) hheading)).trans hname)) hany
      · rw [SchemaSet.type_of_not_hasType hid] at hnamed
        exact absurd (Option.some.inj hnamed).symm hany
    · -- A synthesized name is none of a built-in type.
      refine absurd ?_ hhash
      simp [Naming.anonymousType]

/-! ## Definitions that are bound -/

/-- What a complex definition is bound to, `t`, from a build `b` to a build `b'`. The definition is
bound under a name; its super type comes first, then the type comes into the scope, and `target` and
`place` say which type and where. -/
structure Placed (setting : Setting) (depth : Nat) (id : TypeId) (definition : Xsd.ComplexType)
    (name : String) (b b' : Build) (t : TypeRef) (super : Option ComplexId) (target : ComplexId)
    (place : Nat) : Prop where
  super_eq : b.resultOf (complexSuper setting.set (loadWithin setting depth) id name) = .ok super
  target_eq : b.resultOf (openNamed setting depth id name) = .ok target
  opened_at : (b.after (openNamed setting depth id name)).scope.locals.entries[place]? =
    some (name, .complex target)
  isList_iff : t.isList = true ↔ super = none ∧ ∃ occurs e, IsRepeatedElement definition occurs e
  complex : t.isList = false → t = .complex target
  list : ∀ l, t = .list l → ∃ occurs e item, IsRepeatedElement definition occurs e ∧
    (b.after (openNamed setting depth id name)).resultOf (loadWithin setting depth
      (setting.set.element e).type (setting.set.element e).name) = .ok item ∧
    b'.store.list l = ⟨name, b.scope.schemaName, item, (setting.set.element e).name,
      (setting.set.element e).defaultValue, occurs.min, occurs.max⟩
  lookup_eq : b'.scope.lookupLocal? name = some t
  entry_at : b'.scope.locals.entries[place]? = some (name, t)

/-- What a complex type has turned into is in the place where the type was opened. -/
theorem Turns.placed {setting : Setting} {depth : Nat} {id : TypeId} {name : String}
    {definition : Xsd.ComplexType} {b b' : Build} {t : TypeRef} {super : Option ComplexId}
    (hset : setting.set.PlainNames) (hb : setting.Sound b)
    (hsuper : b.resultOf (complexSuper setting.set (loadWithin setting depth) id name) = .ok super)
    (hn : (afterSuper setting depth id name b).scope.lookupLocal? name = none)
    (hturns : Turns setting (loadWithin setting depth)
      ((afterSuper setting depth id name b).nextComplex name super) definition
      ((afterSuper setting depth id name b).opened name super) t b')
    (hlookup : b'.scope.lookupLocal? name = some t) :
    ∃ place, Placed setting depth id definition name b b' t super
      ((afterSuper setting depth id name b).nextComplex name super) place := by
  obtain ⟨htarget, hopened⟩ := openNamed_of_none hsuper hn
  obtain ⟨hadv, -⟩ := advances_afterSuper hset hb depth id name
  let b₁ := afterSuper setting depth id name b
  have hstub : (b₁.opened name super).store.complex (b₁.nextComplex name super) =
    b₁.stub name super := b₁.complex_opened name super
  have hopen := (isOpen_opened name super b₁).lookup_eq
  rw [hstub] at hopen
  obtain ⟨place, hplace⟩ := List.mem_iff_getElem?.mp (OrderedMap.get?_eq_some_iff.mp hopen)
  have hname : b₁.scope.schemaName = b.scope.schemaName := hadv.grows.schemaName_eq
  have hplaced : b'.scope.locals.entries[place]? = some (name, t) :=
    getElem?_entries_of_keys hturns.keys_prefix hplace hlookup
  refine ⟨place, hsuper, htarget, hopened ▸ hplace, ?_, ?_, ?_, hlookup, hplaced⟩
  · cases hturns with
    | kept hnot =>
      rw [hstub] at hnot
      exact iff_of_false Bool.false_ne_true fun ⟨hnone, occurs, e, he⟩ => hnot hnone occurs e he
    | list hnone he =>
      rw [hstub] at hnone
      exact iff_of_true rfl ⟨hnone, _, _, he⟩
  · intro hlist
    cases hturns with
    | kept => rfl
    | list => cases hlist
  · rintro l rfl
    cases hturns with
    | list _ he hitem hl =>
      rw [hstub] at hl
      rw [hopened]
      exact ⟨_, _, _, he, hitem, hname ▸ hl⟩

/-- **When a complex definition is bound to a list.** Whatever has been compiled before and whatever
has been built of the schema: if a complex definition under whose name nothing is found is bound, it
is bound to a list just if no super type has been bound for it and its content, without that of its
base if there is such, is a group of one particle, an element that may occur more than once. The
list has the name of the definition, name and default value of the element, the bounds of the
particle, and as items what the type of the element has been bound to. Whether it is bound to a list
or to a complex type, this is what the scope has under the name, in the place where the type was
opened before it was filled. -/
theorem promotion_of_loadWithin {r : Repository} (hr : Reachable r) {set : SchemaSet}
    (hset : set.Accepted) (request : Request) (log : Log) {b : Build}
    (hb : Reached ⟨set, r.registry⟩ (.start r.store request.name log) b) (depth : Nat)
    (id : TypeId) (fieldName : String) {definition : Xsd.ComplexType}
    (hkind : (set.type id).kind = .complex definition) {name : String}
    (hname : typeName set (set.type id) fieldName = .ok name)
    (hlookup : b.scope.lookup? b.store r.registry name = none) {t : TypeRef}
    (hresult : b.resultOf (loadWithin ⟨set, r.registry⟩ depth id fieldName) = .ok t) :
    ∃ inner super target place, depth = inner + 1 ∧
      Placed ⟨set, r.registry⟩ inner id definition name b
        (b.after (loadWithin ⟨set, r.registry⟩ depth id fieldName)) t super target place := by
  let setting : Setting := ⟨set, r.registry⟩
  have hnames : setting.set.PlainNames := hset.plainNames
  have hsound := hb.sound hnames (sound_start hr.consistent.fits request.name log)
  cases depth with
  | zero => cases hresult
  | succ inner =>
    have hloaded : Ends b (loadStep setting (loadWithin setting inner) id fieldName) fun r b' =>
        ∀ t, r = .ok t → ∃ super target place,
          Placed setting inner id definition name b b' t super target place := by
      refine ends_loadStep (fun _ _ => ok_of_error) ?_ ?_ ?_
      · intro name' found hname' hfound
        obtain rfl : name = name' := Except.ok.inj (hname.symm.trans hname')
        cases hlookup.symm.trans hfound
      · -- A definition of the schema language would be bound to a primitive, but to none there is.
        intro name' hname' _ hns
        rw [primitiveFor_of_complex hset hkind hns hname']
        exact ok_of_error
      · intro name' hname' _ hns
        obtain rfl : name = name' := Except.ok.inj (hname.symm.trans hname')
        have hnew : NewName setting b name := Fresh.newName hnames ⟨hname, hlookup, hns⟩
        rw [ends_bind]
        unfold buildType
        simp only [show (setting.set.type id).kind = .complex definition from hkind]
        apply ((enters_buildComplex (loads_loadWithin hnames inner) hsound hnew id definition).and
          (turns_buildComplex hnames hsound hnew definition)).mono
        rintro (failure | t) b₁ ⟨⟨hadv, -⟩, hbuilt⟩
        · exact ok_of_error
        · obtain ⟨hlocal, super, hsuper, hn, hturns⟩ := hbuilt t rfl
          dsimp only
          rw [ends_bind, ends_register_of_self ((hadv.sound.nameOf_eq _ _ hlocal).symm ▸ hlocal)]
          rintro _ ⟨⟩
          exact ⟨super, _, hturns.placed hnames hsound hsuper hn hlocal⟩
    obtain ⟨super, target, place, hplaced⟩ := hloaded t hresult
    exact ⟨inner, super, target, place, rfl, hplaced⟩

/-! ## A list with bounds and a default value -/

/-- A schema with a type of two to ten elements, of which each has a default value. -/
def tagsText : String :=
  "<schema xmlns=\"http://www.w3.org/2001/XMLSchema\" xmlns:t=\"t\" targetNamespace=\"t\">" ++
  "<complexType name=\"T\"><sequence><element name=\"tag\" type=\"string\" default=\"none\" " ++
  "minOccurs=\"2\" maxOccurs=\"10\"/></sequence></complexType></schema>"

/-- The set of that schema, as the first one that is compiled. -/
def tagsSetting : Setting := ⟨.ofText tagsText, .empty⟩

/-- The build of that schema when the type has been bound. -/
def tagsBuild : Build := (Build.start .empty "s" #[]).after (load tagsSetting ⟨46⟩ "e")

section Tags

set_option maxRecDepth 100000

theorem tags_facts : (SchemaSet.readText tagsText).isOk = true ∧
    (tagsSetting.set.type ⟨46⟩).complex?.isSome = true ∧
    typeName tagsSetting.set (tagsSetting.set.type ⟨46⟩) "e" = .ok "T" ∧
    (Build.start .empty "s" #[]).resultOf (load tagsSetting ⟨46⟩ "e") = .ok (.list ⟨0⟩) := by
  decide +kernel

/-- The type is bound to a list of its element, which is in its place. -/
theorem promotion_tags : ∃ definition occurs e item, ∃ place : Nat,
    IsRepeatedElement definition occurs e ∧
    tagsBuild.store.list ⟨0⟩ = ⟨"T", "s", item, (tagsSetting.set.element e).name,
      (tagsSetting.set.element e).defaultValue, occurs.min, occurs.max⟩ ∧
    tagsBuild.scope.locals.entries[place]? = some ("T", TypeRef.list ⟨0⟩) := by
  obtain ⟨hread, hcomplex, hname, hresult⟩ := tags_facts
  obtain ⟨definition, hkind⟩ := exists_of_complex? hcomplex
  obtain ⟨inner, super, target, place, -, hplaced⟩ := promotion_of_loadWithin .empty
    (SchemaSet.accepted_ofText hread) ⟨"s", "p", false⟩ #[] .start (depthOf tagsSetting.set) ⟨46⟩
    "e" hkind hname rfl hresult
  obtain ⟨occurs, e, item, he, -, hlist⟩ := hplaced.list ⟨0⟩ rfl
  exact ⟨definition, occurs, e, item, place, he, hlist, hplaced.entry_at⟩

end Tags

end SchemaBinding.Binding
