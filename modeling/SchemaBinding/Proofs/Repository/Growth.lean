import SchemaBinding.Repository.Registry
import Mathlib.Data.List.Basic

/-!
# Growing stores

A store only gets more types and, in complex types, more fields. What has been said of a type by
its identity stays true, but for the fields of the one type that is being filled.

## Main definitions

* `Store.Has`: whether a reference is to a type of the store
* `ComplexType.Extends`: a complex type with further fields
* `Store.Grows`: a store with further types, and further fields in at most one type
* `Store.RefersTo`: one type mentions another
* `Store.Reaches`: what is mentioned by a type, by what it mentions, and so on

## Main results

* `Grows.refl`, `Grows.trans`, `Grows.ofFresh`: growth step by step
* `grows_addSimple`, `grows_addComplex`, `grows_addList`, `grows_addField`: the steps
* `Grows.nameOf_eq`, `Grows.schemaOf?_eq`, `Grows.visible?_eq`: what never changes
* `Grows.refersTo_iff`, `Grows.reaches`: what a type mentions, and what it reaches
-/

namespace SchemaBinding.Repository

/-- Whether a type has the fields of another one first, and else does not differ from it. -/
structure ComplexType.Extends (t t' : ComplexType) : Prop where
  name_eq : t'.name = t.name
  schema_eq : t'.schema = t.schema
  super_eq : t'.super = t.super
  fields_prefix : t.fields <+: t'.fields

theorem ComplexType.Extends.refl (t : ComplexType) : t.Extends t :=
  ⟨rfl, rfl, rfl, List.prefix_rfl⟩

theorem ComplexType.Extends.trans {t t' t'' : ComplexType} (h : t.Extends t')
    (h' : t'.Extends t'') : t.Extends t'' :=
  ⟨h'.name_eq.trans h.name_eq, h'.schema_eq.trans h.schema_eq, h'.super_eq.trans h.super_eq,
    h.fields_prefix.trans h'.fields_prefix⟩

namespace Store

/-- Whether a reference is to a type of the store. Primitives belong to all. -/
def Has (store : Store) : TypeRef → Prop
  | .primitive _ => True
  | .simple id => id.index < store.simples.size
  | .complex id => id.index < store.complexes.size
  | .list id => id.index < store.lists.size

/-- A store grows into another one: no type goes away, and none changes but that `target` may get
further fields. -/
structure Grows (target : Option ComplexId) (store store' : Store) : Prop where
  has : ∀ t, store.Has t → store'.Has t
  simple_eq : ∀ id, store.Has (.simple id) → store'.simple id = store.simple id
  list_eq : ∀ id, store.Has (.list id) → store'.list id = store.list id
  complex_eq : ∀ id, store.Has (.complex id) → some id ≠ target →
    store'.complex id = store.complex id
  extends_complex : ∀ id, store.Has (.complex id) → (store.complex id).Extends (store'.complex id)

namespace Grows

variable {target : Option ComplexId} {store store' store'' : Store}

@[refl] theorem refl (target : Option ComplexId) (store : Store) : Grows target store store :=
  ⟨fun _ h => h, fun _ _ => rfl, fun _ _ => rfl, fun _ _ _ => rfl, fun _ _ => .refl _⟩

theorem trans (h : Grows target store store') (h' : Grows target store' store'') :
    Grows target store store'' where
  has t ht := h'.has t (h.has t ht)
  simple_eq id ht := (h'.simple_eq id (h.has _ ht)).trans (h.simple_eq id ht)
  list_eq id ht := (h'.list_eq id (h.has _ ht)).trans (h.list_eq id ht)
  complex_eq id ht hne := (h'.complex_eq id (h.has _ ht) hne).trans (h.complex_eq id ht hne)
  extends_complex id ht := (h.extends_complex id ht).trans (h'.extends_complex id (h.has _ ht))

/-- A store in which no type gets fields may be one in which a type gets some. -/
theorem weaken (target : Option ComplexId) (h : Grows none store store') :
    Grows target store store' where
  has := h.has
  simple_eq := h.simple_eq
  list_eq := h.list_eq
  complex_eq id ht _ := h.complex_eq id ht (Option.some_ne_none id)
  extends_complex := h.extends_complex

/-- Fields of a type that a store did not have yet change no type of the store. -/
theorem ofFresh {id : ComplexId} (hid : ¬ store.Has (.complex id)) (h : Grows target store store')
    (h' : Grows (some id) store' store'') : Grows target store store'' where
  has t ht := h'.has t (h.has t ht)
  simple_eq i ht := (h'.simple_eq i (h.has _ ht)).trans (h.simple_eq i ht)
  list_eq i ht := (h'.list_eq i (h.has _ ht)).trans (h.list_eq i ht)
  complex_eq i ht hne := by
    have hi : some i ≠ some id := fun heq => hid (Option.some.inj heq ▸ ht)
    exact (h'.complex_eq i (h.has _ ht) hi).trans (h.complex_eq i ht hne)
  extends_complex i ht := (h.extends_complex i ht).trans (h'.extends_complex i (h.has _ ht))

/-! ## What never changes -/

theorem nameOf_eq (h : Grows target store store') {t : TypeRef} (ht : store.Has t) :
    store'.nameOf t = store.nameOf t := by
  cases t with
  | primitive p => rfl
  | simple id => exact congrArg SimpleType.name (h.simple_eq id ht)
  | complex id => exact (h.extends_complex id ht).name_eq
  | list id => exact congrArg ListType.name (h.list_eq id ht)

theorem schemaOf?_eq (h : Grows target store store') {t : TypeRef} (ht : store.Has t) :
    store'.schemaOf? t = store.schemaOf? t := by
  cases t with
  | primitive p => rfl
  | simple id => exact congrArg (fun s : SimpleType => some s.schema) (h.simple_eq id ht)
  | complex id => exact congrArg some (h.extends_complex id ht).schema_eq
  | list id => exact congrArg (fun l : ListType => some l.schema) (h.list_eq id ht)

/-- Published types are seen as they were. -/
theorem visible?_eq (h : Grows target store store') {registry : Registry} {schemaName n : String}
    (hr : ∀ t, registry.type? n = some t → store.Has t) :
    registry.visible? store' schemaName n = registry.visible? store schemaName n := by
  unfold Registry.visible?
  cases hn : registry.type? n with
  | none => rfl
  | some t => rw [Option.filter_some, Option.filter_some, h.schemaOf?_eq (hr t hn)]

end Grows

/-! ## The steps of growth -/

section Steps

variable {store : Store}

theorem has_addSimple (t : SimpleType) :
    (store.addSimple t).2.Has (.simple (store.addSimple t).1) := by
  simp [addSimple, Has]

theorem has_addComplex (t : ComplexType) :
    (store.addComplex t).2.Has (.complex (store.addComplex t).1) := by
  simp [addComplex, Has]

theorem has_addList (t : ListType) : (store.addList t).2.Has (.list (store.addList t).1) := by
  simp [addList, Has]

/-- The identity of a new complex type is new. -/
theorem not_has_addComplex (t : ComplexType) :
    ¬ store.Has (.complex (store.addComplex t).1) := by
  simp [addComplex, Has]

/-- The identity of a new simple type is new. -/
theorem not_has_addSimple (t : SimpleType) :
    ¬ store.Has (.simple (store.addSimple t).1) := by
  simp [addSimple, Has]

/-- The identity of a new list is new. -/
theorem not_has_addList (t : ListType) : ¬ store.Has (.list (store.addList t).1) := by
  simp [addList, Has]

theorem grows_addSimple (t : SimpleType) : Grows none store (store.addSimple t).2 := by
  refine ⟨?_, ?_, fun _ _ => rfl, fun _ _ _ => rfl, fun _ _ => .refl _⟩
  · rintro (p | id | id | id) h
    · trivial
    · exact Nat.lt_of_lt_of_le h (by simp [addSimple])
    · exact h
    · exact h
  · intro id h
    have hid : id.index < store.simples.size := h
    simp [simple, addSimple, Array.getElem?_push_lt hid, Array.getElem?_eq_getElem hid]

/-- A store grows by a complex type, and nothing else is touched. -/
theorem grows_addComplex (t : ComplexType) : Grows none store (store.addComplex t).2 := by
  have heq : ∀ id, store.Has (.complex id) →
      (store.addComplex t).2.complex id = store.complex id := by
    intro id h
    have hid : id.index < store.complexes.size := h
    simp [complex, addComplex, Array.getElem?_push_lt hid, Array.getElem?_eq_getElem hid]
  refine ⟨?_, fun _ _ => rfl, fun _ _ => rfl, fun id h _ => heq id h, ?_⟩
  · rintro (p | id | id | id) h
    · trivial
    · exact h
    · exact Nat.lt_of_lt_of_le h (by simp [addComplex])
    · exact h
  · intro id h
    rw [heq id h]
    exact .refl _

theorem grows_addList (t : ListType) : Grows none store (store.addList t).2 := by
  refine ⟨?_, fun _ _ => rfl, ?_, fun _ _ _ => rfl, fun _ _ => .refl _⟩
  · rintro (p | id | id | id) h
    · trivial
    · exact h
    · exact h
    · exact Nat.lt_of_lt_of_le h (by simp [addList])
  · intro id h
    have hid : id.index < store.lists.size := h
    simp [list, addList, Array.getElem?_push_lt hid, Array.getElem?_eq_getElem hid]

/-- A store grows by a field of the type that is open. -/
theorem grows_addField {target : ComplexId} (ht : store.Has (.complex target)) (field : Field) :
    Grows (some target) store (store.addField target field) := by
  refine ⟨?_, fun _ _ => rfl, fun _ _ => rfl, ?_, ?_⟩
  · rintro (p | id | id | id) h
    · trivial
    · exact h
    · exact Nat.lt_of_lt_of_le h (by simp [addField])
    · exact h
  · intro id _ hne
    rw [complex_addField store target id field ht, if_neg fun heq => hne (congrArg some heq)]
  · intro id _
    rw [complex_addField store target id field ht]
    split
    · next heq =>
      subst heq
      exact ⟨rfl, rfl, rfl, List.prefix_append _ _⟩
    · exact .refl _

end Steps

/-! ## What a type mentions -/

/-- One type mentions another: as its super type, as the type of a field, or as that of its
items. -/
inductive RefersTo (store : Store) : TypeRef → TypeRef → Prop
  | base {id : SimpleId} {t : TypeRef} : (store.simple id).super = some t →
      RefersTo store (.simple id) t
  | super {id above : ComplexId} : (store.complex id).super = some above →
      RefersTo store (.complex id) (.complex above)
  | field {id : ComplexId} {f : Field} : f ∈ (store.complex id).fields →
      RefersTo store (.complex id) f.type
  | item {id : ListId} : RefersTo store (.list id) (store.list id).item

/-- A type that gets no fields mentions what it did. -/
theorem Grows.refersTo_iff {target : Option ComplexId} {store store' : Store}
    (h : Grows target store store') {t u : TypeRef} (ht : store.Has t)
    (hne : ∀ id, target = some id → t ≠ .complex id) :
    store'.RefersTo t u ↔ store.RefersTo t u := by
  -- Only fields of `target` are new, and `t` is another type.
  have hcomplex : ∀ id, t = .complex id → store'.complex id = store.complex id := by
    rintro id rfl
    exact h.complex_eq id ht fun heq => hne id heq.symm rfl
  constructor
  · rintro (hs | hs | hf | _)
    · exact .base (h.simple_eq _ ht ▸ hs)
    · exact .super (hcomplex _ rfl ▸ hs)
    · exact .field (hcomplex _ rfl ▸ hf)
    · rw [h.list_eq _ ht]
      exact .item
  · rintro (hs | hs | hf | _)
    · exact .base ((h.simple_eq _ ht).symm ▸ hs)
    · exact .super ((hcomplex _ rfl).symm ▸ hs)
    · exact .field ((hcomplex _ rfl).symm ▸ hf)
    · rw [← h.list_eq _ ht]
      exact .item

/-- What is reached from a type: itself, and whatever is mentioned by what is reached. -/
inductive Reaches (store : Store) (t : TypeRef) : TypeRef → Prop
  | refl : Reaches store t t
  | step {u v : TypeRef} : Reaches store t u → RefersTo store u v → Reaches store t v

/-- What is reached from a type stays the same while the store grows, if all of it is in the
store. -/
theorem Grows.reaches {store store' : Store} (h : Grows none store store') {t u : TypeRef}
    (ht : ∀ v, store.Reaches t v → store.Has v) (hu : store'.Reaches t u) : store.Reaches t u := by
  induction hu with
  | refl => exact .refl
  | step _ hv ih => exact .step ih ((h.refersTo_iff (ht _ ih) nofun).mp hv)

end Store

end SchemaBinding.Repository
