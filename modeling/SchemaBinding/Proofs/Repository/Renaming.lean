import SchemaBinding.Dump.Basic
import SchemaBinding.Proofs.MapValues
import SchemaBinding.Proofs.Repository.Growth
import SchemaBinding.Repository.Scope

/-!
# The same types in a grown store

What a build makes comes after the types that are in the store already. In a store that has grown in
between, the same types get other identities: they come after further types. All that can be said
of them by names stays the same, and so does the dump of a schema.

## Main definitions

* `Renaming`: other identities for types
* `Store.append`: the types of a store, then further ones
* `Shift`: a store that has grown in between, with the renaming of what comes after it
* `Shift.Mirrors`: two stores in which the same types come after those of each

## Main results

* `Shift.rename_inj`, `Shift.rename_of_has`: what the renaming of a shift does
* `Shift.Mirrors.nameOf_eq`, `Shift.Mirrors.complex_eq`, …: what the same types have
* `Shift.Mirrors.addSimple`, `Shift.Mirrors.addField`, …: the same changes of both
* `Shift.Mirrors.dump_eq`: dumps of schemas
-/

namespace SchemaBinding

namespace Repository

/-- Other identities for types, kind by kind. -/
structure Renaming where
  simple : SimpleId → SimpleId
  complex : ComplexId → ComplexId
  list : ListId → ListId

section Rename

variable (g : Renaming)

/-- A reference to a type by its other identity. -/
def TypeRef.rename : TypeRef → TypeRef
  | .primitive p => .primitive p
  | .simple id => .simple (g.simple id)
  | .complex id => .complex (g.complex id)
  | .list id => .list (g.list id)

/-- A field that refers to its type by the other identity. -/
def Field.rename (f : Field) : Field := { f with type := f.type.rename g }

/-- A simple type that refers to others by their other identities. -/
def SimpleType.rename (t : SimpleType) : SimpleType :=
  { t with super := t.super.map (·.rename g) }

/-- A complex type that refers to others by their other identities. -/
def ComplexType.rename (t : ComplexType) : ComplexType :=
  { t with super := t.super.map g.complex, fields := t.fields.map (·.rename g) }

/-- A list type that refers to its items by their other identity. -/
def ListType.rename (t : ListType) : ListType := { t with item := t.item.rename g }

/-- The types of a store with references by other identities. -/
def Store.rename (store : Store) : Store :=
  ⟨store.simples.map (·.rename g), store.complexes.map (·.rename g), store.lists.map (·.rename g)⟩

/-- A scope with the other identities of its types. -/
def Scope.rename (scope : Scope) : Scope :=
  { scope with locals := scope.locals.mapValues (·.rename g) }

/-- A schema with the other identities of its types. -/
def Schema.rename (s : Schema) : Schema :=
  { s with fields := s.fields.map (·.rename g), types := s.types.mapValues (·.rename g) }

@[simp] theorem TypeRef.rename_simple (id : SimpleId) :
    (TypeRef.simple id).rename g = .simple (g.simple id) :=
  rfl

@[simp] theorem TypeRef.rename_complex (id : ComplexId) :
    (TypeRef.complex id).rename g = .complex (g.complex id) :=
  rfl

@[simp] theorem TypeRef.rename_list (id : ListId) :
    (TypeRef.list id).rename g = .list (g.list id) :=
  rfl

@[simp] theorem TypeRef.kind_rename (t : TypeRef) : (t.rename g).kind = t.kind := by
  cases t <;> rfl

@[simp] theorem TypeRef.isList_rename (t : TypeRef) : (t.rename g).isList = t.isList := by
  cases t <;> rfl

end Rename

/-! ### The renaming that changes nothing -/

/-- The identities that types have. -/
def Renaming.id : Renaming := ⟨fun i => i, fun i => i, fun i => i⟩

@[simp] theorem TypeRef.rename_id (t : TypeRef) : t.rename .id = t := by
  cases t <;> rfl

@[simp] theorem Field.rename_id (f : Field) : f.rename .id = f := by
  simp [Field.rename]

@[simp] theorem SimpleType.rename_id (t : SimpleType) : t.rename .id = t := by
  simp [SimpleType.rename]

@[simp] theorem ComplexType.rename_id (t : ComplexType) : t.rename .id = t := by
  have hcomplex : Renaming.id.complex = fun c => c := rfl
  simp [ComplexType.rename, hcomplex]

@[simp] theorem ListType.rename_id (t : ListType) : t.rename .id = t := by
  simp [ListType.rename]

@[simp] theorem Store.rename_id (store : Store) : store.rename .id = store := by
  simp [Store.rename]

@[simp] theorem Schema.rename_id (s : Schema) : s.rename .id = s := by
  simp [Schema.rename]

namespace Store

/-- The types of a store, and after them those of another one. -/
def append (store part : Store) : Store :=
  ⟨store.simples ++ part.simples, store.complexes ++ part.complexes, store.lists ++ part.lists⟩

/-- Types that come after those of a store change none of these. -/
theorem grows_append (store part : Store) : store.Grows none (store.append part) := by
  have hcomplex : ∀ id : ComplexId, id.index < store.complexes.size →
      (store.append part).complex id = store.complex id := by
    intro id hid
    simp [complex, append, Array.getElem?_append_left hid]
  refine ⟨?_, ?_, ?_, fun id hid _ => hcomplex id hid, ?_⟩
  · rintro (p | id | id | id) h
    · trivial
    · exact Nat.lt_of_lt_of_le h (by simp [append])
    · exact Nat.lt_of_lt_of_le h (by simp [append])
    · exact Nat.lt_of_lt_of_le h (by simp [append])
  · intro id (hid : id.index < store.simples.size)
    simp [simple, append, Array.getElem?_append_left hid]
  · intro id (hid : id.index < store.lists.size)
    simp [list, append, Array.getElem?_append_left hid]
  · intro id hid
    rw [hcomplex id hid]
    exact .refl _

end Store

/-! ## Shifts -/

/-- A store, and what it has become by now. -/
structure Shift where
  old : Store
  new : Store
  grows : old.Grows none new

namespace Shift

/-- The place of what had the place `i`, if `n` things before it have become `n'` ones. -/
def move (n n' i : Nat) : Nat := if i < n then i else i - n + n'

/-- What comes before the place where stores differ is not moved. -/
theorem move_of_lt {n n' i : Nat} (h : i < n) : move n n' i = i := if_pos h

/-- What comes after it is moved as far as the places are apart. -/
theorem move_of_le {n n' i : Nat} (h : n ≤ i) : move n n' i = i - n + n' := if_neg (by omega)

theorem move_self (n i : Nat) : move n n i = i := by
  unfold move
  split <;> omega

/-- Nothing is moved to one place twice. -/
theorem move_inj {n n' i j : Nat} (h : n ≤ n') : move n n' i = move n n' j ↔ i = j := by
  unfold move
  split <;> split <;> omega

/-- What is found at the moved place after the things that were added. -/
theorem getD_move {α : Type} {xs xs' ys : Array α} {i : Nat} (h : ¬ i < xs.size) (f : α → α)
    (d : α) :
    (xs' ++ ys.map f)[move xs.size xs'.size i]?.getD (f d) = f ((xs ++ ys)[i]?.getD d) := by
  have hle := Nat.le_of_not_lt h
  rw [move_of_le hle, Array.getElem?_append_right hle, Array.getElem?_append_right (by omega),
    Nat.add_sub_cancel, Array.getElem?_map]
  cases ys[i - xs.size]? <;> rfl

/-- A change of something that comes after other things. -/
theorem modify_append {α : Type} {xs ys : Array α} {i : Nat} (h : ¬ i < xs.size) (f : α → α) :
    (xs ++ ys).modify i f = xs ++ ys.modify (i - xs.size) f := by
  apply Array.ext_getElem?
  intro j
  rw [Array.getElem?_modify, Array.getElem?_append, Array.getElem?_append, Array.getElem?_modify]
  grind

variable (s : Shift)

/-- The identities of what comes after the store, when it comes after what the store has become. -/
def ids : Renaming where
  simple id := ⟨move s.old.simples.size s.new.simples.size id.index⟩
  complex id := ⟨move s.old.complexes.size s.new.complexes.size id.index⟩
  list id := ⟨move s.old.lists.size s.new.lists.size id.index⟩

theorem simples_le : s.old.simples.size ≤ s.new.simples.size :=
  Nat.le_of_not_lt fun h => Nat.lt_irrefl _ (s.grows.has (.simple ⟨_⟩) h)

theorem complexes_le : s.old.complexes.size ≤ s.new.complexes.size :=
  Nat.le_of_not_lt fun h => Nat.lt_irrefl _ (s.grows.has (.complex ⟨_⟩) h)

theorem lists_le : s.old.lists.size ≤ s.new.lists.size :=
  Nat.le_of_not_lt fun h => Nat.lt_irrefl _ (s.grows.has (.list ⟨_⟩) h)

/-- A store that has not changed. -/
def refl (store : Store) : Shift := ⟨store, store, .refl _ _⟩

theorem ids_refl (store : Store) : (refl store).ids = .id := by
  simp [ids, refl, Renaming.id, move_self]

/-- What is in the store keeps its identity. -/
theorem rename_of_has {t : TypeRef} (h : s.old.Has t) : t.rename s.ids = t := by
  cases t with
  | primitive p => rfl
  | simple id => exact congrArg (fun i => TypeRef.simple ⟨i⟩) (move_of_lt h)
  | complex id => exact congrArg (fun i => TypeRef.complex ⟨i⟩) (move_of_lt h)
  | list id => exact congrArg (fun i => TypeRef.list ⟨i⟩) (move_of_lt h)

/-- Different types have different identities. -/
@[simp] theorem rename_inj {t u : TypeRef} :
    t.rename s.ids = u.rename s.ids ↔ t = u := by
  refine ⟨fun h => ?_, congrArg _⟩
  cases t <;> cases u <;> simp only [TypeRef.rename, ids, reduceCtorEq, TypeRef.primitive.injEq,
    TypeRef.simple.injEq, TypeRef.complex.injEq, TypeRef.list.injEq, SimpleId.mk.injEq,
    ComplexId.mk.injEq, ListId.mk.injEq, move_inj s.simples_le, move_inj s.complexes_le,
    move_inj s.lists_le] at h ⊢
  · exact h
  · next id id' =>
    cases id
    cases id'
    exact congrArg _ h
  · next id id' =>
    cases id
    cases id'
    exact congrArg _ h
  · next id id' =>
    cases id
    cases id'
    exact congrArg _ h

/-- The same types come after those of the store, and after those of what it has become. -/
def Mirrors (store store' : Store) : Prop :=
  ∃ part : Store, store = s.old.append part ∧ store' = s.new.append (part.rename s.ids)

namespace Mirrors

variable {s} {store store' : Store}

theorem start : s.Mirrors s.old s.new :=
  ⟨.empty, by simp [Store.append, Store.empty], by simp [Store.append, Store.empty, Store.rename]⟩

theorem grows (h : s.Mirrors store store') : s.old.Grows none store := by
  obtain ⟨part, rfl, -⟩ := h
  exact Store.grows_append _ _

theorem grows' (h : s.Mirrors store store') : s.new.Grows none store' := by
  obtain ⟨part, -, rfl⟩ := h
  exact Store.grows_append _ _

/-- If a store has not changed, what comes after it is the same. -/
theorem eq_of_refl {first : Store} (h : (refl first).Mirrors store store') : store' = store := by
  obtain ⟨part, rfl, rfl⟩ := h
  rw [ids_refl, Store.rename_id]
  rfl

/-! ### What the same types have -/

theorem simple_eq (h : s.Mirrors store store') {id : SimpleId} (hid : ¬ s.old.Has (.simple id)) :
    store'.simple (s.ids.simple id) = (store.simple id).rename s.ids := by
  obtain ⟨part, rfl, rfl⟩ := h
  exact getD_move hid (SimpleType.rename s.ids) ⟨"", "", none, []⟩

/-- A complex type that has been built is the same in both stores, but for identities. -/
theorem complex_eq (h : s.Mirrors store store') {id : ComplexId}
    (hid : ¬ s.old.Has (.complex id)) :
    store'.complex (s.ids.complex id) = (store.complex id).rename s.ids := by
  obtain ⟨part, rfl, rfl⟩ := h
  exact getD_move hid (ComplexType.rename s.ids) ⟨"", "", none, []⟩

theorem list_eq (h : s.Mirrors store store') {id : ListId} (hid : ¬ s.old.Has (.list id)) :
    store'.list (s.ids.list id) = (store.list id).rename s.ids := by
  obtain ⟨part, rfl, rfl⟩ := h
  exact getD_move hid (ListType.rename s.ids) (.ofItem "" "" (.primitive .string))

/-- What does not depend on references is the same for a type and its other identity. -/
theorem eq_of_rename {β : Type} (h : s.Mirrors store store') (f : Store → TypeRef → β)
    (hold : ∀ store, s.old.Grows none store → ∀ t, s.old.Has t → f store t = f s.old t)
    (hnew : ∀ t, ¬ s.old.Has t → f store' (t.rename s.ids) = f store t) (t : TypeRef) :
    f store' (t.rename s.ids) = f store t := by
  by_cases ht : s.old.Has t
  · rw [s.rename_of_has ht, hold _ (s.grows.trans h.grows') t ht, hold _ h.grows t ht]
  · exact hnew t ht

/-- The same types have the same names. -/
@[simp] theorem nameOf_eq (h : s.Mirrors store store') (t : TypeRef) :
    store'.nameOf (t.rename s.ids) = store.nameOf t := by
  refine h.eq_of_rename Store.nameOf (fun _ hg t ht => hg.nameOf_eq ht) ?_ t
  rintro (p | id | id | id) ht
  · rfl
  · exact (congrArg SimpleType.name (h.simple_eq ht)).trans rfl
  · exact (congrArg ComplexType.name (h.complex_eq ht)).trans rfl
  · exact (congrArg ListType.name (h.list_eq ht)).trans rfl

/-- They allow the same lengths. -/
theorem maxLengthOf_eq (h : s.Mirrors store store') (t : TypeRef) :
    store'.maxLengthOf (t.rename s.ids) = store.maxLengthOf t := by
  refine h.eq_of_rename Store.maxLengthOf (fun store hg t ht => ?_) ?_ t
  · cases t with
    | simple id => exact congrArg SimpleType.maxLength (hg.simple_eq id ht)
    | primitive p => rfl
    | complex id => rfl
    | list id => rfl
  · rintro (p | id | id | id) ht
    · rfl
    · exact (congrArg SimpleType.maxLength (h.simple_eq ht)).trans rfl
    · rfl
    · rfl

/-! ### The same changes -/

/-- The next simple type has the identity that belongs to it. -/
theorem addSimple (h : s.Mirrors store store') (t : SimpleType) :
    (store'.addSimple (t.rename s.ids)).1 = s.ids.simple (store.addSimple t).1 ∧
      s.Mirrors (store.addSimple t).2 (store'.addSimple (t.rename s.ids)).2 := by
  obtain ⟨part, rfl, rfl⟩ := h
  refine ⟨?_, (part.addSimple t).2, ?_, ?_⟩
  · simp [Store.addSimple, Store.append, Store.rename, ids, move_of_le, Nat.add_comm]
  · simp [Store.addSimple, Store.append]
  · simp [Store.addSimple, Store.append, Store.rename]

/-- Both stores are given a complex type, and the identities of these belong together. -/
theorem addComplex (h : s.Mirrors store store') (t : ComplexType) :
    (store'.addComplex (t.rename s.ids)).1 = s.ids.complex (store.addComplex t).1 ∧
      s.Mirrors (store.addComplex t).2 (store'.addComplex (t.rename s.ids)).2 := by
  obtain ⟨part, rfl, rfl⟩ := h
  refine ⟨?_, (part.addComplex t).2, ?_, ?_⟩
  · simp [Store.addComplex, Store.append, Store.rename, ids, move_of_le, Nat.add_comm]
  · simp [Store.addComplex, Store.append]
  · simp [Store.addComplex, Store.append, Store.rename]

theorem addList (h : s.Mirrors store store') (t : ListType) :
    (store'.addList (t.rename s.ids)).1 = s.ids.list (store.addList t).1 ∧
      s.Mirrors (store.addList t).2 (store'.addList (t.rename s.ids)).2 := by
  obtain ⟨part, rfl, rfl⟩ := h
  refine ⟨?_, (part.addList t).2, ?_, ?_⟩
  · simp [Store.addList, Store.append, Store.rename, ids, move_of_le, Nat.add_comm]
  · simp [Store.addList, Store.append]
  · simp [Store.addList, Store.append, Store.rename]

/-- The same field is added to the same type, if this is none of the first ones. -/
theorem addField (h : s.Mirrors store store') {id : ComplexId} (hid : ¬ s.old.Has (.complex id))
    (field : Field) :
    s.Mirrors (store.addField id field)
      (store'.addField (s.ids.complex id) (field.rename s.ids)) := by
  obtain ⟨part, rfl, rfl⟩ := h
  refine ⟨part.addField ⟨id.index - s.old.complexes.size⟩ field, ?_, ?_⟩
  · exact congrArg (Store.mk _ · _) (modify_append hid _)
  · refine congrArg (Store.mk _ · _) ?_
    show Array.modify (s.new.complexes ++ _) (move _ _ _) _ = _
    rw [move_of_le (Nat.le_of_not_lt hid), modify_append (by omega), Nat.add_sub_cancel]
    refine congrArg (s.new.complexes ++ ·) ?_
    apply Array.ext_getElem?
    intro i
    simp only [Store.rename, Store.addField, Array.getElem?_map, Array.getElem?_modify]
    split
    · cases part.complexes[i]? <;> simp [ComplexType.rename]
    · rfl

/-! ### Dumps -/

@[simp] theorem fieldInfo_eq (h : s.Mirrors store store') (f : Field) :
    Dump.FieldInfo.ofField store' (f.rename s.ids) = Dump.FieldInfo.ofField store f := by
  simp [Dump.FieldInfo.ofField, Field.rename, h.nameOf_eq]

/-- The same types have the same in a dump. -/
theorem typeInfo_eq (h : s.Mirrors store store') {t : TypeRef} (ht : ¬ s.old.Has t) :
    Dump.TypeInfo.ofType store' (t.rename s.ids) = Dump.TypeInfo.ofType store t := by
  have hplain : Dump.TypeInfo.plain store' (t.rename s.ids) = Dump.TypeInfo.plain store t := by
    rw [Dump.TypeInfo.plain, Dump.TypeInfo.plain, h.nameOf_eq, TypeRef.kind_rename]
  have hcomplex : ∀ id, (store'.complex (s.ids.complex id)).name = (store.complex id).name :=
    fun id => h.nameOf_eq (.complex id)
  unfold Dump.TypeInfo.ofType
  rw [hplain]
  cases t with
  | primitive p => rfl
  | simple id =>
    simp [h.simple_eq ht, SimpleType.rename, Function.comp_def, h.nameOf_eq]
  | complex id =>
    simp [h.complex_eq ht, ComplexType.rename, Function.comp_def, hcomplex,
      h.fieldInfo_eq]
  | list id => simp [h.list_eq ht, ListType.rename, h.nameOf_eq]

/-- A schema has the same dump as the one with the other identities of its types. -/
theorem dump_eq (h : s.Mirrors store store') {schema : Schema}
    (ht : ∀ t ∈ schema.types.values, ¬ s.old.Has t) :
    Dump.ofSchema store' (schema.rename s.ids) = Dump.ofSchema store schema := by
  have htypes : schema.types.values.map (fun t => Dump.TypeInfo.ofType store' (t.rename s.ids)) =
      schema.types.values.map (Dump.TypeInfo.ofType store) :=
    List.map_congr_left fun t hmem => h.typeInfo_eq (ht t hmem)
  simp [Dump.ofSchema, Schema.rename, Function.comp_def, h.fieldInfo_eq, htypes]

end Mirrors

end Shift

end Repository

end SchemaBinding
