import SchemaBinding.Proofs.Xsd.Accepted

/-!
# Chains of bases

In a set that has been read, the bases of every type come to an end: at a type that is its own base.
So a base is nearer to the end than the type that is derived from it, and no type is farther away
from it than there are types.

## Main definitions

* `SchemaSet.Rooted`: a set in which all bases come to an end

## Main results

* `SchemaSet.baseDepth_le`, `SchemaSet.Rooted.baseDepth_lt`: how far the end of the bases is away
* `SchemaSet.Accepted.rooted`: sets that have been read
-/

namespace SchemaBinding.Xsd.SchemaSet

variable {set : SchemaSet} {id : TypeId} {steps : Nat}

/-! ## Ancestry -/

theorem ancestryWithin_of_self (h : set.baseOf id = id) (steps : Nat) :
    set.ancestryWithin steps id = [id] := by
  cases steps with
  | zero => rfl
  | succ steps =>
    rw [ancestryWithin, if_pos h]

theorem ancestryWithin_of_ne (h : set.baseOf id ≠ id) (steps : Nat) :
    set.ancestryWithin (steps + 1) id = id :: set.ancestryWithin steps (set.baseOf id) := by
  rw [ancestryWithin, if_neg h]

theorem length_ancestryWithin (steps : Nat) (id : TypeId) :
    0 < (set.ancestryWithin steps id).length ∧
      (set.ancestryWithin steps id).length ≤ steps + 1 := by
  induction steps generalizing id with
  | zero => exact ⟨Nat.one_pos, Nat.le_refl _⟩
  | succ steps ih =>
    by_cases h : set.baseOf id = id
    · rw [ancestryWithin_of_self h]
      exact ⟨Nat.one_pos, Nat.succ_pos _⟩
    · rw [ancestryWithin_of_ne h, List.length_cons]
      exact ⟨Nat.succ_pos _, Nat.succ_le_succ (ih _).2⟩

/-- A chain of bases comes to an end within some steps. -/
def EndsWithin (set : SchemaSet) (steps : Nat) (id : TypeId) : Prop :=
  ∃ root, (set.ancestryWithin steps id).getLast? = some root ∧ set.baseOf root = root

theorem hasRoot_iff : set.hasRoot id = true ↔ set.EndsWithin set.types.size id := by
  unfold hasRoot EndsWithin ancestry
  cases (set.ancestryWithin set.types.size id).getLast? with
  | none => simp
  | some root => simp

/-- The chain of the base is shorter by a step. -/
theorem EndsWithin.base (h : set.EndsWithin (steps + 1) id) (hne : set.baseOf id ≠ id) :
    set.EndsWithin steps (set.baseOf id) := by
  obtain ⟨root, hroot, hself⟩ := h
  refine ⟨root, ?_, hself⟩
  rw [ancestryWithin_of_ne hne] at hroot
  cases hbase : set.ancestryWithin steps (set.baseOf id) with
  | nil =>
    have hpos := (set.length_ancestryWithin steps (set.baseOf id)).1
    rw [hbase] at hpos
    cases hpos
  | cons t ts => rwa [hbase, List.getLast?_cons_cons] at hroot

/-- A chain without steps is that of a type that is its own base. -/
theorem EndsWithin.baseOf_eq (h : set.EndsWithin 0 id) : set.baseOf id = id := by
  obtain ⟨root, hroot, hself⟩ := h
  cases hroot
  exact hself

/-- Once a chain has come to an end, further steps add nothing. -/
theorem EndsWithin.ancestryWithin_succ (h : set.EndsWithin steps id) :
    set.ancestryWithin (steps + 1) id = set.ancestryWithin steps id := by
  induction steps generalizing id with
  | zero => rw [ancestryWithin_of_self h.baseOf_eq, ancestryWithin_of_self h.baseOf_eq]
  | succ steps ih =>
    by_cases hself : set.baseOf id = id
    · rw [ancestryWithin_of_self hself, ancestryWithin_of_self hself]
    · rw [ancestryWithin_of_ne hself, ancestryWithin_of_ne hself, ih (h.base hself)]

/-! ## Distance from the end -/

/-- No type is farther away from the end of its bases than there are types. -/
theorem baseDepth_le (set : SchemaSet) (id : TypeId) : set.baseDepth id ≤ set.types.size := by
  have h := (set.length_ancestryWithin set.types.size id).2
  unfold baseDepth ancestry
  omega

/-- A type that is derived from another one comes before the types that this one is derived from. -/
theorem ancestry_of_hasRoot (h : set.hasRoot id = true) (hne : set.baseOf id ≠ id) :
    set.ancestry id = id :: set.ancestry (set.baseOf id) := by
  rw [hasRoot_iff] at h
  unfold ancestry
  cases hsize : set.types.size with
  | zero =>
    rw [hsize] at h
    exact absurd h.baseOf_eq hne
  | succ steps =>
    rw [hsize] at h
    -- The chain of the base does not get longer by the step that is left for it.
    rw [ancestryWithin_of_ne hne, (h.base hne).ancestryWithin_succ]

/-- A base is nearer to the end than the type that is derived from it. -/
theorem baseDepth_lt_of_hasRoot (h : set.hasRoot id = true) (hne : set.baseOf id ≠ id) :
    set.baseDepth (set.baseOf id) < set.baseDepth id := by
  have hpos := (set.length_ancestryWithin set.types.size (set.baseOf id)).1
  unfold baseDepth
  rw [ancestry_of_hasRoot h hne, List.length_cons]
  unfold ancestry
  omega

/-! ## Sets that have been read -/

/-- The bases of all types come to an end. -/
def Rooted (set : SchemaSet) : Prop :=
  ∀ id : TypeId, id.index < set.types.size → set.hasRoot id = true

theorem Rooted.baseDepth_lt (h : set.Rooted) (hid : id.index < set.types.size)
    (hne : set.baseOf id ≠ id) : set.baseDepth (set.baseOf id) < set.baseDepth id :=
  baseDepth_lt_of_hasRoot (h id hid) hne

theorem rooted_of_checkBases (h : set.checkBases = .ok ⟨⟩) : set.Rooted := by
  unfold checkBases at h
  split at h
  · cases h
  · next hnone =>
    intro id hid
    have hroot := List.find?_eq_none.mp hnone id.index (List.mem_range.mpr hid)
    simpa using hroot

theorem baseOf_setContent (set : SchemaSet) (id : TypeId) (content : Content) :
    (set.setContent id content).baseOf = set.baseOf := by
  funext i
  unfold baseOf type setContent modifyType
  rw [Array.getElem?_modify]
  split
  · cases set.types[i.index]? with
    | none => rfl
    | some t =>
      simp only [Option.map_some, Option.getD_some]
      split <;> rfl
  · rfl

/-- Whether bases come to an end does not depend on the content of types. -/
theorem Rooted.setContent (h : set.Rooted) (id : TypeId) (content : Content) :
    (set.setContent id content).Rooted := by
  have hbase := baseOf_setContent set id content
  have hsize : (set.setContent id content).types.size = set.types.size :=
    Array.size_modify ..
  have hancestry : ∀ steps i,
      (set.setContent id content).ancestryWithin steps i = set.ancestryWithin steps i := by
    intro steps
    induction steps with
    | zero => exact fun _ => rfl
    | succ steps ih =>
      intro i
      unfold ancestryWithin
      rw [hbase, ih]
  intro i hi
  rw [hsize] at hi
  obtain ⟨root, hroot, hself⟩ := hasRoot_iff.mp (h i hi)
  refine hasRoot_iff.mpr ⟨root, ?_, ?_⟩
  · rw [hsize, hancestry, hroot]
  · rw [hbase, hself]

/-- In a set that is read, the bases of all types come to an end. -/
theorem Accepted.rooted (h : set.Accepted) : set.Rooted := by
  obtain ⟨files, limits, location, h⟩ := h
  obtain ⟨documents, log, draft, -, -, hs⟩ := exists_of_parse h
  exact of_complete (fun _ id content h => h.setContent id content) rooted_of_checkBases hs

end SchemaBinding.Xsd.SchemaSet
