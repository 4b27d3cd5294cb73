import Mathlib.Data.Fintype.Pigeonhole
import SchemaBinding.Proofs.Xsd.InheritedContent

/-!
# Circular derivations

A type whose bases lead back to it through other types is refused, and only such a type is. The end
of a chain of bases is a type that is its own base. This is the root of all types unless a document
defines a type that names itself as its base: such a type passes for an end, and is accepted.

## Main definitions

* `SchemaSet.Circular`: a type is derived from itself through other types
* `SchemaSet.Grounded`: all bases lead to the root, which alone is its own base

## Main results

* `SchemaSet.endsWithin_iff`: chains of bases that come to an end, by iteration
* `SchemaSet.rooted_iff`, `checkBases_eq_ok_iff`: the check passes just if no type is circular
* `derivations_of_read`: what is refused, and when an accepted set is grounded
* `not_forall_grounded`: a type that names itself as its base is accepted
-/

namespace SchemaBinding.Xsd

namespace SchemaSet

variable {set : SchemaSet} {id : TypeId} {steps : Nat}

/-! ## Chains of bases by iteration -/

/-- The chain of a type that is its own base has come to its end. -/
theorem endsWithin_of_self (h : set.baseOf id = id) (steps : Nat) : set.EndsWithin steps id := by
  refine ⟨id, ?_, h⟩
  rw [ancestryWithin_of_self h]
  rfl

/-- The chain of a type is longer by a step than that of its base. -/
theorem EndsWithin.of_base (h : set.EndsWithin steps (set.baseOf id)) (hne : set.baseOf id ≠ id) :
    set.EndsWithin (steps + 1) id := by
  obtain ⟨root, hroot, hself⟩ := h
  refine ⟨root, ?_, hself⟩
  rw [ancestryWithin_of_ne hne, List.getLast?_cons, hroot]
  rfl

/-- A chain of bases comes to an end just if going from base to base does. -/
theorem endsWithin_iff : set.EndsWithin steps id ↔
    ∃ n ≤ steps, set.baseOf (set.baseOf^[n] id) = set.baseOf^[n] id := by
  induction steps generalizing id with
  | zero =>
    constructor
    · exact fun h => ⟨0, Nat.le_refl 0, h.baseOf_eq⟩
    · rintro ⟨n, hn, h⟩
      obtain rfl := Nat.le_zero.mp hn
      exact endsWithin_of_self h 0
  | succ steps ih =>
    by_cases hself : set.baseOf id = id
    · exact ⟨fun _ => ⟨0, Nat.zero_le _, hself⟩, fun _ => endsWithin_of_self hself _⟩
    · constructor
      · intro h
        obtain ⟨n, hn, h⟩ := ih.mp (h.base hself)
        exact ⟨n + 1, Nat.succ_le_succ hn, h⟩
      · rintro ⟨n, hn, h⟩
        cases n with
        | zero => exact absurd h hself
        | succ n => exact (ih.mpr ⟨n, Nat.le_of_succ_le_succ hn, h⟩).of_base hself

/-! ## Circles -/

/-- A type is derived from itself through other types. -/
def Circular (set : SchemaSet) (id : TypeId) : Prop :=
  set.baseOf id ≠ id ∧ ∃ n, set.baseOf^[n + 1] id = id

/-- From base to base, the end gets no farther away. -/
theorem Rooted.baseDepth_iterate_le (h : set.Rooted)
    (hbase : ∀ id, set.HasType id → set.HasType (set.baseOf id)) (hid : set.HasType id) (n : Nat) :
    set.baseDepth (set.baseOf^[n] id) ≤ set.baseDepth id := by
  induction n generalizing id with
  | zero => exact Nat.le_refl _
  | succ n ih =>
    rw [Function.iterate_succ_apply]
    refine (ih (hbase id hid)).trans ?_
    by_cases hself : set.baseOf id = id
    · rw [hself]
    · exact (h.baseDepth_lt hid hself).le

/-- Where more types come than there are, one of them comes again. -/
theorem exists_circular_of_not_endsWithin
    (hbase : ∀ id, set.HasType id → set.HasType (set.baseOf id)) (hid : set.HasType id)
    (h : ¬ set.EndsWithin set.types.size id) : ∃ i, set.HasType i ∧ set.Circular i := by
  have hhas : ∀ n, set.HasType (set.baseOf^[n] id) := by
    intro n
    induction n with
    | zero => exact hid
    | succ n ih =>
      rw [Function.iterate_succ_apply']
      exact hbase _ ih
  have hne : ∀ n ≤ set.types.size, set.baseOf (set.baseOf^[n] id) ≠ set.baseOf^[n] id :=
    fun n hn hself => h (endsWithin_iff.mpr ⟨n, hn, hself⟩)
  -- The types that come are one more than there are places.
  let place (n : Fin (set.types.size + 1)) : Fin set.types.size :=
    ⟨(set.baseOf^[n] id).index, hhas n⟩
  have hagain : ∀ a b : Fin (set.types.size + 1), a < b → place a = place b →
      ∃ i, set.HasType i ∧ set.Circular i := by
    intro a b hlt heq
    have hsame : set.baseOf^[a] id = set.baseOf^[b] id :=
      congrArg TypeId.mk (congrArg Fin.val heq)
    refine ⟨_, hhas a, hne a (Nat.le_of_lt_succ a.isLt), b - a - 1, ?_⟩
    rw [← Function.iterate_add_apply]
    have hsum : b.val - a.val - 1 + 1 + a.val = b.val := by omega
    rw [hsum, hsame]
  obtain ⟨a, b, hab, heq⟩ := Fintype.exists_ne_map_eq_of_card_lt place (by simp)
  rcases lt_or_gt_of_ne hab with hlt | hlt
  · exact hagain a b hlt heq
  · exact hagain b a hlt heq.symm

/-- All bases come to an end just if no type is derived from itself through other types. -/
theorem rooted_iff (hbase : ∀ id, set.HasType id → set.HasType (set.baseOf id)) :
    set.Rooted ↔ ¬ ∃ id, set.HasType id ∧ set.Circular id := by
  constructor
  · rintro h ⟨id, hid, hne, n, hn⟩
    have hle := h.baseDepth_iterate_le hbase (hbase id hid) n
    rw [← Function.iterate_succ_apply, hn] at hle
    exact Nat.not_lt.mpr hle (h.baseDepth_lt hid hne)
  · intro h id hid
    refine hasRoot_iff.mpr (Classical.byContradiction fun hends => h ?_)
    exact exists_circular_of_not_endsWithin hbase hid hends

theorem checkBases_eq_ok_iff : set.checkBases = .ok ⟨⟩ ↔ set.Rooted := by
  refine ⟨rooted_of_checkBases, fun h => ?_⟩
  unfold checkBases
  split
  · next i hi =>
    have hroot := h ⟨i⟩ (List.mem_range.mp (List.mem_of_find?_eq_some hi))
    have hnot := List.find?_some hi
    rw [hroot] at hnot
    cases hnot
  · rfl

/-! ## Refusals -/

/-- Completing a set fails because of a circle just if there is one: circles are found first. -/
theorem complete_eq_error_iff {limits : Limits} {draft : Draft} :
    (∃ name, complete limits draft = .error (.parse (.circularDerivation name) none)) ↔
      draft.set.checkBases ≠ .ok ⟨⟩ := by
  unfold complete
  constructor
  · rintro ⟨name, h⟩ hok
    rw [hok] at h
    rcases bind_eq_error_iff.mp h with h | ⟨_, -, h⟩
    · cases h
    rcases bind_eq_error_iff.mp h with h | ⟨set, -, h⟩
    · refine absurd rfl (of_foldlM_eq_error
        (E := fun e => e ≠ .parse (.circularDerivation name) none) ?_ h)
      rintro ⟨id, _ | _⟩ - set e hstep
      · simp only [inherit] at hstep
        split at hstep <;> cases hstep
      · simp only [inherit] at hstep
        split at hstep
        · cases hstep
        · cases hstep
          rintro ⟨⟩
    · rcases bind_eq_error_iff.mp h with h | ⟨_, -, h⟩
      · unfold Result.ofLimit at h
        cases hlimit : limits.check .components set.componentCount with
        | error e =>
          rw [hlimit] at h
          cases h
        | ok _ =>
          rw [hlimit] at h
          cases h
      · cases h
  · intro hne
    cases hbases : draft.set.checkBases with
    | ok _ => exact absurd hbases hne
    | error e =>
      unfold checkBases at hbases
      split at hbases
      · cases hbases
        exact ⟨_, rfl⟩
      · cases hbases

/-! ## Accepted sets -/

/-- All bases lead to the root of all types, which alone is its own base. -/
def Grounded (set : SchemaSet) : Prop :=
  ∀ id, set.HasType id →
    (∃ n, set.baseOf^[n] id = anyType) ∧ (set.baseOf id = id → id = anyType)

/-- Where all bases come to an end, the root is the only one if no other type is its own base. -/
theorem Rooted.grounded_iff (h : set.Rooted)
    (hbase : ∀ id, set.HasType id → set.HasType (set.baseOf id)) :
    set.Grounded ↔ ¬ ∃ id, id ≠ anyType ∧ set.HasType id ∧ set.baseOf id = id := by
  constructor
  · rintro hgrounded ⟨id, hne, hid, hself⟩
    exact hne ((hgrounded id hid).2 hself)
  · intro hno id hid
    have honly : ∀ i, set.HasType i → set.baseOf i = i → i = anyType := by
      intro i hi hself
      exact Classical.byContradiction fun hne => hno ⟨i, hne, hi, hself⟩
    refine ⟨?_, honly id hid⟩
    obtain ⟨n, -, hn⟩ := endsWithin_iff.mp (hasRoot_iff.mp (h id hid))
    refine ⟨n, honly _ ?_ hn⟩
    clear hn
    induction n with
    | zero => exact hid
    | succ n ih =>
      rw [Function.iterate_succ_apply']
      exact hbase _ ih

end SchemaSet

/-- What comes of documents that can be read. They are refused because of a circle just if a type is
derived from itself through other types. In a set that is accepted the bases of all types come to an
end, and they all lead to the root just if no document defines a type that names itself as its
base. -/
theorem derivations_of_read {files : FileSystem} {limits : Limits} {location : Location}
    {documents : List SchemaDocument} {log : Log} {draft : Draft}
    (hload : SchemaDocument.loadAll files limits location = (.ok documents, log))
    (hread : (SchemaSet.readDocuments documents).run.run (.ofDocuments documents log) =
      (.ok ⟨⟩, draft)) :
    ((∃ name, (SchemaSet.parse files limits location).1 =
        .error (.parse (.circularDerivation name) none)) ↔
      ∃ id, draft.set.HasType id ∧ draft.set.Circular id) ∧
    ∀ set, (SchemaSet.parse files limits location).1 = .ok set →
      set.baseOf = draft.set.baseOf ∧ set.types.size = draft.set.types.size ∧
      set.baseOf SchemaSet.anyType = SchemaSet.anyType ∧
      (∀ id, set.HasType id → ∃ n, set.baseOf (set.baseOf^[n] id) = set.baseOf^[n] id) ∧
      (set.Grounded ↔ ∀ document ∈ documents, ¬ document.NamesItself) := by
  have hfinished := Draft.finished_of_read hread
  have hdraft := hfinished.wellFormed.base
  rw [SchemaSet.parse_eq_complete hload hread]
  refine ⟨?_, fun set hs => ?_⟩
  · rw [SchemaSet.complete_eq_error_iff, ne_eq, SchemaSet.checkBases_eq_ok_iff,
      SchemaSet.rooted_iff hdraft, not_not]
  · obtain ⟨hbases, hs⟩ := SchemaSet.inheritAll_of_complete hs
    have hbaseOf := Draft.baseOf_completed hs
    -- What a type inherits changes its content, and nothing that bases are read from.
    have hsize : set.types.size = draft.set.types.size :=
      SchemaSet.of_foldlM_inherit (P := fun s => s.types.size = draft.set.types.size)
        (fun s _ _ hsize => (Array.size_modify ..).trans hsize) rfl hs
    have hrooted : set.Rooted := SchemaSet.of_foldlM_inherit (P := SchemaSet.Rooted)
      (fun _ id content hr => hr.setContent id content) (SchemaSet.rooted_of_checkBases hbases) hs
    have hhas : ∀ id, set.HasType id ↔ draft.set.HasType id := by
      intro id
      unfold SchemaSet.HasType
      rw [hsize]
    refine ⟨hbaseOf, hsize, ?_, fun id hid => ?_, ?_⟩
    · rw [hbaseOf]
      unfold SchemaSet.baseOf
      rw [hfinished.anyType]
      rfl
    · obtain ⟨n, -, hn⟩ := SchemaSet.endsWithin_iff.mp (SchemaSet.hasRoot_iff.mp (hrooted id hid))
      exact ⟨n, hn⟩
    · rw [hrooted.grounded_iff ?_]
      · simp only [hhas, hbaseOf, hfinished.baseOf_eq, not_exists, not_and]
      · intro id hid
        rw [hbaseOf, hhas]
        exact hdraft id ((hhas id).mp hid)

section Texts

set_option maxRecDepth 100000

/-- In the set of types that are declared before their bases, no type is derived from itself. -/
theorem derivations_chained : ∃ documents log draft,
    SchemaDocument.loadAll .empty .standard (.inMemory chainedText) = (.ok documents, log) ∧
    (SchemaSet.readDocuments documents).run.run (.ofDocuments documents log) = (.ok ⟨⟩, draft) ∧
    (¬ ∃ id, draft.set.HasType id ∧ draft.set.Circular id) ∧
    ((SchemaSet.ofText chainedText).Grounded ↔
      ∀ document ∈ documents, ¬ document.NamesItself) := by
  obtain ⟨documents, log, draft, hload, hread, -⟩ := SchemaSet.exists_of_parse parse_chained
  obtain ⟨hrefused, haccepted⟩ := derivations_of_read hload hread
  refine ⟨documents, log, draft, hload, hread, fun hcircular => ?_, ?_⟩
  · obtain ⟨name, herror⟩ := hrefused.mpr hcircular
    rw [parse_chained] at herror
    cases herror
  · exact (haccepted _ parse_chained).2.2.2.2

/-- A complex type that is an extension of itself. -/
def selfText : String :=
  "<schema xmlns=\"http://www.w3.org/2001/XMLSchema\" xmlns:t=\"t\" targetNamespace=\"t\">" ++
  "<complexType name=\"T\"><complexContent><extension base=\"t:T\"/></complexContent>" ++
  "</complexType></schema>"

/-- Not all accepted sets are grounded: the type that is an extension of itself is accepted. -/
theorem not_forall_grounded : ¬ ∀ set, SchemaSet.Accepted set → set.Grounded := by
  intro h
  obtain ⟨hread, hsize, hself⟩ : (SchemaSet.readText selfText).isOk = true ∧
      (SchemaSet.ofText selfText).types.size = 47 ∧
      (SchemaSet.ofText selfText).baseOf ⟨46⟩ = ⟨46⟩ := by
    decide +kernel
  have hid : (SchemaSet.ofText selfText).HasType ⟨46⟩ := by
    unfold SchemaSet.HasType
    rw [hsize]
    decide
  exact absurd ((h _ (SchemaSet.accepted_ofText hread) _ hid).2 hself) (by decide)

end Texts

end SchemaBinding.Xsd
