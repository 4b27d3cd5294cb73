import Mathlib.Data.List.Forall2
import SchemaBinding.OrderedMap

/-!
# Maps with other values

The values of a map in insertion order, all changed by a function, or each replaced by a value that
is related to it. The keys stay as they are, and so does their order.

## Main definitions

* `OrderedMap.mapValues`: the map with other values
* `OrderedMap.Related`: maps with related values under the same keys

## Main results

* `OrderedMap.get?_mapValues`, `OrderedMap.insert_mapValues`: look-ups and insertions
* `OrderedMap.Related.get?`, `OrderedMap.Related.insert`: the same for related values
-/

namespace SchemaBinding

namespace OrderedMap

variable {κ α β : Type}

/-- The map with other values under the same keys. -/
def mapValues (f : α → β) (m : OrderedMap κ α) : OrderedMap κ β where
  entries := m.entries.map fun e => (e.1, f e.2)
  keys_nodup := by simpa [Function.comp_def] using m.keys_nodup

@[simp] theorem keys_mapValues (f : α → β) (m : OrderedMap κ α) : (m.mapValues f).keys = m.keys := by
  simp [keys, mapValues]

@[simp] theorem values_mapValues (f : α → β) (m : OrderedMap κ α) :
    (m.mapValues f).values = m.values.map f := by
  simp [values, mapValues]

@[simp] theorem size_mapValues (f : α → β) (m : OrderedMap κ α) : (m.mapValues f).size = m.size :=
  List.length_map _

@[simp] theorem take_mapValues (f : α → β) (m : OrderedMap κ α) (n : Nat) :
    (m.mapValues f).take n = (m.take n).mapValues f :=
  ext_entries List.map_take.symm

@[simp] theorem mapValues_id (m : OrderedMap κ α) : (m.mapValues fun v => v) = m :=
  ext_entries (List.map_id _)

/-- A key has the value that is made of the one it has had. -/
@[simp] theorem get?_mapValues [DecidableEq κ] (f : α → β) (m : OrderedMap κ α) (k : κ) :
    (m.mapValues f).get? k = (m.get? k).map f := by
  simp only [get?, mapValues, List.find?_map, Option.map_map]
  rfl

@[simp] theorem insert_mapValues [DecidableEq κ] (f : α → β) (m : OrderedMap κ α) (k : κ) (v : α) :
    (m.mapValues f).insert k (f v) = (m.insert k v).mapValues f := by
  apply ext_entries
  obtain ⟨es, hes⟩ := m
  show insertEntry k (f v) (es.map fun e => (e.1, f e.2)) =
    (insertEntry k v es).map fun e => (e.1, f e.2)
  clear hes
  induction es with
  | nil => rfl
  | cons e es ih =>
    by_cases hk : e.1 = k
    · simp [insertEntry, hk]
    · simp only [List.map_cons, insertEntry, if_neg hk, ih]

/-! ## Related values -/

/-- Two maps have the same keys, in the same order, and related values under them. -/
def Related (R : α → β → Prop) (m : OrderedMap κ α) (m' : OrderedMap κ β) : Prop :=
  List.Forall₂ (fun e e' => e'.1 = e.1 ∧ R e.2 e'.2) m.entries m'.entries

namespace Related

variable {R : α → β → Prop} {m : OrderedMap κ α} {m' : OrderedMap κ β}

theorem empty : Related R (.empty : OrderedMap κ α) .empty := .nil

theorem size_eq (h : Related R m m') : m'.size = m.size := (List.Forall₂.length_eq h).symm

variable [DecidableEq κ]

theorem get? (h : Related R m m') (k : κ) : Option.Rel R (m.get? k) (m'.get? k) := by
  unfold Related at h
  unfold OrderedMap.get?
  generalize m.entries = es at h
  generalize m'.entries = es' at h
  induction h with
  | nil => exact .none
  | @cons e e' es es' he _ ih =>
    rw [List.find?_cons, List.find?_cons, he.1]
    by_cases hk : e.1 = k
    · simp only [hk, decide_true, Option.map_some]
      exact .some he.2
    · simpa only [hk, decide_false] using ih

theorem insert (h : Related R m m') (k : κ) {v : α} {v' : β} (hv : R v v') :
    Related R (m.insert k v) (m'.insert k v') := by
  unfold Related at h
  show List.Forall₂ _ (insertEntry k v m.entries) (insertEntry k v' m'.entries)
  generalize m.entries = es at h
  generalize m'.entries = es' at h
  induction h with
  | nil => exact .cons ⟨rfl, hv⟩ .nil
  | @cons e e' es es' he hes ih =>
    rw [insertEntry, insertEntry, he.1]
    split
    · exact .cons ⟨rfl, hv⟩ hes
    · exact .cons he ih

end Related

end OrderedMap

end SchemaBinding
