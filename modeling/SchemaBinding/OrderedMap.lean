/-!
# Maps in insertion order

A map that remembers the order in which its keys were first inserted. Inserting under a key that
is present replaces the value and keeps the place; removing an entry keeps the order of the
others.

## Main definitions

* `OrderedMap`: entries with pairwise distinct keys
* `get?`, `contains`, `keys`, `values`, `size`: views
* `insert`, `erase`, `filter`, `take`: operations

## Main results

* `get?_eq_some_iff`, `get?_eq_none_iff`: look-ups and entries
* `get?_insert`, `get?_erase`, `get?_filter`: look-ups after each operation
* `entries_insert_of_not_mem`, `keys_insert_of_mem`: the order of entries
* `get?_foldl_insert`, `entries_foldl_insert`: two maps put together
* `erase_insert`: the other entries after an insertion
* `get?_of_prefix`, `take_of_prefix`, `prefix_insertEntry`: maps that begin alike
-/

namespace SchemaBinding

/-- Entries in the order of their first insertion; no key occurs twice. -/
structure OrderedMap (κ : Type) (α : Type) where
  entries : List (κ × α)
  keys_nodup : (entries.map Prod.fst).Nodup

namespace OrderedMap

variable {κ α : Type}

/-- The map without entries. -/
def empty : OrderedMap κ α := ⟨[], List.nodup_nil⟩

instance : Inhabited (OrderedMap κ α) := ⟨empty⟩

instance : EmptyCollection (OrderedMap κ α) := ⟨empty⟩

/-- The keys, in order. -/
def keys (m : OrderedMap κ α) : List κ := m.entries.map Prod.fst

/-- The values, in the order of their keys. -/
def values (m : OrderedMap κ α) : List α := m.entries.map Prod.snd

/-- The number of entries. -/
def size (m : OrderedMap κ α) : Nat := m.entries.length

/-- Whether there is no entry. -/
def isEmpty (m : OrderedMap κ α) : Bool := m.entries.isEmpty

/-- The entries for which `p` holds. -/
def filter (m : OrderedMap κ α) (p : κ → α → Bool) : OrderedMap κ α where
  entries := m.entries.filter fun e => p e.1 e.2
  keys_nodup := m.keys_nodup.sublist (List.filter_sublist.map _)

/-- The first `n` entries. -/
def take (m : OrderedMap κ α) (n : Nat) : OrderedMap κ α where
  entries := m.entries.take n
  keys_nodup := m.keys_nodup.sublist ((List.take_sublist n _).map _)

theorem ext_entries {m m' : OrderedMap κ α} (h : m.entries = m'.entries) : m = m' := by
  cases m
  cases m'
  cases h
  rfl

/-- The first entries of a map, as many as another one has that it begins with, are that one. -/
theorem take_of_prefix {m m' : OrderedMap κ α} (h : m.entries <+: m'.entries) :
    m'.take m.size = m :=
  ext_entries (List.prefix_iff_eq_take.mp h).symm

section Keyed

variable [DecidableEq κ]

/-- The value under a key. -/
def get? (m : OrderedMap κ α) (k : κ) : Option α :=
  (m.entries.find? fun e => decide (e.1 = k)).map Prod.snd

/-- Whether there is an entry under a key. -/
def contains (m : OrderedMap κ α) (k : κ) : Bool := (m.get? k).isSome

/-- The entries after `v` has been put under `k`: in the place of an earlier entry, else last. -/
def insertEntry (k : κ) (v : α) : List (κ × α) → List (κ × α)
  | [] => [(k, v)]
  | e :: es => if e.1 = k then (k, v) :: es else e :: insertEntry k v es

theorem mem_keys_insertEntry {k : κ} {v : α} {es : List (κ × α)} {x : κ} :
    x ∈ (insertEntry k v es).map Prod.fst ↔ x = k ∨ x ∈ es.map Prod.fst := by
  induction es with
  | nil => simp [insertEntry]
  | cons e es ih =>
    by_cases h : e.1 = k
    · simp [insertEntry, h]
    · rw [insertEntry, if_neg h, List.map_cons, List.mem_cons, ih, List.map_cons, List.mem_cons]
      exact or_left_comm

theorem nodup_keys_insertEntry {k : κ} {v : α} {es : List (κ × α)}
    (h : (es.map Prod.fst).Nodup) : ((insertEntry k v es).map Prod.fst).Nodup := by
  induction es with
  | nil => simp [insertEntry]
  | cons e es ih =>
    rw [List.map_cons, List.nodup_cons] at h
    by_cases hk : e.1 = k
    · rw [insertEntry, if_pos hk, List.map_cons, List.nodup_cons, ← hk]
      exact h
    · rw [insertEntry, if_neg hk, List.map_cons, List.nodup_cons]
      exact ⟨fun hm => (mem_keys_insertEntry.mp hm).elim hk h.1, ih h.2⟩

/-- Puts `v` under `k`: in the place of an earlier entry, else last. -/
def insert (m : OrderedMap κ α) (k : κ) (v : α) : OrderedMap κ α where
  entries := insertEntry k v m.entries
  keys_nodup := nodup_keys_insertEntry m.keys_nodup

/-- The map without the entry under `k`. -/
def erase (m : OrderedMap κ α) (k : κ) : OrderedMap κ α :=
  m.filter fun x _ => decide (x ≠ k)

/-- The map of the given entries; of entries with one key the last value counts. -/
def ofList (es : List (κ × α)) : OrderedMap κ α :=
  es.foldl (fun m e => m.insert e.1 e.2) empty

@[simp] theorem get?_empty (k : κ) : (empty : OrderedMap κ α).get? k = none := rfl

theorem find?_insertEntry (k x : κ) (v : α) (es : List (κ × α)) :
    ((insertEntry k v es).find? fun e => decide (e.1 = x)).map Prod.snd =
      if x = k then some v else (es.find? fun e => decide (e.1 = x)).map Prod.snd := by
  induction es with
  | nil =>
    by_cases h : x = k
    · simp [insertEntry, h]
    · simp [insertEntry, h, Ne.symm h]
  | cons e es ih =>
    by_cases hk : e.1 = k
    · by_cases hx : x = k
      · simp [insertEntry, hk, hx]
      · simp [insertEntry, hk, hx, Ne.symm hx]
    · by_cases hx : e.1 = x
      · subst hx
        simp [insertEntry, hk]
      · rw [insertEntry, if_neg hk, List.find?_cons_of_neg (by simpa using hx), ih,
          List.find?_cons_of_neg (by simpa using hx)]

/-- A look-up after an insertion gives the new value under the new key, and else what was there. -/
theorem get?_insert (m : OrderedMap κ α) (k x : κ) (v : α) :
    (m.insert k v).get? x = if x = k then some v else m.get? x :=
  find?_insertEntry k x v m.entries

@[simp] theorem get?_insert_self (m : OrderedMap κ α) (k : κ) (v : α) :
    (m.insert k v).get? k = some v := by
  rw [get?_insert, if_pos rfl]

/-- What is found after an insertion is the new value, or was there under another key. -/
theorem eq_or_of_get?_insert {m : OrderedMap κ α} {k x : κ} {v a : α}
    (h : (m.insert k v).get? x = some a) : x = k ∧ a = v ∨ x ≠ k ∧ m.get? x = some a := by
  rw [get?_insert] at h
  split at h
  · next heq => exact .inl ⟨heq, (Option.some.inj h).symm⟩
  · next hne => exact .inr ⟨hne, h⟩

/-! ### Entries and look-ups -/

theorem find?_eq_some_of_mem {es : List (κ × α)} (h : (es.map Prod.fst).Nodup) {e : κ × α}
    (he : e ∈ es) : (es.find? fun x => decide (x.1 = e.1)) = some e := by
  induction es with
  | nil => cases he
  | cons x es ih =>
    rw [List.map_cons, List.nodup_cons] at h
    rcases List.mem_cons.mp he with rfl | hm
    · simp
    · have hx : x.1 ≠ e.1 := fun hx => h.1 (hx ▸ List.mem_map_of_mem hm)
      rw [List.find?_cons_of_neg (by simpa using hx)]
      exact ih h.2 hm

/-- A look-up gives the value of the entry under the key. -/
theorem get?_eq_some_iff {m : OrderedMap κ α} {k : κ} {v : α} :
    m.get? k = some v ↔ (k, v) ∈ m.entries := by
  constructor
  · intro h
    obtain ⟨e, he, rfl⟩ := Option.map_eq_some_iff.mp h
    have hk : e.1 = k := by simpa using List.find?_some he
    exact hk ▸ List.mem_of_find?_eq_some he
  · intro h
    rw [get?, find?_eq_some_of_mem m.keys_nodup h]
    rfl

/-- A look-up gives nothing just under what is no key. -/
theorem get?_eq_none_iff {m : OrderedMap κ α} {k : κ} : m.get? k = none ↔ k ∉ m.keys := by
  constructor
  · intro h hk
    obtain ⟨⟨_, v⟩, hv, rfl⟩ := List.mem_map.mp hk
    rw [get?_eq_some_iff.mpr hv] at h
    cases h
  · intro h
    cases hv : m.get? k with
    | none => rfl
    | some v => exact absurd (List.mem_map_of_mem (get?_eq_some_iff.mp hv)) h

/-- An entry under a new key is put last. -/
theorem entries_insert_of_not_mem {m : OrderedMap κ α} {k : κ} (v : α) (h : k ∉ m.keys) :
    (m.insert k v).entries = m.entries ++ [(k, v)] := by
  obtain ⟨es, hes⟩ := m
  simp only [insert, keys] at h ⊢
  induction es with
  | nil => rfl
  | cons e es ih =>
    rw [List.map_cons, List.mem_cons, not_or] at h
    rw [insertEntry, if_neg (Ne.symm h.1), ih (List.nodup_cons.mp hes).2 h.2]
    rfl

/-- An insertion under a key that is present changes no keys. -/
theorem keys_insert_of_mem {m : OrderedMap κ α} {k : κ} (v : α) (h : k ∈ m.keys) :
    (m.insert k v).keys = m.keys := by
  obtain ⟨es, hes⟩ := m
  simp only [insert, keys] at h ⊢
  induction es with
  | nil => cases h
  | cons e es ih =>
    by_cases hk : e.1 = k
    · rw [insertEntry, if_pos hk, List.map_cons, List.map_cons, hk]
    · have hm : k ∈ es.map Prod.fst := (List.mem_cons.mp h).resolve_left (Ne.symm hk)
      rw [insertEntry, if_neg hk, List.map_cons, List.map_cons, ih (List.nodup_cons.mp hes).2 hm]

/-! ### Maps that begin alike -/

/-- A map whose entries begin with those of another one has all that the other one has. -/
theorem get?_of_prefix {m m' : OrderedMap κ α} (h : m.entries <+: m'.entries) {k : κ} {v : α}
    (hv : m.get? k = some v) : m'.get? k = some v :=
  get?_eq_some_iff.mpr (h.subset (get?_eq_some_iff.mp hv))

/-- An insertion changes nothing before the entry of its key. -/
theorem prefix_insertEntry {es es' : List (κ × α)} {k : κ} (v : α) (h : es <+: es')
    (hk : k ∉ es.map Prod.fst) : es <+: insertEntry k v es' := by
  induction es generalizing es' with
  | nil => exact List.nil_prefix
  | cons e es ih =>
    obtain ⟨rest, rfl⟩ := h
    rw [List.map_cons, List.mem_cons, not_or] at hk
    rw [List.cons_append, insertEntry, if_neg (Ne.symm hk.1)]
    exact (List.prefix_cons_inj e).mpr (ih (List.prefix_append es rest) hk.2)

/-- Of two maps of which one is put into the other, the one that was put in counts first. -/
theorem get?_foldl_insert (m m' : OrderedMap κ α) (k : κ) :
    (m'.entries.foldl (fun acc e => acc.insert e.1 e.2) m).get? k = (m'.get? k).or (m.get? k) := by
  obtain ⟨es, hes⟩ := m'
  induction es generalizing m with
  | nil => rfl
  | cons e es ih =>
    have hrest := (List.nodup_cons.mp hes).2
    rw [List.foldl_cons, ih (m.insert e.1 e.2) hrest, get?_insert]
    have hcons : (⟨e :: es, hes⟩ : OrderedMap κ α).get? k =
        if e.1 = k then some e.2 else (⟨es, hrest⟩ : OrderedMap κ α).get? k := by
      by_cases hk : e.1 = k
      · simp [get?, hk]
      · simp [get?, hk]
    rw [hcons]
    by_cases hk : e.1 = k
    · subst hk
      have hnone : (⟨es, hrest⟩ : OrderedMap κ α).get? e.1 = none :=
        get?_eq_none_iff.mpr (List.nodup_cons.mp hes).1
      rw [hnone, if_pos rfl, if_pos rfl]
      rfl
    · rw [if_neg hk, if_neg (Ne.symm hk)]

/-- Of two maps that have no key in common, one is put after the other. -/
theorem entries_foldl_insert {m m' : OrderedMap κ α} (h : ∀ k ∈ m'.keys, k ∉ m.keys) :
    (m'.entries.foldl (fun acc e => acc.insert e.1 e.2) m).entries = m.entries ++ m'.entries := by
  obtain ⟨es, hes⟩ := m'
  induction es generalizing m with
  | nil => exact (List.append_nil _).symm
  | cons e es ih =>
    obtain ⟨he, hrest⟩ := List.nodup_cons.mp hes
    have hentries := entries_insert_of_not_mem e.2 (h e.1 (List.mem_map_of_mem List.mem_cons_self))
    have hkeys : ∀ k ∈ (⟨es, hrest⟩ : OrderedMap κ α).keys, k ∉ (m.insert e.1 e.2).keys := by
      intro k hk
      -- The keys that are left are not the first one.
      rw [keys, hentries, List.map_append, List.mem_append, not_or]
      refine ⟨h k (List.mem_cons_of_mem _ hk), fun heq => he ?_⟩
      obtain rfl : k = e.1 := List.mem_singleton.mp heq
      exact hk
    calc (es.foldl (fun acc e => acc.insert e.1 e.2) (m.insert e.1 e.2)).entries
        = (m.insert e.1 e.2).entries ++ es := ih hrest hkeys
      _ = m.entries ++ [e] ++ es := congrArg (· ++ es) hentries
      _ = m.entries ++ e :: es := List.append_assoc _ _ _

/-- A look-up among the entries for which `p` holds. -/
theorem get?_filter (m : OrderedMap κ α) (p : κ → α → Bool) (k : κ) :
    (m.filter p).get? k = (m.get? k).filter (p k) := by
  apply Option.ext
  intro v
  rw [get?_eq_some_iff, Option.filter_eq_some_iff, get?_eq_some_iff]
  exact List.mem_filter

/-- After a key has been removed, a look-up under it gives nothing. -/
theorem get?_erase (m : OrderedMap κ α) (k x : κ) :
    (m.erase k).get? x = if x = k then none else m.get? x := by
  rw [erase, get?_filter]
  by_cases h : x = k
  · simp [h]
  · cases m.get? x <;> simp [h]

/-- An insertion changes nothing but the entry under its key. -/
theorem erase_insert (m : OrderedMap κ α) (k : κ) (v : α) : (m.insert k v).erase k = m.erase k := by
  apply ext_entries
  obtain ⟨es, hes⟩ := m
  show (insertEntry k v es).filter (fun e => decide (e.1 ≠ k)) =
    es.filter fun e => decide (e.1 ≠ k)
  clear hes
  induction es with
  | nil => simp [insertEntry]
  | cons e es ih =>
    by_cases hk : e.1 = k
    · simp [insertEntry, hk]
    · rw [insertEntry, if_neg hk, List.filter_cons, List.filter_cons, ih]

end Keyed

end OrderedMap

end SchemaBinding
