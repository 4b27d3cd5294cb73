import SchemaBinding.Proofs.Xsd.Bases

/-!
# Attributes that are used

The attributes of a type are those that it uses itself, and those of its bases. Of uses with one
name the last one counts, so no name is used twice; where no name comes again, the uses of the type
follow those of its base.

## Main definitions

* `SchemaSet.useName`: the name of an attribute that is used

## Main results

* `SchemaSet.attributeUses_of_base`: the attributes of a type and of its base
* `SchemaSet.nodup_attributeUses`: no name is used twice
* `SchemaSet.mem_useNames_foldl_addUse`: no name is lost
* `SchemaSet.foldl_addUse_of_nodup`: names that do not come again
-/

namespace SchemaBinding.Xsd.SchemaSet

variable {set : SchemaSet} {id : TypeId}

/-- The name of an attribute that is used. -/
def useName (set : SchemaSet) (use : AttributeUse) : String := (set.attr use.declaration).name

/-! ## Adding uses -/

theorem mem_of_mem_foldl_addUse {use : AttributeUse} {own known : List AttributeUse}
    (h : use ∈ own.foldl set.addUse known) : use ∈ known ∨ use ∈ own := by
  induction own generalizing known with
  | nil => exact .inl h
  | cons u own ih =>
    rcases ih h with h | h
    · rcases List.mem_append.mp h with h | h
      · exact .inl (List.mem_filter.mp h).1
      · exact .inr (List.mem_singleton.mp h ▸ List.mem_cons_self)
    · exact .inr (List.mem_cons_of_mem u h)

theorem mem_useNames_addUse {known : List AttributeUse} {use : AttributeUse} {n : String} :
    n ∈ (set.addUse known use).map set.useName ↔ n ∈ known.map set.useName ∨ n = set.useName use := by
  unfold addUse
  simp only [List.map_append, List.map_singleton, List.mem_append, List.mem_singleton, List.mem_map,
    List.mem_filter, bne_iff_ne]
  constructor
  · rintro (⟨u, ⟨hu, -⟩, rfl⟩ | h)
    · exact .inl ⟨u, hu, rfl⟩
    · exact .inr h
  · rintro (⟨u, hu, rfl⟩ | h)
    · by_cases hname : set.useName u = set.useName use
      · exact .inr hname
      · exact .inl ⟨u, ⟨hu, hname⟩, rfl⟩
    · exact .inr h

/-- No name is lost, and none comes in but those of the uses that are added. -/
theorem mem_useNames_foldl_addUse {own known : List AttributeUse} {n : String} :
    n ∈ (own.foldl set.addUse known).map set.useName ↔
      n ∈ known.map set.useName ∨ n ∈ own.map set.useName := by
  induction own generalizing known with
  | nil => simp
  | cons use own ih =>
    rw [List.foldl_cons, ih, mem_useNames_addUse, List.map_cons, List.mem_cons, or_assoc]

theorem nodup_addUse {known : List AttributeUse} (h : (known.map set.useName).Nodup)
    (use : AttributeUse) : ((set.addUse known use).map set.useName).Nodup := by
  unfold addUse
  rw [List.map_append, List.map_singleton]
  refine List.nodup_append.mpr ⟨h.sublist (List.filter_sublist.map _), by simp, ?_⟩
  intro n hn n' hn'
  obtain ⟨u, hu, rfl⟩ := List.mem_map.mp hn
  rw [List.mem_singleton.mp hn']
  exact bne_iff_ne.mp (List.mem_filter.mp hu).2

theorem nodup_foldl_addUse {own known : List AttributeUse} (h : (known.map set.useName).Nodup) :
    ((own.foldl set.addUse known).map set.useName).Nodup := by
  induction own generalizing known with
  | nil => exact h
  | cons use own ih => exact ih (nodup_addUse h use)

/-- Where no name comes again, nothing gives way. -/
theorem foldl_addUse_of_nodup {own known : List AttributeUse}
    (h : ((known ++ own).map set.useName).Nodup) : own.foldl set.addUse known = known ++ own := by
  induction own generalizing known with
  | nil => exact (List.append_nil known).symm
  | cons use own ih =>
    have hkeep : set.addUse known use = known ++ [use] := by
      unfold addUse
      rw [List.filter_eq_self.mpr fun u hu => ?_]
      rw [List.map_append, List.map_cons] at h
      refine bne_iff_ne.mpr fun heq => ?_
      exact (List.nodup_append.mp h).2.2 _ (List.mem_map_of_mem hu) _ List.mem_cons_self heq
    have happend : known ++ use :: own = known ++ [use] ++ own := by
      rw [List.append_assoc, List.singleton_append]
    rw [List.foldl_cons, hkeep, happend]
    exact ih (happend ▸ h)

/-! ## The attributes of a type -/

/-- A use that counts for a type is one of some type. -/
theorem exists_of_mem_attributeUses {use : AttributeUse} (h : use ∈ set.attributeUses id) :
    ∃ a, use ∈ set.ownUses a := by
  have hmem := (mem_of_mem_foldl_addUse h).resolve_left nofun
  obtain ⟨a, -, ha⟩ := List.mem_flatMap.mp hmem
  exact ⟨a, ha⟩

/-- No name is used twice. -/
theorem nodup_attributeUses (set : SchemaSet) (id : TypeId) :
    ((set.attributeUses id).map set.useName).Nodup :=
  nodup_foldl_addUse List.nodup_nil

/-- A type that is derived from another one adds its uses to those of its base. -/
theorem attributeUses_of_base (h : set.hasRoot id = true) (hne : set.baseOf id ≠ id) :
    set.attributeUses id = (set.ownUses id).foldl set.addUse (set.attributeUses (set.baseOf id)) := by
  unfold attributeUses
  rw [ancestry_of_hasRoot h hne, List.reverse_cons, List.flatMap_append, List.foldl_append,
    List.flatMap_singleton]

end SchemaBinding.Xsd.SchemaSet
