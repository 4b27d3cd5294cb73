import SchemaBinding.Proofs.Xsd.Bases
import SchemaBinding.Proofs.Xsd.References

/-!
# Completing content

The content of types that wait for it is completed one type after the other, those with fewer bases
first. So when it is the turn of a type, its base has got the content that it will have, and the
content that the type itself gets is not changed any more.

## Main definitions

* `TypeDefinition.withContent`: a type with other content
* `SchemaSet.explicit?`: the content that an extension declares itself
* `SchemaSet.Turn`: the moment at which the content of a type is completed

## Main results

* `SchemaSet.type_setContent_self`, `SchemaSet.grows_setContent`: a single change
* `SchemaSet.turn_of_inheritAll`: every type that waits has its turn
* `SchemaSet.type_of_inheritAll`: types that do not wait stay as they are
-/

namespace SchemaBinding.Xsd

/-- A type with other content; simple types have none. -/
def TypeDefinition.withContent (content : Content) (t : TypeDefinition) : TypeDefinition :=
  match t.kind with
  | .simple _ => t
  | .complex definition => { t with kind := .complex { definition with content := content } }

namespace TypeDefinition

variable (content : Content) (t : TypeDefinition)

@[simp] theorem heading_withContent : (t.withContent content).heading = t.heading := by
  unfold withContent
  split
  · rfl
  · next h => simp [heading, isSimple, h]

theorem kind_withContent_of_complex {definition : ComplexType} (h : t.kind = .complex definition) :
    (t.withContent content).kind = .complex { definition with content := content } := by
  unfold withContent
  split
  · next hsimple => cases h.symm.trans hsimple
  · next hcomplex =>
    cases h.symm.trans hcomplex
    rfl

theorem withContent_of_simple {definition : SimpleType} (h : t.kind = .simple definition) :
    t.withContent content = t := by
  unfold withContent
  split
  · rfl
  · next hcomplex => cases h.symm.trans hcomplex

end TypeDefinition

namespace SchemaSet

/-- The content that a type declares itself, if it is an extension. -/
def explicit? (set : SchemaSet) (id : TypeId) : Option Content :=
  (set.type id).complex?.bind (·.explicitContent)

theorem explicitContentOf_eq (set : SchemaSet) (id : TypeId) :
    set.explicitContentOf id = (set.explicit? id).getD .empty := by
  unfold explicitContentOf explicit?
  cases (set.type id).complex? with
  | none => rfl
  | some definition => rfl

variable {set set' : SchemaSet} {id i : TypeId} {content : Content}

/-! ## Single changes -/

/-- Other types are as before. -/
theorem type_setContent_of_ne (h : i ≠ id) : (set.setContent id content).type i = set.type i := by
  obtain ⟨i⟩ := i
  obtain ⟨j⟩ := id
  have hne : j ≠ i := fun heq => h (heq ▸ rfl)
  simp only [type, setContent, modifyType, Array.getElem?_modify, if_neg hne]

theorem type_setContent_self (h : set.HasType id) :
    (set.setContent id content).type id = (set.type id).withContent content := by
  unfold setContent
  rw [set.type_modifyType h, if_pos rfl]
  rfl

@[simp] theorem hasType_setContent : (set.setContent id content).HasType i ↔ set.HasType i :=
  set.hasType_modifyType

/-- A set grows when a type is given its content. -/
theorem grows_setContent (set : SchemaSet) (id : TypeId) (content : Content) :
    set.Grows (set.setContent id content) := by
  refine ⟨fun i hi => hasType_setContent.mpr hi, fun _ h => h, fun _ h => h, fun i hi => ?_,
    fun _ _ => rfl, fun _ _ => rfl⟩
  by_cases h : i = id
  · subst h
    rw [type_setContent_self hi, TypeDefinition.heading_withContent]
  · rw [type_setContent_of_ne h]

/-- A complex type gets the content that is set. -/
theorem contentOf_setContent_self (h : set.HasType id)
    (hc : (set.type id).isComplex = true) : (set.setContent id content).contentOf id = content := by
  unfold contentOf
  rw [type_setContent_self h]
  unfold TypeDefinition.isComplex TypeDefinition.isSimple at hc
  cases hk : (set.type id).kind with
  | simple => simp [hk] at hc
  | complex definition =>
    simp [TypeDefinition.complex?, TypeDefinition.kind_withContent_of_complex content _ hk]

/-- The content that an extension declares itself stays as it is. -/
theorem explicit?_setContent (set : SchemaSet) (id : TypeId) (content : Content) (i : TypeId) :
    (set.setContent id content).explicit? i = set.explicit? i := by
  unfold explicit?
  by_cases h : i = id
  · subst h
    by_cases hid : set.HasType i
    · rw [type_setContent_self hid]
      cases hk : (set.type i).kind with
      | simple => rw [TypeDefinition.withContent_of_simple content _ hk]
      | complex definition =>
        simp [TypeDefinition.complex?, hk, TypeDefinition.kind_withContent_of_complex content _ hk]
    · rw [type_of_not_hasType hid, type_of_not_hasType (mt hasType_setContent.mp hid)]
  · rw [type_setContent_of_ne h]

/-! ## Types that wait -/

variable {waiting : List (TypeId × Inheritance)} {w : TypeId × Inheritance}

/-- Types but the one whose turn it is stay as they are. -/
theorem type_of_inherit (h : set.inherit w = .ok set') (hi : i ≠ w.1) :
    set'.type i = set.type i := by
  obtain ⟨id, inheritance⟩ := w
  cases inheritance with
  | extension =>
    simp only [inherit] at h
    split at h
    · cases h
      rfl
    · cases h
      exact type_setContent_of_ne hi
  | simpleContent =>
    simp only [inherit] at h
    split at h
    · cases h
      exact type_setContent_of_ne hi
    · cases h

/-- Types that inherit nothing are as before. -/
theorem type_of_foldlM_inherit (h : waiting.foldlM inherit set = .ok set')
    (hi : i ∉ waiting.map Prod.fst) : set'.type i = set.type i := by
  refine of_foldlM (P := fun s => s.type i = set.type i) rfl (fun w hw b c hb hs => ?_) h
  refine (type_of_inherit hs ?_).trans hb
  rintro rfl
  exact hi (List.mem_map_of_mem hw)

/-- What a type says by itself is not changed by what is inherited. -/
theorem explicit?_of_foldlM_inherit (h : waiting.foldlM inherit set = .ok set') (i : TypeId) :
    set'.explicit? i = set.explicit? i :=
  of_foldlM_inherit (P := fun s => s.explicit? i = set.explicit? i)
    (fun s id content hs => (explicit?_setContent s id content i).trans hs) rfl h

/-- Bases are not changed by what is inherited. -/
theorem baseOf_of_foldlM_inherit (h : waiting.foldlM inherit set = .ok set') :
    set'.baseOf = set.baseOf :=
  of_foldlM_inherit (P := fun s => s.baseOf = set.baseOf)
    (fun s id content hs => (baseOf_setContent s id content).trans hs) rfl h

/-- The moment of the completion of a set at which it is the turn of a type: the set just before and
just after it. Then the base of the type is as it will be. -/
structure Turn (set mid next set' : SchemaSet) (id : TypeId) (inheritance : Inheritance) :
    Prop where
  has : mid.HasType id
  step : mid.inherit (id, inheritance) = .ok next
  baseOf : mid.baseOf = set.baseOf
  before : mid.type id = set.type id
  after : set'.type id = next.type id
  base : set.baseOf id ≠ id → set'.type (set.baseOf id) = mid.type (set.baseOf id)

/-- Every type that waits has its turn. Its base has had its own before, or does not wait. -/
theorem turn_of_inheritAll {inheritance : Inheritance} (hset : set.Rooted)
    (hnodup : (waiting.map Prod.fst).Nodup) (hs : set.inheritAll waiting = .ok set')
    (hw : (id, inheritance) ∈ waiting) (hid : set.HasType id) :
    ∃ mid next, Turn set mid next set' id inheritance := by
  unfold inheritAll at hs
  dsimp only at hs
  generalize hle : (fun a b : TypeId × Inheritance =>
    decide (set.baseDepth a.1 ≤ set.baseDepth b.1)) = le at hs
  have hsorted : (waiting.mergeSort le).Pairwise fun a b => le a b = true := by
    subst hle
    exact List.pairwise_mergeSort (fun a b c => by simpa using Nat.le_trans)
      (fun a b => by simpa using Nat.le_total _ _) waiting
  have hperm := List.mergeSort_perm waiting le
  -- The run is cut in three at the turn of the type.
  obtain ⟨before, after, heq⟩ := List.append_of_mem (hperm.mem_iff.mpr hw)
  rw [heq] at hs hsorted hperm
  have hnodup := (hperm.map Prod.fst).nodup_iff.mpr hnodup
  simp only [List.map_append, List.map_cons, List.nodup_append, List.nodup_cons] at hnodup
  rw [List.foldlM_append] at hs
  obtain ⟨mid, hbefore, hs⟩ := bind_eq_ok_iff.mp hs
  rw [List.foldlM_cons] at hs
  obtain ⟨next, hstep, hafter⟩ := bind_eq_ok_iff.mp hs
  refine ⟨mid, next, ?_, hstep, baseOf_of_foldlM_inherit hbefore, ?_, ?_, fun hne => ?_⟩
  · exact of_foldlM_inherit (P := fun s => s.HasType id)
      (fun _ _ _ hs => hasType_setContent.mpr hs) hid hbefore
  · exact type_of_foldlM_inherit hbefore fun hmem =>
      hnodup.2.2 id hmem id List.mem_cons_self rfl
  · exact type_of_foldlM_inherit hafter hnodup.2.1.1
  · -- What comes after the type is at least as far away from the end of its bases.
    have hlater : set.baseOf id ∉ after.map Prod.fst := by
      intro hmem
      obtain ⟨w, hw, hwid⟩ := List.mem_map.mp hmem
      have hle' := (List.pairwise_cons.mp (List.pairwise_append.mp hsorted).2.1).1 w hw
      rw [← hle, decide_eq_true_eq, hwid] at hle'
      exact Nat.not_lt.mpr hle' (hset.baseDepth_lt hid hne)
    rw [type_of_foldlM_inherit hafter hlater, type_of_inherit hstep hne]

/-- Types that do not wait stay as they are. -/
theorem type_of_inheritAll (hs : set.inheritAll waiting = .ok set')
    (hi : i ∉ waiting.map Prod.fst) : set'.type i = set.type i := by
  refine type_of_foldlM_inherit hs fun hmem => hi ?_
  obtain ⟨w, hw, hwi⟩ := List.mem_map.mp hmem
  exact List.mem_map.mpr ⟨w, List.mem_mergeSort.mp hw, hwi⟩

end SchemaSet

end SchemaBinding.Xsd
