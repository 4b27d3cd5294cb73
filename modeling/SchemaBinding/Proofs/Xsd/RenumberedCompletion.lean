import SchemaBinding.Proofs.Xsd.Derivation
import SchemaBinding.Proofs.Xsd.InheritedContent
import SchemaBinding.Proofs.Xsd.Renumbered

/-!
# Completing the same components

Sets with the same components at different places are completed alike. The types wait in the order
in which they have been read, which may not be the same in both; it makes no difference, as types
that are as far away from the end of their bases do not depend on each other.

## Main definitions

* `SchemaSet.inherited`: the content that a type gets when it is its turn
* `SchemaSet.withContent?`: a set in which a type has got content, if there is any for it

## Main results

* `SchemaSet.inherit_comm`: two types that do not depend on each other
* `SchemaSet.inheritAll_of_perm`: types that wait in another order
* `SchemaSet.Renumbered.attributeUses_renumber`, …: what is read off a set
* `Draft.Renumbered.exists_complete`: drafts with the same components are completed alike
-/

namespace SchemaBinding.Xsd

namespace SchemaSet

variable {set set' : SchemaSet} {w w' : TypeId × Inheritance}

/-! ## The order of completing -/

/-- The content that a type gets, if it gets any. -/
def inherited (set : SchemaSet) (w : TypeId × Inheritance) : Result (Option Content) :=
  match w.2 with
  | .extension =>
    if set.baseOf w.1 = anyType then .ok none
    else .ok (some ((set.contentOf (set.baseOf w.1)).extend (set.explicitContentOf w.1)))
  | .simpleContent =>
    match set.contentOf (set.baseOf w.1) with
    | .simple type => .ok (some (.simple type))
    | _ => .error (.parse (.withoutSimpleContent (set.type w.1).displayName) none)

/-- The set with content for a type, if there is any. -/
def withContent? (set : SchemaSet) (id : TypeId) : Option Content → SchemaSet
  | none => set
  | some content => set.setContent id content

theorem inherit_eq (set : SchemaSet) (w : TypeId × Inheritance) :
    set.inherit w = (set.inherited w).map (set.withContent? w.1) := by
  obtain ⟨id, inheritance⟩ := w
  cases inheritance with
  | extension =>
    simp only [inherit, inherited]
    split <;> rfl
  | simpleContent =>
    simp only [inherit, inherited]
    cases set.contentOf (set.baseOf id) <;> rfl

/-- What a type inherits can be given to it if it is there, and this is all that is done. -/
theorem inherit_eq_ok_iff : set.inherit w = .ok set' ↔
    ∃ content, set.inherited w = .ok content ∧ set' = set.withContent? w.1 content := by
  rw [inherit_eq]
  cases set.inherited w with
  | error e => exact ⟨nofun, fun ⟨_, h, _⟩ => nomatch h⟩
  | ok content =>
    constructor
    · intro h
      cases h
      exact ⟨content, rfl, rfl⟩
    · rintro ⟨_, h, rfl⟩
      cases h
      rfl

theorem baseOf_withContent? (set : SchemaSet) (id : TypeId) (content : Option Content) :
    (set.withContent? id content).baseOf = set.baseOf := by
  cases content with
  | none => rfl
  | some content => exact baseOf_setContent set id content

/-- Bases are not inherited, so they stay as they are. -/
theorem baseOf_of_inherit (h : set.inherit w = .ok set') : set'.baseOf = set.baseOf := by
  obtain ⟨content, -, rfl⟩ := inherit_eq_ok_iff.mp h
  exact baseOf_withContent? set w.1 content

/-- Only the type that inherits is changed. -/
theorem type_withContent?_of_ne {id i : TypeId} (content : Option Content) (h : i ≠ id) :
    (set.withContent? id content).type i = set.type i := by
  cases content with
  | none => rfl
  | some content => exact type_setContent_of_ne h

/-- What a type gets depends on its base and on itself. -/
theorem inherited_withContent? {id : TypeId} (content : Option Content) (hself : w.1 ≠ id)
    (hbase : set.baseOf w.1 ≠ id) :
    (set.withContent? id content).inherited w = set.inherited w := by
  unfold inherited contentOf explicitContentOf
  rw [baseOf_withContent?, type_withContent?_of_ne content hself,
    type_withContent?_of_ne content hbase]

/-- Two places of an array are changed in either order. -/
theorem modify_comm {α : Type} (xs : Array α) {i j : Nat} (h : i ≠ j) (f g : α → α) :
    (xs.modify i f).modify j g = (xs.modify j g).modify i f := by
  apply Array.ext_getElem?
  intro k
  simp only [Array.getElem?_modify]
  by_cases hi : i = k
  · subst hi
    rw [if_pos rfl, if_neg (Ne.symm h), if_neg (Ne.symm h), if_pos rfl]
  · rw [if_neg hi, if_neg hi]

theorem setContent_comm {id id' : TypeId} (h : id ≠ id') (content content' : Content) :
    (set.setContent id content).setContent id' content' =
      (set.setContent id' content').setContent id content := by
  have hne : id.index ≠ id'.index := fun heq => h (congrArg TypeId.mk heq)
  exact congrArg (fun types => { set with types }) (modify_comm set.types hne
    (TypeDefinition.withContent content) (TypeDefinition.withContent content'))

/-- Content can be given to two types in either order. -/
theorem withContent?_comm {id id' : TypeId} (h : id ≠ id') (content content' : Option Content) :
    (set.withContent? id content).withContent? id' content' =
      (set.withContent? id' content').withContent? id content := by
  cases content with
  | none => rfl
  | some content =>
    cases content' with
    | none => rfl
    | some content' => exact setContent_comm h content content'

/-- Of two types neither of which is the base of the other one, either may come first. -/
theorem inherit_comm {mid last : SchemaSet} (hne : w.1 ≠ w'.1) (hw : set.baseOf w.1 ≠ w'.1)
    (hw' : set.baseOf w'.1 ≠ w.1) (hmid : set.inherit w = .ok mid)
    (hlast : mid.inherit w' = .ok last) :
    ∃ mid', set.inherit w' = .ok mid' ∧ mid'.inherit w = .ok last := by
  obtain ⟨content, hcontent, rfl⟩ := inherit_eq_ok_iff.mp hmid
  obtain ⟨content', hcontent', rfl⟩ := inherit_eq_ok_iff.mp hlast
  rw [inherited_withContent? content (Ne.symm hne) hw'] at hcontent'
  refine ⟨_, inherit_eq_ok_iff.mpr ⟨content', hcontent', rfl⟩, inherit_eq_ok_iff.mpr
    ⟨content, ?_, withContent?_comm hne content content'⟩⟩
  rw [inherited_withContent? content' hne hw, hcontent]

/-- A type may come after others that do not depend on it, and on which it does not depend. -/
theorem exists_foldlM_inherit {mid last : SchemaSet} {ws : List (TypeId × Inheritance)}
    (hne : ∀ b ∈ ws, w.1 ≠ b.1) (hw : ∀ b ∈ ws, set.baseOf w.1 ≠ b.1)
    (hbase : ∀ b ∈ ws, set.baseOf b.1 ≠ w.1) (hmid : set.inherit w = .ok mid)
    (hlast : ws.foldlM inherit mid = .ok last) :
    ∃ mid', ws.foldlM inherit set = .ok mid' ∧ mid'.inherit w = .ok last := by
  induction ws generalizing set mid with
  | nil =>
    cases hlast
    exact ⟨set, rfl, hmid⟩
  | cons b ws ih =>
    rw [List.foldlM_cons] at hlast
    obtain ⟨next, hnext, hlast⟩ := bind_eq_ok_iff.mp hlast
    obtain ⟨first, hfirst, hnext⟩ := inherit_comm (hne b List.mem_cons_self)
      (hw b List.mem_cons_self) (hbase b List.mem_cons_self) hmid hnext
    have hbaseOf := baseOf_of_inherit hfirst
    obtain ⟨mid', hmid', hlast'⟩ := ih (fun c hc => hne c (List.mem_cons_of_mem b hc))
      (fun c hc => hbaseOf ▸ hw c (List.mem_cons_of_mem b hc))
      (fun c hc => hbaseOf ▸ hbase c (List.mem_cons_of_mem b hc)) hnext hlast
    exact ⟨mid', by rw [List.foldlM_cons, hfirst]; exact hmid', hlast'⟩

/-- Among types that are as far away from the end of their bases, the order makes no difference. -/
theorem foldlM_inherit_of_perm (depth : TypeId → Nat) {last : SchemaSet}
    {ws ws' : List (TypeId × Inheritance)} (hperm : ws.Perm ws')
    (hnodup : (ws.map Prod.fst).Nodup)
    (hsorted : ws.Pairwise fun a b => depth a.1 ≤ depth b.1)
    (hsorted' : ws'.Pairwise fun a b => depth a.1 ≤ depth b.1)
    (hdepth : ∀ a ∈ ws, set.baseOf a.1 ≠ a.1 → depth (set.baseOf a.1) < depth a.1)
    (hlast : ws.foldlM inherit set = .ok last) : ws'.foldlM inherit set = .ok last := by
  induction ws generalizing set ws' with
  | nil =>
    rw [List.nil_perm.mp hperm]
    exact hlast
  | cons w ws ih =>
    rw [List.foldlM_cons] at hlast
    obtain ⟨mid, hmid, hlast⟩ := bind_eq_ok_iff.mp hlast
    obtain ⟨before, after, rfl⟩ := List.append_of_mem (hperm.mem_iff.mp List.mem_cons_self)
    have hrest : ws.Perm (before ++ after) :=
      (List.perm_cons w).mp (hperm.trans List.perm_middle)
    rw [List.map_cons, List.nodup_cons] at hnodup
    rw [List.pairwise_cons] at hsorted
    have hbaseOf := baseOf_of_inherit hmid
    have hlast' := ih hrest hnodup.2 hsorted.2
      (hsorted'.sublist (List.Sublist.append_left (List.sublist_cons_self w after) before))
      (fun a ha => hbaseOf ▸ hdepth a (List.mem_cons_of_mem w ha)) hlast
    rw [List.foldlM_append] at hlast' ⊢
    obtain ⟨next, hnext, hafter⟩ := bind_eq_ok_iff.mp hlast'
    -- What comes before the type in the other order is as far away from the end as the type.
    have hmem : ∀ b ∈ before, b ∈ ws := fun b hb =>
      hrest.mem_iff.mpr (List.mem_append_left after hb)
    have heq : ∀ b ∈ before, depth b.1 = depth w.1 := fun b hb =>
      Nat.le_antisymm ((List.pairwise_append.mp hsorted').2.2 b hb w List.mem_cons_self)
        (hsorted.1 b (hmem b hb))
    have hne : ∀ b ∈ before, w.1 ≠ b.1 := fun b hb heq =>
      hnodup.1 (heq ▸ List.mem_map_of_mem (hmem b hb))
    obtain ⟨mid', hmid', hnext⟩ := exists_foldlM_inherit hne
      (fun b hb hbase => by
        have := hdepth w List.mem_cons_self (hbase ▸ Ne.symm (hne b hb))
        rw [hbase, heq b hb] at this
        exact Nat.lt_irrefl _ this)
      (fun b hb hbase => by
        have := hdepth b (List.mem_cons_of_mem w (hmem b hb)) (hbase ▸ hne b hb)
        rw [hbase, heq b hb] at this
        exact Nat.lt_irrefl _ this)
      hmid hnext
    rw [hmid']
    refine bind_eq_ok_iff.mpr ⟨mid', rfl, ?_⟩
    rw [List.foldlM_cons, hnext]
    exact hafter

/-- The order in which types have come to wait makes no difference. -/
theorem inheritAll_of_perm (hset : set.Rooted) {ws ws' : List (TypeId × Inheritance)}
    (hperm : ws.Perm ws') (hnodup : (ws.map Prod.fst).Nodup) (hws : ∀ a ∈ ws, set.HasType a.1)
    {last : SchemaSet} (hlast : set.inheritAll ws = .ok last) : set.inheritAll ws' = .ok last := by
  have hsort (ws : List (TypeId × Inheritance)) :
      (ws.mergeSort fun a b => decide (set.baseDepth a.1 ≤ set.baseDepth b.1)).Pairwise
        fun a b => set.baseDepth a.1 ≤ set.baseDepth b.1 := by
    have hsorted := @List.pairwise_mergeSort _
      (fun a b : TypeId × Inheritance => decide (set.baseDepth a.1 ≤ set.baseDepth b.1))
      (fun a b c => by simpa using Nat.le_trans) (fun a b => by simpa using Nat.le_total _ _) ws
    simpa using hsorted
  unfold inheritAll at hlast ⊢
  refine foldlM_inherit_of_perm set.baseDepth ?_ ?_ (hsort ws) (hsort ws') ?_ hlast
  · exact ((List.mergeSort_perm ws _).trans hperm).trans (List.mergeSort_perm ws' _).symm
  · exact ((List.mergeSort_perm ws _).map Prod.fst).nodup_iff.mpr hnodup
  · exact fun a ha hne => hset.baseDepth_lt (hws a (List.mem_mergeSort.mp ha)) hne

end SchemaSet

/-! ## What is read off -/

theorem TypeDefinition.complex?_renumber (ρ : Renumbering) (t : TypeDefinition) :
    (t.renumber ρ).complex? = t.complex?.map (ComplexType.renumber ρ) := by
  obtain ⟨name, namespaceUri, base, kind⟩ := t
  cases kind <;> rfl

@[simp] theorem Content.renumber_extend (ρ : Renumbering) (base own : Content) :
    (base.extend own).renumber ρ = (base.renumber ρ).extend (own.renumber ρ) := by
  cases base <;> cases own <;>
    simp [Content.extend, Content.renumber, Particle.renumber]

theorem TypeDefinition.renumber_withContent (ρ : Renumbering) (content : Content)
    (t : TypeDefinition) :
    (t.withContent content).renumber ρ = (t.renumber ρ).withContent (content.renumber ρ) := by
  obtain ⟨name, namespaceUri, base, kind⟩ := t
  cases kind <;> rfl

namespace SchemaSet.Renumbered

variable {ρ : Renumbering} {set set' : SchemaSet} (h : set.Renumbered ρ set')
include h

/-- The base of a type is at its other place. -/
theorem baseOf_renumber (id : TypeId) :
    set'.baseOf (id.renumber ρ) = (set.baseOf id).renumber ρ :=
  congrArg TypeDefinition.base (h.type_renumber id)

/-- The types above a type are at their other places. -/
theorem ancestry_renumber (id : TypeId) :
    set'.ancestry (id.renumber ρ) = (set.ancestry id).map (TypeId.renumber ρ) := by
  unfold ancestry
  rw [h.types_size]
  generalize set.types.size = steps
  induction steps generalizing id with
  | zero => rfl
  | succ steps ih =>
    by_cases hself : set.baseOf id = id
    · rw [ancestryWithin_of_self hself, ancestryWithin_of_self (by rw [h.baseOf_renumber, hself])]
      rfl
    · rw [ancestryWithin_of_ne hself, ancestryWithin_of_ne (by simpa [h.baseOf_renumber]),
        h.baseOf_renumber, ih]
      rfl

theorem baseDepth_renumber (id : TypeId) : set'.baseDepth (id.renumber ρ) = set.baseDepth id := by
  unfold baseDepth
  rw [h.ancestry_renumber, List.length_map]

theorem hasRoot_renumber (id : TypeId) : set'.hasRoot (id.renumber ρ) = set.hasRoot id := by
  unfold hasRoot
  rw [h.ancestry_renumber, List.getLast?_map]
  cases (set.ancestry id).getLast? with
  | none => rfl
  | some root => simp [h.baseOf_renumber]

/-- Bases come to an end in both sets. -/
theorem rooted (hset : set.Rooted) : set'.Rooted := by
  intro id hid
  obtain ⟨i, hi⟩ := ρ.type.surjective id.index
  obtain rfl : TypeId.renumber ρ ⟨i⟩ = id := congrArg TypeId.mk hi
  rw [h.hasRoot_renumber]
  exact hset ⟨i⟩ ((h.hasType_iff ⟨i⟩).mp hid)

/-- The content of a type is the same, and refers to the other places. -/
theorem contentOf_renumber (id : TypeId) :
    set'.contentOf (id.renumber ρ) = (set.contentOf id).renumber ρ := by
  unfold contentOf
  rw [h.type_renumber, TypeDefinition.complex?_renumber]
  cases (set.type id).complex? <;> rfl

theorem explicitContentOf_renumber (id : TypeId) :
    set'.explicitContentOf (id.renumber ρ) = (set.explicitContentOf id).renumber ρ := by
  unfold explicitContentOf
  rw [h.type_renumber, TypeDefinition.complex?_renumber]
  cases (set.type id).complex? with
  | none => rfl
  | some definition =>
    show (definition.explicitContent.map (Content.renumber ρ)).getD .empty =
      (definition.explicitContent.getD .empty).renumber ρ
    cases definition.explicitContent <;> rfl

theorem ownUses_renumber (id : TypeId) :
    set'.ownUses (id.renumber ρ) = (set.ownUses id).map (AttributeUse.renumber ρ) := by
  unfold ownUses
  rw [h.type_renumber, TypeDefinition.complex?_renumber]
  cases (set.type id).complex? <;> rfl

/-- Uses are added, and give way to each other, by their names alone. -/
theorem addUse_renumber (uses : List AttributeUse) (use : AttributeUse) :
    set'.addUse (uses.map (AttributeUse.renumber ρ)) (use.renumber ρ) =
      (set.addUse uses use).map (AttributeUse.renumber ρ) := by
  have hname (u : AttributeUse) :
      (set'.attr (u.renumber ρ).declaration).name = (set.attr u.declaration).name := by
    rw [AttributeUse.renumber, h.attr_renumber]
    rfl
  unfold addUse
  rw [List.map_append, List.filter_map]
  simp only [Function.comp_def, hname, List.map_cons, List.map_nil]

/-- The merged attributes of a type are the same, at their other places. -/
theorem attributeUses_renumber (id : TypeId) :
    set'.attributeUses (id.renumber ρ) = (set.attributeUses id).map (AttributeUse.renumber ρ) := by
  have hfold (us us' : List AttributeUse) :
      (us.map (AttributeUse.renumber ρ)).foldl set'.addUse (us'.map (AttributeUse.renumber ρ)) =
        (us.foldl set.addUse us').map (AttributeUse.renumber ρ) := by
    induction us generalizing us' with
    | nil => rfl
    | cons u us ih => rw [List.map_cons, List.foldl_cons, h.addUse_renumber, ih, List.foldl_cons]
  unfold attributeUses
  rw [h.ancestry_renumber, ← hfold, ← List.map_reverse, List.flatMap_map, List.map_flatMap]
  simp only [h.ownUses_renumber]
  rfl

/-! ## Completing -/

/-- Both sets are changed at one type. -/
theorem setContent (id : TypeId) (content : Content) :
    (set.setContent id content).Renumbered ρ
      (set'.setContent (id.renumber ρ) (content.renumber ρ)) where
  types_size := by simpa [SchemaSet.setContent, modifyType] using h.types_size
  elements_size := h.elements_size
  attributes_size := h.attributes_size
  components := by
    obtain ⟨htypes, helements, hattributes⟩ := shows_iff.mp h.components
    refine shows_iff.mpr ⟨?_, helements, hattributes⟩
    exact htypes.modify ρ.type.injective id.index fun t =>
      (TypeDefinition.renumber_withContent ρ content t).symm
  schemas := h.schemas

/-- A type gets the same content in both sets. -/
theorem exists_inherit {w : TypeId × Inheritance} {next : SchemaSet}
    (hnext : set.inherit w = .ok next) :
    ∃ next', set'.inherit (w.1.renumber ρ, w.2) = .ok next' ∧ next.Renumbered ρ next' := by
  obtain ⟨id, inheritance⟩ := w
  cases inheritance with
  | extension =>
    simp only [inherit, h.baseOf_renumber, h.contentOf_renumber, h.explicitContentOf_renumber]
      at hnext ⊢
    have hroot : (set.baseOf id).renumber ρ = anyType ↔ set.baseOf id = anyType := by
      rw [← renumber_anyType ρ, TypeId.renumber_inj, renumber_anyType]
    by_cases hbase : set.baseOf id = anyType
    · rw [if_pos hbase] at hnext
      cases hnext
      exact ⟨set', if_pos (hroot.mpr hbase), h⟩
    · rw [if_neg hbase] at hnext
      cases hnext
      rw [if_neg (mt hroot.mp hbase), ← Content.renumber_extend]
      exact ⟨_, rfl, h.setContent id _⟩
  | simpleContent =>
    simp only [inherit, h.baseOf_renumber, h.contentOf_renumber] at hnext ⊢
    split at hnext
    · next type hcontent =>
      cases hnext
      rw [hcontent]
      exact ⟨_, rfl, h.setContent id (.simple type)⟩
    · cases hnext

/-- Where everything can be inherited in the one set, it can in the other one. -/
theorem exists_inheritAll {waiting : List (TypeId × Inheritance)} {last : SchemaSet}
    (hlast : set.inheritAll waiting = .ok last) :
    ∃ last', set'.inheritAll (waiting.map fun w => (w.1.renumber ρ, w.2)) = .ok last' ∧
      last.Renumbered ρ last' := by
  unfold inheritAll at hlast ⊢
  rw [← List.map_mergeSort (r := fun a b => decide (set.baseDepth a.1 ≤ set.baseDepth b.1))
    fun a _ b _ => by simp only [h.baseDepth_renumber]]
  dsimp only at hlast ⊢
  generalize waiting.mergeSort _ = ordered at hlast
  induction ordered generalizing set set' with
  | nil =>
    cases hlast
    exact ⟨set', rfl, h⟩
  | cons w ordered ih =>
    rw [List.foldlM_cons] at hlast
    obtain ⟨mid, hmid, hlast⟩ := bind_eq_ok_iff.mp hlast
    obtain ⟨mid', hmid', hrenumbered⟩ := h.exists_inherit hmid
    obtain ⟨last', hlast', hrenumbered'⟩ := ih hrenumbered hlast
    refine ⟨last', ?_, hrenumbered'⟩
    rw [List.map_cons, List.foldlM_cons]
    exact bind_eq_ok_iff.mpr ⟨mid', hmid', hlast'⟩

end SchemaSet.Renumbered

/-- Drafts that have the same components are completed alike. -/
theorem Draft.Renumbered.exists_complete {ρ : Renumbering} {limits : Limits} {d d' : Draft}
    (h : d.Renumbered ρ d') (hd : d.Sound) (hnodup : (d.waiting.map Prod.fst).Nodup)
    {set : SchemaSet} (hset : SchemaSet.complete limits d = .ok set) :
    ∃ set', SchemaSet.complete limits d' = .ok set' ∧ set.Renumbered ρ set' := by
  unfold SchemaSet.complete at hset ⊢
  obtain ⟨_, hbases, hset⟩ := bind_eq_ok_iff.mp hset
  obtain ⟨last, hlast, hset⟩ := bind_eq_ok_iff.mp hset
  obtain ⟨_, hlimit, hset⟩ := bind_eq_ok_iff.mp hset
  cases hset
  have hrooted := h.set.rooted (SchemaSet.rooted_of_checkBases hbases)
  obtain ⟨set', hset', hrenumbered⟩ := h.set.exists_inheritAll hlast
  have hinherit := SchemaSet.inheritAll_of_perm hrooted h.waiting.symm
    (by
      have hmap := hnodup.map (f := TypeId.renumber ρ) fun _ _ heq => (TypeId.renumber_inj ρ).mp heq
      rw [List.map_map] at hmap ⊢
      exact hmap)
    (by
      rintro a ha
      obtain ⟨w, hw, rfl⟩ := List.mem_map.mp ha
      exact (h.set.hasType_iff w.1).mpr (hd.waiting w hw))
    hset'
  rw [← hrenumbered.componentCount_eq] at hlimit
  exact ⟨set', bind_eq_ok_iff.mpr ⟨_, SchemaSet.checkBases_eq_ok_iff.mpr hrooted,
    bind_eq_ok_iff.mpr ⟨set', hinherit, bind_eq_ok_iff.mpr ⟨_, hlimit, rfl⟩⟩⟩, hrenumbered⟩

end SchemaBinding.Xsd
