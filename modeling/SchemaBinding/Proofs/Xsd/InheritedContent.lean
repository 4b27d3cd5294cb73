import Mathlib.Data.List.Chain
import SchemaBinding.Proofs.Xsd.WellFormed

/-!
# Inherited content

In a set that has been read, the content of an extension is that of its base, followed by what the
extension declares itself, whatever the order of the declarations; and simple content is that of the
base. So along a chain of extensions the elements of one type come after those of the other.

## Main definitions

* `SchemaSet.Extends`: a type is an extension of another one
* `Draft.Inherits`: all content of a set is as it should be

## Main results

* `Content.elements_extend`: the elements in the content of an extension
* `Draft.Finished.nodup_waiting`: no type waits twice for content
* `Draft.Inherits.elements_chain`: the elements along a chain of extensions
* `exists_inherits_of_parse`: sets that are read
-/

namespace SchemaBinding.Xsd

/-- The elements of an extension are those of its base and its own. -/
theorem Content.elements_extend (base : Content) {own : Content} (h : own.isSimple = false) :
    (base.extend own).elements = base.elements ++ own.elements := by
  cases base with
  | empty => cases own <;> rfl
  | simple => cases own <;> rfl
  | particle p =>
    cases own with
    | empty => exact (List.append_nil _).symm
    | simple => cases h
    | particle q =>
      show Particle.elementsAmong [p, q] = p.elements ++ q.elements
      rw [Particle.elementsAmong, Particle.elementsAmong, Particle.elementsAmong, List.append_nil]

/-- Content that is not simple gives way to that of the base only if it is empty. -/
theorem Content.eq_simple_of_extend {base own : Content} {t : TypeId} (h : own.isSimple = false)
    (ht : base.extend own = .simple t) : base = .simple t := by
  cases own with
  | empty => cases base <;> exact ht
  | simple => cases h
  | particle => cases base <;> cases ht

/-! ## Types that wait -/

namespace Draft

variable {documents : List SchemaDocument} {d : Draft}

theorem mem_waitingOf {id : TypeId} {inheritance : Inheritance} :
    inheritance ∈ d.waitingOf id ↔ (id, inheritance) ∈ d.waiting := by
  unfold waitingOf
  simp only [List.mem_map, List.mem_filter, decide_eq_true_eq]
  constructor
  · rintro ⟨⟨i, _⟩, ⟨hw, rfl⟩, rfl⟩
    exact hw
  · exact fun hw => ⟨_, ⟨hw, rfl⟩, rfl⟩

theorem not_mem_waiting {id : TypeId} (hextension : (id, Inheritance.extension) ∉ d.waiting)
    (hsimple : (id, Inheritance.simpleContent) ∉ d.waiting) :
    ∀ inheritance, (id, inheritance) ∉ d.waiting
  | .extension => hextension
  | .simpleContent => hsimple

namespace Finished

variable (h : d.Finished documents) {id : TypeId}
include h

/-- What a type says, apart from the draft. -/
theorem exists_says (hid : d.set.HasType id) (hne : id ≠ SchemaSet.anySimpleType) :
    ∃ kind waits, (d.set.type id).kind = kind ∧ d.waitingOf id = waits ∧
      d.set.Says (d.set.baseOf id) kind waits :=
  ⟨_, _, rfl, rfl, h.settled id hid hne⟩

/-- No type waits twice. -/
theorem nodup_waiting : (d.waiting.map Prod.fst).Nodup := by
  rw [List.nodup_iff_count]
  intro id
  have hcount : (d.waiting.map Prod.fst).count id = (d.waitingOf id).length := by
    unfold waitingOf
    rw [List.count_eq_countP, List.countP_map, List.countP_eq_length_filter, List.length_map]
    rfl
  rw [hcount]
  by_cases hid : d.set.HasType id
  · by_cases hne : id = SchemaSet.anySimpleType
    · rw [hne, h.waiting]
      exact Nat.zero_le 1
    · obtain ⟨kind, waits, -, hwaits, hs⟩ := h.exists_says hid hne
      rw [hwaits]
      cases hs with
      | simple | content | simpleBase => exact Nat.zero_le 1
      | simpleContent | extension => exact Nat.le_refl 1
  · rw [h.sound.waitingOf_eq_nil hid]
    exact Nat.zero_le 1

/-- What a type says that waits: it has simple content that is still unknown, or it is an extension
that has its own content. -/
theorem cases_waiting {inheritance : Inheritance} (hw : (id, inheritance) ∈ d.waiting) :
    (d.set.type id).isComplex = true ∧ (d.set.type (d.set.baseOf id)).isComplex = true ∧
      (inheritance = .simpleContent ∧ d.set.explicit? id = none ∧ d.set.contentOf id = .empty ∨
        inheritance = .extension ∧ d.set.explicit? id = some (d.set.contentOf id) ∧
          (d.set.contentOf id).isSimple = false) := by
  have hmem := mem_waitingOf.mpr hw
  have hne : id ≠ SchemaSet.anySimpleType := by
    rintro rfl
    rw [h.waiting] at hmem
    cases hmem
  obtain ⟨kind, waits, hk, hwaits, hs⟩ := h.exists_says (h.sound.waiting _ hw) hne
  rw [hwaits] at hmem
  unfold SchemaSet.explicit? SchemaSet.contentOf TypeDefinition.complex?
  rw [TypeDefinition.isComplex, TypeDefinition.isSimple_eq, hk]
  cases hs with
  | simple | content | simpleBase => cases hmem
  | simpleContent _ hcomplex _ hexplicit hcontent =>
    obtain rfl := List.mem_singleton.mp hmem
    exact ⟨rfl, hcomplex, .inl ⟨rfl, hexplicit, hcontent⟩⟩
  | extension _ hcomplex _ hexplicit hcontent =>
    obtain rfl := List.mem_singleton.mp hmem
    exact ⟨rfl, hcomplex, .inr ⟨rfl, hexplicit, hcontent⟩⟩

/-- An extension that waits has its own content. -/
theorem of_extension_mem (hw : (id, Inheritance.extension) ∈ d.waiting) :
    (d.set.type id).isComplex = true ∧ d.set.explicit? id = some (d.set.contentOf id) ∧
      (d.set.contentOf id).isSimple = false := by
  obtain ⟨hcomplex, -, ⟨hwrong, -⟩ | ⟨-, hexplicit, hcontent⟩⟩ := h.cases_waiting hw
  · cases hwrong
  · exact ⟨hcomplex, hexplicit, hcontent⟩

/-- A type that waits for simple content has none yet. -/
theorem of_simpleContent_mem (hw : (id, Inheritance.simpleContent) ∈ d.waiting) :
    (d.set.type id).isComplex = true ∧ d.set.explicit? id = none ∧
      d.set.contentOf id = .empty := by
  obtain ⟨hcomplex, -, ⟨-, hexplicit, hempty⟩ | ⟨hwrong, -⟩⟩ := h.cases_waiting hw
  · exact ⟨hcomplex, hexplicit, hempty⟩
  · cases hwrong

/-- What a type says that does not wait: it is no extension, and if it has simple content this is
its base. -/
theorem cases_not_waiting (hw : ∀ inheritance, (id, inheritance) ∉ d.waiting) :
    d.set.explicit? id = none ∧ ∀ t, d.set.contentOf id = .simple t → d.set.baseOf id = t ∧
      (d.set.type (d.set.baseOf id)).isSimple = true := by
  unfold SchemaSet.explicit? SchemaSet.contentOf TypeDefinition.complex?
  by_cases hid : d.set.HasType id
  · by_cases hne : id = SchemaSet.anySimpleType
    · rw [hne, h.anySimpleType]
      exact ⟨rfl, by rintro _ ⟨⟩⟩
    · obtain ⟨kind, waits, hk, hwaits, hs⟩ := h.exists_says hid hne
      have hnil : waits = [] :=
        hwaits ▸ List.eq_nil_iff_forall_not_mem.mpr fun _ hi => hw _ (mem_waitingOf.mp hi)
      rw [hk]
      cases hs with
      | simple => exact ⟨rfl, by rintro _ ⟨⟩⟩
      | @content definition _ _ hexplicit hcontent =>
        refine ⟨hexplicit, fun t ht => ?_⟩
        have ht : definition.content = .simple t := ht
        rw [ht] at hcontent
        cases hcontent
      | simpleBase hbase _ hexplicit hcontent =>
        refine ⟨hexplicit, fun t ht => ⟨?_, hbase⟩⟩
        exact Content.simple.inj (hcontent.symm.trans ht)
      | simpleContent | extension => cases hnil
  · rw [SchemaSet.type_of_not_hasType hid]
    exact ⟨rfl, by rintro _ ⟨⟩⟩

/-- Extensions are the types that wait for what comes before their own content. -/
theorem isSome_explicit_iff :
    (d.set.explicit? id).isSome = true ↔ (id, Inheritance.extension) ∈ d.waiting := by
  constructor
  · intro hsome
    refine Classical.byContradiction fun hw => ?_
    have hnone : d.set.explicit? id = none := by
      by_cases hsimple : (id, Inheritance.simpleContent) ∈ d.waiting
      · exact (h.of_simpleContent_mem hsimple).2.1
      · exact (h.cases_not_waiting (not_mem_waiting hw hsimple)).1
    rw [hnone] at hsome
    cases hsome
  · intro hw
    rw [(h.of_extension_mem hw).2.1]
    rfl

end Finished

end Draft

/-! ## Complete content -/

namespace SchemaSet

theorem contentOf_congr {set set' : SchemaSet} {id : TypeId} (h : set.type id = set'.type id) :
    set.contentOf id = set'.contentOf id := by
  unfold contentOf
  rw [h]

theorem explicit?_congr {set set' : SchemaSet} {id : TypeId} (h : set.type id = set'.type id) :
    set.explicit? id = set'.explicit? id := by
  unfold explicit?
  rw [h]

/-- A type is an extension of another one. -/
def Extends (set : SchemaSet) (base id : TypeId) : Prop :=
  (set.explicit? id).isSome = true ∧ set.baseOf id = base

/-- What comes in a chain of extensions that does not start with an extension of itself is another
type at each step. -/
theorem isChain_ne {set : SchemaSet} {first : TypeId} {rest : List TypeId}
    (hchain : List.IsChain set.Extends (first :: rest)) (hfirst : ¬ set.Extends first first) :
    List.IsChain (fun a b => set.Extends a b ∧ a ≠ b) (first :: rest) := by
  induction rest generalizing first with
  | nil => exact .singleton first
  | cons next rest ih =>
    rw [List.isChain_cons_cons] at hchain ⊢
    have hne : first ≠ next := fun heq => hfirst (heq ▸ hchain.1 : set.Extends first first)
    exact ⟨⟨hchain.1, hne⟩, ih hchain.2 fun hself => hne (hchain.1.2.symm.trans hself.2)⟩

end SchemaSet

namespace Draft

/-- A set that has all content that its types inherit, after a draft of it has been read. -/
structure Inherits (d : Draft) (set : SchemaSet) : Prop where
  /-- Extensions are the types that have been read as such. -/
  isSome_explicit_iff : ∀ id,
    (set.explicit? id).isSome = true ↔ (id, Inheritance.extension) ∈ d.waiting
  /-- What an extension declares itself is the content that has been read. -/
  explicit : ∀ id own, set.explicit? id = some own → own = d.set.contentOf id
  /-- The content of an extension is that of its base, followed by its own. -/
  extension : ∀ id own, set.explicit? id = some own → set.baseOf id ≠ SchemaSet.anyType →
    set.baseOf id ≠ id → set.contentOf id = (set.contentOf (set.baseOf id)).extend own
  /-- Along a chain of extensions, the elements of one type come after those of the other. -/
  elements : ∀ first rest, List.IsChain set.Extends (first :: rest) →
    (∀ base, set.Extends base first → base = SchemaSet.anyType) →
      (set.contentOf ((first :: rest).getLast (List.cons_ne_nil _ _))).elements =
        (first :: rest).flatMap fun id => (d.set.contentOf id).elements
  /-- None of the types in such a chain is there twice. -/
  nodup : ∀ first rest, List.IsChain set.Extends (first :: rest) →
    (∀ base, set.Extends base first → base = SchemaSet.anyType) → (first :: rest).Nodup
  /-- A type that has been read with simple content from a complex base has that of its base. -/
  simpleContent : ∀ id, (id, Inheritance.simpleContent) ∈ d.waiting →
    ∃ t, set.contentOf (set.baseOf id) = .simple t ∧ set.contentOf id = .simple t
  /-- No other type with a complex base has simple content. -/
  simple : ∀ id t, set.contentOf id = .simple t →
    (set.type (set.baseOf id)).isComplex = true →
      set.contentOf (set.baseOf id) = .simple t

section Completed

variable {documents : List SchemaDocument} {d : Draft} {set : SchemaSet} {id : TypeId}
  (h : d.Finished documents) (hrooted : d.set.Rooted) (hs : d.set.inheritAll d.waiting = .ok set)

include hs in
theorem baseOf_completed : set.baseOf = d.set.baseOf := SchemaSet.baseOf_of_foldlM_inherit hs

include hs in
theorem explicit?_completed (id : TypeId) : set.explicit? id = d.set.explicit? id :=
  SchemaSet.explicit?_of_foldlM_inherit hs id

include hs in
theorem grows_completed : d.set.Grows set :=
  SchemaSet.of_foldlM_inherit (P := d.set.Grows)
    (fun s id content hg => hg.trans (SchemaSet.grows_setContent s id content)) (.refl _) hs

include hs in
/-- The content of types that do not wait is what has been read. -/
theorem contentOf_completed (hw : ∀ inheritance, (id, inheritance) ∉ d.waiting) :
    set.contentOf id = d.set.contentOf id := by
  refine SchemaSet.contentOf_congr (SchemaSet.type_of_inheritAll hs ?_)
  intro hmem
  obtain ⟨⟨i, inheritance⟩, hw', rfl⟩ := List.mem_map.mp hmem
  exact hw inheritance hw'

include h hrooted hs

/-- The content of an extension, when all types have been completed. An extension of `anyType` keeps
its own. -/
theorem contentOf_extension (hw : (id, Inheritance.extension) ∈ d.waiting) :
    (d.set.baseOf id = SchemaSet.anyType → set.contentOf id = d.set.contentOf id) ∧
      (d.set.baseOf id ≠ SchemaSet.anyType → d.set.baseOf id ≠ id → set.contentOf id =
        (set.contentOf (d.set.baseOf id)).extend (d.set.contentOf id)) := by
  obtain ⟨mid, next, hturn⟩ := SchemaSet.turn_of_inheritAll hrooted h.nodup_waiting hs hw
    (h.sound.waiting _ hw)
  have hstep := hturn.step
  simp only [SchemaSet.inherit, hturn.baseOf] at hstep
  rw [SchemaSet.contentOf_congr hturn.after]
  refine ⟨fun hbase => ?_, fun hbase hne => ?_⟩
  · rw [if_pos hbase] at hstep
    cases hstep
    exact SchemaSet.contentOf_congr hturn.before
  · rw [if_neg hbase] at hstep
    cases hstep
    obtain ⟨hcomplex, hexplicit, -⟩ := h.of_extension_mem hw
    rw [SchemaSet.contentOf_setContent_self hturn.has (hturn.before ▸ hcomplex),
      SchemaSet.contentOf_congr (hturn.base hne), SchemaSet.explicitContentOf_eq,
      SchemaSet.explicit?_congr hturn.before, hexplicit]
    rfl

/-- Simple content that had been unknown is that of the base, which is another type. -/
theorem contentOf_simpleContent (hw : (id, Inheritance.simpleContent) ∈ d.waiting) :
    ∃ t, set.contentOf (d.set.baseOf id) = .simple t ∧ set.contentOf id = .simple t := by
  obtain ⟨mid, next, hturn⟩ := SchemaSet.turn_of_inheritAll hrooted h.nodup_waiting hs hw
    (h.sound.waiting _ hw)
  obtain ⟨hcomplex, -, hempty⟩ := h.of_simpleContent_mem hw
  have hstep := hturn.step
  simp only [SchemaSet.inherit, hturn.baseOf] at hstep
  split at hstep
  · next t ht =>
    cases hstep
    refine ⟨t, ?_, ?_⟩
    · rw [SchemaSet.contentOf_congr (hturn.base fun hself => ?_)]
      · exact ht
      · rw [hself, SchemaSet.contentOf_congr hturn.before, hempty] at ht
        cases ht
    · rw [SchemaSet.contentOf_congr hturn.after]
      exact SchemaSet.contentOf_setContent_self hturn.has (hturn.before ▸ hcomplex)
  · cases hstep

omit hrooted in
/-- An extension waits for what comes before its own content. -/
theorem explicit_completed {own : Content} (hown : set.explicit? id = some own) :
    (id, Inheritance.extension) ∈ d.waiting ∧ own = d.set.contentOf id ∧ own.isSimple = false := by
  rw [explicit?_completed hs] at hown
  have hw := h.isSome_explicit_iff.mp (by rw [hown]; rfl)
  obtain ⟨-, hexplicit, hcontent⟩ := h.of_extension_mem hw
  obtain rfl := Option.some.inj (hown.symm.trans hexplicit)
  exact ⟨hw, rfl, hcontent⟩

/-! ### Chains of extensions -/

omit hrooted in
/-- There are no elements in the content of `anyType`, which does not wait. -/
theorem elements_anyType : (set.contentOf SchemaSet.anyType).elements = [] := by
  have hextension : (SchemaSet.anyType, Inheritance.extension) ∉ d.waiting := by
    intro hw
    have hexplicit := (h.of_extension_mem hw).2.1
    unfold SchemaSet.explicit? at hexplicit
    rw [h.anyType] at hexplicit
    cases hexplicit
  have hsimple : (SchemaSet.anyType, Inheritance.simpleContent) ∉ d.waiting := by
    intro hw
    have hempty := (h.of_simpleContent_mem hw).2.2
    unfold SchemaSet.contentOf at hempty
    rw [h.anyType] at hempty
    cases hempty
  rw [contentOf_completed hs (not_mem_waiting hextension hsimple)]
  unfold SchemaSet.contentOf
  rw [h.anyType]
  rfl

/-- The elements of an extension of another type come after those of that type. -/
theorem elements_extends {base : TypeId} (hextends : set.Extends base id) (hne : base ≠ id) :
    (set.contentOf id).elements =
      (set.contentOf base).elements ++ (d.set.contentOf id).elements := by
  obtain ⟨hsome, rfl⟩ := hextends
  obtain ⟨own, hown⟩ := Option.isSome_iff_exists.mp hsome
  obtain ⟨hw, rfl, hcontent⟩ := explicit_completed h hs hown
  obtain ⟨hroot, hextension⟩ := contentOf_extension h hrooted hs hw
  rw [baseOf_completed hs] at hne ⊢
  by_cases hbase : d.set.baseOf id = SchemaSet.anyType
  · rw [hroot hbase, hbase, elements_anyType h hs, List.nil_append]
  · rw [hextension hbase hne, Content.elements_extend _ hcontent]

/-- The elements along a chain of extensions, by induction on the types that come. -/
theorem elements_chain {first : TypeId} {rest : List TypeId}
    (hchain : List.IsChain (fun a b => set.Extends a b ∧ a ≠ b) (first :: rest)) :
    (set.contentOf ((first :: rest).getLast (List.cons_ne_nil _ _))).elements =
      (set.contentOf first).elements ++ rest.flatMap fun id => (d.set.contentOf id).elements := by
  induction rest generalizing first with
  | nil => simp
  | cons next rest ih =>
    rw [List.isChain_cons_cons] at hchain
    rw [List.getLast_cons_cons, ih hchain.2, List.flatMap_cons,
      elements_extends h hrooted hs hchain.1.1 hchain.1.2, List.append_assoc]

/-- A chain of extensions gets farther away from the end of the bases. -/
theorem nodup_chain {types : List TypeId}
    (hchain : List.IsChain (fun a b => set.Extends a b ∧ a ≠ b) types) : types.Nodup := by
  have hdepth : List.IsChain (fun a b => d.set.baseDepth a < d.set.baseDepth b) types := by
    refine hchain.imp fun a b ⟨⟨hsome, hbase⟩, hne⟩ => ?_
    obtain ⟨own, hown⟩ := Option.isSome_iff_exists.mp hsome
    have hw := (explicit_completed h hs hown).1
    rw [baseOf_completed hs] at hbase
    subst hbase
    exact hrooted.baseDepth_lt (h.sound.waiting _ hw) hne
  have htrans : Trans (fun a b => d.set.baseDepth a < d.set.baseDepth b)
      (fun a b => d.set.baseDepth a < d.set.baseDepth b)
      (fun a b => d.set.baseDepth a < d.set.baseDepth b) := ⟨Nat.lt_trans⟩
  refine hdepth.pairwise.imp ?_
  rintro a b hlt rfl
  exact Nat.lt_irrefl _ hlt

/-! ### All content -/

/-- A type that is no extension but of `anyType` has the elements that have been read for it. -/
theorem elements_first {first : TypeId}
    (hfirst : ∀ base, set.Extends base first → base = SchemaSet.anyType) :
    (set.contentOf first).elements = (d.set.contentOf first).elements := by
  by_cases hw : (first, Inheritance.extension) ∈ d.waiting
  · have hbase : set.baseOf first = SchemaSet.anyType := by
      refine hfirst _ ⟨?_, rfl⟩
      rw [explicit?_completed hs]
      exact h.isSome_explicit_iff.mpr hw
    rw [(contentOf_extension h hrooted hs hw).1 (baseOf_completed hs ▸ hbase)]
  · by_cases hsimple : (first, Inheritance.simpleContent) ∈ d.waiting
    · obtain ⟨t, -, ht⟩ := contentOf_simpleContent h hrooted hs hsimple
      rw [ht, (h.of_simpleContent_mem hsimple).2.2]
      rfl
    · rw [contentOf_completed hs (not_mem_waiting hw hsimple)]

/-- Simple content comes from the base if this is complex. -/
theorem simple_completed {t : TypeId} (ht : set.contentOf id = .simple t)
    (hcomplex : (set.type (set.baseOf id)).isComplex = true) :
    set.contentOf (set.baseOf id) = .simple t := by
  by_cases hw : (id, Inheritance.extension) ∈ d.waiting
  · obtain ⟨-, -, hcontent⟩ := h.of_extension_mem hw
    obtain ⟨hroot, hextension⟩ := contentOf_extension h hrooted hs hw
    by_cases hne : set.baseOf id = id
    · rwa [hne]
    rw [baseOf_completed hs] at hne ⊢
    by_cases hbase : d.set.baseOf id = SchemaSet.anyType
    · rw [← hroot hbase, ht] at hcontent
      cases hcontent
    · exact Content.eq_simple_of_extend hcontent ((hextension hbase hne).symm.trans ht)
  · by_cases hsimple : (id, Inheritance.simpleContent) ∈ d.waiting
    · obtain ⟨t', hbase, ht'⟩ := contentOf_simpleContent h hrooted hs hsimple
      obtain rfl := Content.simple.inj (ht.symm.trans ht')
      rwa [baseOf_completed hs]
    · have hnot := not_mem_waiting hw hsimple
      rw [contentOf_completed hs hnot] at ht
      have hbase := ((h.cases_not_waiting hnot).2 t ht).2
      rw [baseOf_completed hs, TypeDefinition.isComplex,
        (grows_completed hs).isSimple hbase] at hcomplex
      cases hcomplex

/-- When all types have been completed, they have all that they inherit. -/
theorem inherits : d.Inherits set := by
  have hself : ∀ first, (∀ base, set.Extends base first → base = SchemaSet.anyType) →
      ¬ set.Extends first first := by
    intro first hfirst hself
    obtain rfl := hfirst first hself
    obtain ⟨hsome, -⟩ := hself
    rw [explicit?_completed hs, SchemaSet.explicit?, h.anyType] at hsome
    cases hsome
  refine ⟨fun id => ?_, fun id own hown => ?_, fun id own hown hbase hne => ?_,
    fun first rest hchain hfirst => ?_, fun first rest hchain hfirst => ?_, fun id hw => ?_,
    fun id t ht hcomplex => ?_⟩
  · rw [explicit?_completed hs]
    exact h.isSome_explicit_iff
  · exact (explicit_completed h hs hown).2.1
  · obtain ⟨hw, rfl, -⟩ := explicit_completed h hs hown
    rw [baseOf_completed hs] at hbase hne ⊢
    exact (contentOf_extension h hrooted hs hw).2 hbase hne
  · rw [elements_chain h hrooted hs (SchemaSet.isChain_ne hchain (hself first hfirst)),
      List.flatMap_cons, elements_first h hrooted hs hfirst]
  · exact nodup_chain h hrooted hs (SchemaSet.isChain_ne hchain (hself first hfirst))
  · rw [baseOf_completed hs]
    exact contentOf_simpleContent h hrooted hs hw
  · exact simple_completed h hrooted hs ht hcomplex

end Completed

end Draft

/-- In a set that is read, all types have the content that they inherit. -/
theorem exists_inherits_of_parse {files : FileSystem} {limits : Limits} {location : Location}
    {set : SchemaSet} (h : (SchemaSet.parse files limits location).1 = .ok set) :
    ∃ documents log draft, SchemaDocument.loadAll files limits location = (.ok documents, log) ∧
      (SchemaSet.readDocuments documents).run.run (.ofDocuments documents log) =
        (.ok ⟨⟩, draft) ∧
      draft.Inherits set := by
  obtain ⟨documents, log, draft, hload, hread, hs⟩ := SchemaSet.exists_of_parse h
  obtain ⟨hbases, hs⟩ := SchemaSet.inheritAll_of_complete hs
  refine ⟨documents, log, draft, hload, hread, ?_⟩
  exact Draft.inherits (Draft.finished_of_read hread) (SchemaSet.rooted_of_checkBases hbases) hs

/-- The elements in the content of an extension of another type are those of its base and its own.
-/
theorem SchemaSet.Accepted.elements_extension {set : SchemaSet} (h : set.Accepted) {id : TypeId}
    {own : Content} (hown : set.explicit? id = some own) (hne : set.baseOf id ≠ id) :
    (set.contentOf id).elements = (set.contentOf (set.baseOf id)).elements ++ own.elements := by
  obtain ⟨files, limits, location, h⟩ := h
  obtain ⟨documents, log, draft, -, hread, hs⟩ := SchemaSet.exists_of_parse h
  obtain ⟨hbases, hs⟩ := SchemaSet.inheritAll_of_complete hs
  have hfinished := Draft.finished_of_read hread
  have hextends : set.Extends (set.baseOf id) id := ⟨by rw [hown]; rfl, rfl⟩
  rw [(Draft.explicit_completed hfinished hs hown).2.1]
  exact Draft.elements_extends hfinished (SchemaSet.rooted_of_checkBases hbases) hs hextends hne

/-- An extension that is declared before its base. -/
def chainedText : String :=
  "<schema xmlns=\"http://www.w3.org/2001/XMLSchema\" xmlns:t=\"t\" targetNamespace=\"t\">" ++
  "<complexType name=\"B\"><complexContent><extension base=\"t:A\">" ++
  "<choice><element name=\"b\"/></choice></extension></complexContent></complexType>" ++
  "<complexType name=\"A\"><sequence><element name=\"a\"/></sequence></complexType></schema>"

section Chained

set_option maxRecDepth 100000

/-- The schema is read, and the one type is an extension of the other one. -/
theorem chained_facts : (SchemaSet.readText chainedText).isOk = true ∧
    (SchemaSet.ofText chainedText).Extends ⟨47⟩ ⟨46⟩ := by
  unfold SchemaSet.Extends
  decide +kernel

theorem parse_chained :
    (SchemaSet.parse .empty .standard (.inMemory chainedText)).1 = .ok (.ofText chainedText) :=
  SchemaSet.parse_ofText chained_facts.1

/-- The extension has inherited all, though it came before its base. -/
theorem inherits_chained :
    (SchemaSet.ofText chainedText).Extends ⟨47⟩ ⟨46⟩ ∧
    ∃ documents log draft,
      SchemaDocument.loadAll .empty .standard (.inMemory chainedText) = (.ok documents, log) ∧
      (SchemaSet.readDocuments documents).run.run (.ofDocuments documents log) =
        (.ok ⟨⟩, draft) ∧
      draft.Inherits (.ofText chainedText) :=
  ⟨chained_facts.2, exists_inherits_of_parse parse_chained⟩

end Chained

end SchemaBinding.Xsd
