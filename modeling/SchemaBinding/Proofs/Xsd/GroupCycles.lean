import Mathlib.Data.List.Perm.Subperm
import Mathlib.Logic.Relation
import SchemaBinding.Proofs.Xsd.Additions
import SchemaBinding.Proofs.Xsd.GroupUses
import SchemaBinding.Proofs.Xsd.Inlining

/-!
# Groups that are used within themselves

A group is refused when it is used within a group of its name. Groups and attribute groups are named
apart, but the names that are being expanded are kept in one list. So a set of documents is refused
because of a group just if, on the way from a global component along the uses of groups, one name
comes twice: for one group, which is then used within itself, or for a group and an attribute group.

## Main definitions

* `GroupNode`: groups and attribute groups, by their names
* `GroupLink`: one group is used in the definition of another one
* `Free`: no name comes twice from a group on, and none that is being expanded

## Main results

* `DraftM.tests_readGroupWithin`, `DraftM.tests_readAttributeUsesWithin`: the expansion of a group
  tests whether it is free
-/

namespace SchemaBinding.Xsd

open Xml (Element QName)
open Relation (ReflTransGen TransGen)

/-! ## The graph of groups -/

/-- A group or an attribute group, by its name. -/
structure GroupNode where
  kind : GroupKind
  name : QName
  deriving DecidableEq, Repr

/-- Which uses of groups are in an element that is read as something. -/
abbrev Occurrence := Holder → Element → GroupKind → Element → Prop

/-- What an element that is read as something uses: a group that one of the uses in it refers to. -/
def Context.UsesGroup (uses : Occurrence) (context : Context) (holder : Holder) (e : Element)
    (n : GroupNode) : Prop :=
  ∃ use reference, uses holder e n.kind use ∧ use.attribute? "ref" = some reference ∧
    context.resolve use reference = .ok n.name

/-- The one group is used in a definition of the other one. -/
def GroupLink (uses : Occurrence) (defines : GroupNode → GroupDefinition → Prop)
    (n m : GroupNode) : Prop :=
  ∃ definition, defines n definition ∧
    definition.context.UsesGroup uses (.definition n.kind) definition.element m

/-- From a group on, no name comes twice, and none that is being expanded. -/
def Free (link : GroupNode → GroupNode → Prop) (expanding : List QName) (n : GroupNode) : Prop :=
  (∀ m, ReflTransGen link n m → m.name ∉ expanding) ∧
    ∀ m k, ReflTransGen link n m → TransGen link m k → m.name ≠ k.name

section Free

variable {link : GroupNode → GroupNode → Prop} {expanding : List QName} {n : GroupNode}

theorem Free.not_mem (h : Free link expanding n) : n.name ∉ expanding := h.1 n .refl

/-- What is used in a group that is being expanded has to be free of its name too. -/
theorem free_iff (hn : n.name ∉ expanding) : Free link expanding n ↔
    ∀ m, link n m → Free link (n.name :: expanding) m := by
  constructor
  · rintro ⟨hout, htwice⟩ m hm
    refine ⟨fun k hk => ?_, fun k l hk hl => htwice k l (.head hm hk) hl⟩
    rw [List.mem_cons, not_or]
    exact ⟨(htwice n k .refl (.head' hm hk)).symm, hout k (.head hm hk)⟩
  · intro h
    constructor
    · intro k hk
      rcases ReflTransGen.cases_head hk with rfl | ⟨m, hm, hk⟩
      · exact hn
      · exact fun hmem => (h m hm).1 k hk (List.mem_cons_of_mem _ hmem)
    · intro k l hk hl
      rcases ReflTransGen.cases_head hk with rfl | ⟨m, hm, hk⟩
      · obtain ⟨m, hm, hl⟩ := TransGen.head'_iff.mp hl
        exact fun heq => (h m hm).1 l hl (heq ▸ List.mem_cons_self)
      · exact (h m hm).2 k l hk hl

end Free

/-! ## Expansion -/

/-- The groups of a kind. -/
def Draft.groupsOf (d : Draft) : GroupKind → OrderedMap QName GroupDefinition
  | .content => d.groups
  | .attributes => d.attributeGroups

/-- The groups are those of another draft. -/
def Draft.SameGroups (first d : Draft) : Prop := d.groupsOf = first.groupsOf

theorem Draft.stable_sameGroups (first : Draft) : Draft.Stable first.SameGroups where
  log _ _ h := h
  waiting _ _ h := h
  addType _ _ _ _ h := h
  addElement _ _ _ h := h
  addAttribute _ _ _ h := h
  defineType _ _ _ _ h := h
  modifyElement _ _ _ _ h := h
  modifyAttribute _ _ _ _ h := h

/-- A definition of a group in a draft. -/
def Draft.DefinesGroup (d : Draft) (n : GroupNode) (definition : GroupDefinition) : Prop :=
  (d.groupsOf n.kind).get? n.name = some definition

/-- The uses of groups that are read in the definitions of a draft. -/
abbrev Draft.GroupLink (d : Draft) : GroupNode → GroupNode → Prop :=
  Xsd.GroupLink GroupUse d.DefinesGroup

/-- A use refers only to groups that are free. -/
def Draft.FreeUse (d : Draft) (expanding : List QName) (context : Context) (kind : GroupKind)
    (use : Element) : Prop :=
  ∀ reference name, use.attribute? "ref" = some reference →
    context.resolve use reference = .ok name → Free d.GroupLink expanding ⟨kind, name⟩

/-- What a declared component is read as, if it may use groups. -/
def Global.holder? (g : Global) : Option Holder :=
  match g.target with
  | .element _ => some .element
  | .complexType _ => some .complexType
  | .attr _ | .simpleType _ => none

namespace DraftM

variable {first : Draft} {expanding : List QName} {context : Context}

/-- All uses in an element are free just if all groups are that it uses. -/
theorem allUses_freeUse_iff {holder : Holder} {e : Element} :
    AllUses (first.FreeUse expanding context) holder e ↔
      ∀ n, context.UsesGroup GroupUse holder e n → Free first.GroupLink expanding n := by
  constructor
  · rintro h ⟨kind, name⟩ ⟨use, reference, hu, href, hname⟩
    exact h kind use hu reference name href hname
  · intro h kind use hu reference name href hname
    exact h ⟨kind, name⟩ ⟨use, reference, hu, href, hname⟩

/-- The use of a group that is not being expanded is free just if all uses in its definition are. -/
theorem freeUse_iff {kind : GroupKind} {e : Element} {reference : String} {name : QName}
    {definition : GroupDefinition} (href : e.attribute? "ref" = some reference)
    (hname : context.resolve e reference = .ok name) (hnot : name ∉ expanding)
    (hdefinition : (first.groupsOf kind).get? name = some definition) :
    first.FreeUse expanding context kind e ↔
      AllUses (first.FreeUse (name :: expanding) definition.context) (.definition kind)
        definition.element := by
  rw [allUses_freeUse_iff]
  have hlink : ∀ m, first.GroupLink ⟨kind, name⟩ m ↔
      definition.context.UsesGroup GroupUse (.definition kind) definition.element m := by
    intro m
    refine ⟨?_, fun h => ⟨definition, hdefinition, h⟩⟩
    rintro ⟨found, hfound, h⟩
    cases hfound.symm.trans hdefinition
    exact h
  have hfree : first.FreeUse expanding context kind e ↔
      Free first.GroupLink expanding ⟨kind, name⟩ :=
    ⟨fun h => h reference name href hname, fun h reference' name' href' hname' => by
      cases href.symm.trans href'
      cases hname.symm.trans hname'
      exact h⟩
  rw [hfree, free_iff hnot]
  exact forall_congr' fun m => imp_congr (hlink m) Iff.rfl

/-- The expansion of a group tests what reading its definition does. -/
theorem tests_expandGroup {α : Type} {kind : GroupKind} {symbol : Symbol} {tag : String}
    {circular : QName → Fault} {groups : Draft → OrderedMap QName GroupDefinition} (e : Element)
    {f : QName × GroupDefinition → DraftM α} (hgroups : ∀ d : Draft, d.groupsOf kind = groups d)
    (hf : ∀ name definition, name ∉ expanding →
      (first.groupsOf kind).get? name = some definition →
      Tests first.SameGroups (AllUses (first.FreeUse (name :: expanding) definition.context)
        (.definition kind) definition.element) (f (name, definition))) :
    Tests first.SameGroups (first.FreeUse expanding context kind e)
      (expandGroup symbol tag circular groups expanding context e >>= f) := by
  unfold expandGroup
  simp only [bind_assoc]
  refine tests_bind_of_eq_ok (harmless_required context e "ref" rfl) fun reference href => ?_
  refine tests_bind_of_eq_ok (harmless_resolve context e reference) fun name hname => ?_
  have href := Context.required_eq_ok_iff.mp href
  intro d hd
  split
  -- A use of the group inside itself is not free of it.
  · next hmem =>
    rw [ends_bind, ends_bind, ends_throw]
    refine ⟨hd, ok_of_error, fun _ _ _ hfree => ?_⟩
    exact (hfree reference name href hname).not_mem hmem
  · next hnot =>
    rw [ends_bind, ends_bind, ends_get]
    dsimp only
    have hget : (groups d).get? name = (first.groupsOf kind).get? name := by
      rw [← hgroups, hd]
    rw [hget]
    cases hdefinition : (first.groupsOf kind).get? name with
    | none => exact ⟨hd, ok_of_error, by rintro _ ⟨⟩ ⟨⟩⟩
    | some definition =>
      exact (hf name definition hnot hdefinition).congr
        (freeUse_iff href hname hnot hdefinition).symm d hd

/-- There is always room for one more group to be expanded, if there is room for all. -/
theorem exists_depth {groups : OrderedMap QName GroupDefinition} {names : List QName} {name : QName}
    {definition : GroupDefinition} {depth : Nat} (hnames : names.Nodup)
    (hdefined : ∀ n ∈ names, n ∈ groups.keys) (hname : name ∉ names)
    (hdefinition : groups.get? name = some definition)
    (hdepth : groups.size ≤ depth + names.length) :
    ∃ depth', depth = depth' + 1 ∧ groups.size ≤ depth' + (name :: names).length ∧
      (name :: names).Nodup ∧ ∀ n ∈ name :: names, n ∈ groups.keys := by
  have hkey : name ∈ groups.keys := by
    by_contra hnot
    cases (OrderedMap.get?_eq_none_iff.mpr hnot).symm.trans hdefinition
  have hnodup : (name :: names).Nodup := List.nodup_cons.mpr ⟨hname, hnames⟩
  have hsubset : ∀ n ∈ name :: names, n ∈ groups.keys := by
    intro n hn
    rcases List.mem_cons.mp hn with rfl | hn
    · exact hkey
    · exact hdefined n hn
  have hlength : (name :: names).length ≤ groups.keys.length :=
    (List.subperm_of_subset hnodup hsubset).length_le
  have hsize : groups.keys.length = groups.size := List.length_map _
  rw [List.length_cons] at hlength
  refine ⟨depth - 1, by omega, ?_, hnodup, hsubset⟩
  rw [List.length_cons]
  omega

/-- Reading attributes tests whether the attribute groups are free that are used. Those in `within`
are being expanded. -/
theorem tests_readAttributeUsesWithin (depth : Nat) {within : List QName} (expanding : List QName)
    (context : Context) (e : Element) (hexpanding : within ⊆ expanding) (hwithin : within.Nodup)
    (hdefined : ∀ n ∈ within, n ∈ (first.groupsOf .attributes).keys)
    (hdepth : (first.groupsOf .attributes).size ≤ depth + within.length) :
    Tests first.SameGroups (AllAttributeUses (first.FreeUse expanding context) e)
      (readAttributeUsesWithin depth expanding context e) := by
  induction depth using Nat.strongRecOn generalizing within expanding context e with
  | ind depth ih =>
    rw [readAttributeUsesWithin_eq]
    refine tests_gather (R := fun use => use.localName = "attributeGroup" →
      first.FreeUse expanding context .attributes use) fun c _ => ?_
    have hI := Draft.stable_sameGroups first
    unfold usesOf
    split
    · next hname => exact (tests_readAttributeUse hI context c).of_true (by simp [hname])
    · next hname =>
      refine Tests.congr (P := first.FreeUse expanding context .attributes c) ?_
        ⟨fun h _ => h, fun h => h hname⟩
      refine tests_expandGroup c (fun _ => rfl) fun name definition hnot hdefinition => ?_
      obtain ⟨depth', rfl, hdepth', hnodup, hsubset⟩ := exists_depth hwithin hdefined
        (fun hmem => hnot (hexpanding hmem)) hdefinition hdepth
      refine Tests.congr ?_ allUses_attributeGroupDefinition.symm
      exact ih depth' (Nat.lt_succ_self _) (name :: expanding) definition.context
        definition.element (List.cons_subset_cons name hexpanding) hnodup hsubset hdepth'
    · next hname =>
      exact ((tests_report hI _ _).before fun _ => tests_pure _).of_true (by simp [hname])
    · next h₁ h₂ h₃ => exact (tests_pure _).of_true fun hname => absurd hname h₂

theorem tests_readAttributeUses (expanding : List QName) (context : Context) (e : Element) :
    Tests first.SameGroups (AllAttributeUses (first.FreeUse expanding context) e)
      (readAttributeUses expanding context e) := by
  intro d hd
  have hsize : d.attributeGroups.size = (first.groupsOf .attributes).size :=
    congrArg OrderedMap.size (congrFun hd .attributes)
  unfold readAttributeUses
  rw [ends_bind, ends_get]
  exact tests_readAttributeUsesWithin _ expanding context e (List.nil_subset _) List.nodup_nil nofun
    (Nat.le_of_eq hsize.symm) d hd

/-- The use of a group tests whether the group is free. -/
theorem tests_readGroupWithin (depth : Nat) (expanding : List QName) (context : Context)
    (e : Element) (hexpanding : expanding.Nodup)
    (hdefined : ∀ n ∈ expanding, n ∈ (first.groupsOf .content).keys)
    (hdepth : (first.groupsOf .content).size ≤ depth + expanding.length) :
    Tests first.SameGroups (first.FreeUse expanding context .content e)
      (readGroupWithin depth expanding context e) := by
  induction depth using Nat.strongRecOn generalizing expanding context e with
  | ind depth ih =>
    rw [readGroupWithin_eq]
    refine tests_expandGroup e (fun _ => rfl) fun name definition hnot hdefinition => ?_
    unfold readDefinition
    refine (tests_liftExcept (harmless_occurs context e)).before fun occurs => ?_
    obtain ⟨depth', rfl, hdepth', hnodup, hsubset⟩ :=
      exists_depth hexpanding hdefined hnot hdefinition hdepth
    cases hcontent : modelGroup? definition.element.children with
    | none => exact tests_throw rfl
    | some content =>
      refine Tests.after ?_ fun _ => tests_pure _
      refine (ContentReader.tests_readModelGroup (Draft.stable_sameGroups first)
        ⟨fun e' _ => ?_, tests_readAttributeUses (name :: expanding) definition.context⟩ content
        (by simpa using List.find?_some hcontent)).congr (allUses_groupDefinition hcontent).symm
      exact ih depth' (Nat.lt_succ_self _) (name :: expanding) definition.context e' hnodup hsubset
        hdepth'

theorem tests_readGroup (context : Context) (e : Element) :
    Tests first.SameGroups (first.FreeUse [] context .content e) (readGroup [] context e) := by
  intro d hd
  have hsize : d.groups.size = (first.groupsOf .content).size :=
    congrArg OrderedMap.size (congrFun hd .content)
  unfold readGroup
  rw [ends_bind, ends_get]
  exact tests_readGroupWithin _ [] context e List.nodup_nil nofun
    (Nat.le_of_eq hsize.symm) d hd

/-- Reading a component tests whether the groups are free that it uses. -/
theorem tests_readGlobal (g : Global) : Tests first.SameGroups
    (∀ holder, g.holder? = some holder →
      AllUses (first.FreeUse [] g.context) holder g.element) (readGlobal g) := by
  have hI := Draft.stable_sameGroups first
  obtain ⟨target, e, context⟩ := g
  cases target with
  | element id =>
    refine (ContentReader.tests_readElement hI ⟨fun e _ => tests_readGroup context e,
      tests_readAttributeUses [] context⟩ e id).congr ?_
    exact ⟨by rintro h _ ⟨⟩; exact h, fun h => h _ rfl⟩
  | complexType id =>
    refine (ContentReader.tests_readComplexType hI ⟨fun e _ => tests_readGroup context e,
      tests_readAttributeUses [] context⟩ e id none).congr ?_
    exact ⟨by rintro h _ ⟨⟩; exact h, fun h => h _ rfl⟩
  | attr id =>
    show Tests _ _ (readAttribute context e id)
    exact (tests_readAttribute hI context e id).of_true nofun
  | simpleType id =>
    show Tests _ _ (readSimpleType context e id)
    exact (tests_readSimpleType hI context e id).of_true nofun

end DraftM

end SchemaBinding.Xsd
