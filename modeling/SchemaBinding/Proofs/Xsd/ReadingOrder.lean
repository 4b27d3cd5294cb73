import SchemaBinding.Proofs.Xsd.Globals
import SchemaBinding.Proofs.Xsd.Renumbered

/-!
# The order of reading

What is read into a component depends on what names mean, and on no other component's content. So
two components that are declared can be read in either order. What is found inside of them gets
other places then: the places of the two readings are exchanged.

## Main definitions

* `SchemaSet.Closed`: a set whose components refer to components of it
* `Draft.Rereads`: the same has been read into a component of two drafts

## Main results

* `Draft.Advances.closed`: reading leaves sets closed
* `exists_readGlobal_readGlobal`: two components in the other order
* `exists_readGlobals_swap`: the same among all components that are read
-/

namespace SchemaBinding.Xsd

open Draft (Advances)

/-! ## Closed sets -/

/-- What stands at a place refers to components of a set. -/
def Component.Closed (set : SchemaSet) : Component → Prop
  | .element e => set.HasType e.type
  | .attr a => set.HasType a.type
  | .type t => t.Closed set

/-- All components of a set refer to components of the set. -/
def SchemaSet.Closed (set : SchemaSet) : Prop :=
  ∀ p c, set.component? p = some c → c.Closed set

theorem Component.Closed.mono {set set' : SchemaSet} (h : set.Grows set') {c : Component}
    (hc : c.Closed set) : c.Closed set' := by
  cases c with
  | element | attr => exact h.hasType _ hc
  | type => exact TypeDefinition.Closed.mono h hc

theorem Component.Closed.renumber_eq {ρ : Renumbering} {set : SchemaSet} (h : ρ.Fixes set)
    {c : Component} (hc : c.Closed set) : c.renumber ρ = c := by
  cases c with
  | element e =>
    exact congrArg (fun type => Component.element { e with type := type }) (h.type _ hc)
  | attr a => exact congrArg (fun type => Component.attr { a with type := type }) (h.type _ hc)
  | type t => exact congrArg Component.type (TypeDefinition.Closed.renumber_eq h hc)

/-- A type that says what it can say refers to components of the set. -/
theorem SchemaSet.Says.closed {set : SchemaSet} {t : TypeDefinition} {waiting : List Inheritance}
    (h : set.Says t.base t.kind waiting) : t.Closed set := by
  obtain ⟨name, namespaceUri, base, kind⟩ := t
  cases h with
  | simple hbase hdefinition =>
    exact ⟨hbase.hasType, by rintro _ ⟨⟩; exact hdefinition, by rintro _ ⟨⟩⟩
  | simpleBase hbase hdefinition =>
    exact ⟨hbase.hasType, by rintro _ ⟨⟩, by rintro _ ⟨⟩; exact hdefinition⟩
  | content hbase hdefinition | simpleContent hbase _ hdefinition
  | extension hbase _ hdefinition =>
    exact ⟨hbase, by rintro _ ⟨⟩, by rintro _ ⟨⟩; exact hdefinition⟩

namespace SchemaSet

variable {set : SchemaSet}

theorem component?_type {id : TypeId} (h : set.HasType id) :
    set.component? (.type id) = some (.type (set.type id)) := by
  show set.types[id.index]?.map Component.type =
    some (.type (set.types[id.index]?.getD default))
  rw [Array.getElem?_eq_getElem h]
  rfl

theorem component?_element {id : ElementId} (h : set.HasElement id) :
    set.component? (.element id) = some (.element (set.element id)) := by
  show set.elements[id.index]?.map Component.element =
    some (.element (set.elements[id.index]?.getD default))
  rw [Array.getElem?_eq_getElem h]
  rfl

theorem component?_attr {id : AttributeId} (h : set.HasAttribute id) :
    set.component? (.attr id) = some (.attr (set.attr id)) := by
  show set.attributes[id.index]?.map Component.attr =
    some (.attr (set.attributes[id.index]?.getD default))
  rw [Array.getElem?_eq_getElem h]
  rfl

end SchemaSet

theorem Draft.has_of_component? {d : Draft} {p : Part} {c : Component}
    (h : d.set.component? p = some c) : d.Has p := by
  cases p with
  | element | attr | type =>
    obtain ⟨_, hget, -⟩ := Option.map_eq_some_iff.mp h
    exact (Array.getElem?_eq_some_iff.mp hget).1

theorem Draft.Advances.has {parts : List Part} {d d' : Draft} (h : Advances parts d d') {p : Part}
    (hp : d.Has p) : d'.Has p := by
  cases p with
  | element id => exact h.grows.hasElement id hp
  | attr id => exact h.grows.hasAttribute id hp
  | type id => exact h.grows.hasType id hp

/-- What is not read into stays as it is. -/
theorem Draft.Advances.component?_eq {parts : List Part} {d d' : Draft} (h : Advances parts d d')
    {p : Part} (hp : d.Has p) (hnot : p ∉ parts) :
    d'.set.component? p = d.set.component? p := by
  cases p with
  | element id =>
    rw [SchemaSet.component?_element (h.grows.hasElement id hp), SchemaSet.component?_element hp,
      h.element id hp hnot]
  | attr id =>
    rw [SchemaSet.component?_attr (h.grows.hasAttribute id hp), SchemaSet.component?_attr hp,
      h.attr id hp hnot]
  | type id =>
    rw [SchemaSet.component?_type (h.grows.hasType id hp), SchemaSet.component?_type hp,
      (h.type id hp hnot).1]

/-- Reading leaves sets closed. -/
theorem Draft.Advances.closed {globals : List Global} {d d' : Draft}
    (h : Advances (globals.map Global.part) d d') (hread : ∀ g ∈ globals, d'.HasRead g)
    (hd : d.set.Closed) : d'.set.Closed := by
  intro p c hc
  by_cases hold : d.Has p ∧ p ∉ globals.map Global.part
  · rw [h.component?_eq hold.1 hold.2] at hc
    exact (hd p c hc).mono h.grows
  · have hp := has_of_component? hc
    have hnew (hnot : p ∉ globals.map Global.part) : ¬ d.Has p := fun hhas => hold ⟨hhas, hnot⟩
    cases p with
    | element id =>
      rw [SchemaSet.component?_element hp, Option.some.injEq] at hc
      exact hc ▸ h.sound.elements id hp
    | attr id =>
      rw [SchemaSet.component?_attr hp, Option.some.injEq] at hc
      subst hc
      refine SchemaSet.IsSimple.hasType ?_
      by_cases hmem : Part.attr id ∈ globals.map Global.part
      · obtain ⟨g, hg, hpart⟩ := List.mem_map.mp hmem
        exact (hread g hg).isSimple hpart
      · exact h.newAttribute id (hnew hmem) hp hmem
    | type id =>
      rw [SchemaSet.component?_type hp, Option.some.injEq] at hc
      subst hc
      have hsettled : d'.Settled id := by
        by_cases hmem : Part.type id ∈ globals.map Global.part
        · obtain ⟨g, hg, hpart⟩ := List.mem_map.mp hmem
          have hr := hread g hg
          obtain ⟨target, e, context⟩ := g
          cases target with
          | element | attr => cases hpart
          | complexType | simpleType =>
            cases hpart
            exact hr.2.settled
        · exact (h.newType id (hnew hmem) hp hmem).1
      exact SchemaSet.Says.closed hsettled

/-! ## What keeps its place -/

theorem Part.renumber_eq {ρ : Renumbering} {d : Draft} (h : ρ.Fixes d.set) {p : Part}
    (hp : d.Has p) : p.renumber ρ = p := by
  cases p with
  | element id => exact congrArg Part.element (h.element id hp)
  | attr id => exact congrArg Part.attr (h.attr id hp)
  | type id => exact congrArg Part.type (h.type id hp)

theorem Global.renumber_eq {ρ : Renumbering} {d : Draft} (h : ρ.Fixes d.set) {g : Global}
    (hg : d.Has g.part) : g.renumber ρ = g := by
  obtain ⟨target, e, context⟩ := g
  unfold renumber
  congr 1
  cases target with
  | element id => exact congrArg Target.element (h.element id hg)
  | attr id => exact congrArg Target.attr (h.attr id hg)
  | complexType id => exact congrArg Target.complexType (h.type id hg)
  | simpleType id => exact congrArg Target.simpleType (h.type id hg)

/-- Types that wait keep their places. -/
theorem Draft.Sound.map_waiting {ρ : Renumbering} {d : Draft} (hd : d.Sound)
    (h : ρ.Fixes d.set) : (d.waiting.map fun w => (w.1.renumber ρ, w.2)) = d.waiting := by
  refine (List.map_congr_left fun w hw => ?_).trans (List.map_id _)
  exact Prod.ext (h.type _ (hd.waiting w hw)) rfl

/-- Schemas that list components which keep their places. -/
theorem SchemaSet.Listed.forall₂_renumbered {ρ : Renumbering} {set : SchemaSet} (h : set.Listed)
    (hρ : ρ.Fixes set) : List.Forall₂ (Schema.Renumbered ρ) set.schemas set.schemas := by
  refine List.forall₂_same.mpr fun s hs => ⟨rfl, rfl, ?_, ?_, fun name => ?_⟩
  · refine OrderedMap.ext_entries ((List.map_id _).symm.trans (List.map_congr_left ?_))
    exact fun entry hentry => Prod.ext rfl (hρ.element _ ((h s hs).elements _ _ hentry).1).symm
  · refine OrderedMap.ext_entries ((List.map_id _).symm.trans (List.map_congr_left ?_))
    exact fun entry hentry => Prod.ext rfl (hρ.attr _ ((h s hs).attributes _ _ hentry).1).symm
  · cases hid : s.types.get? name with
    | none => rfl
    | some id =>
      have hentry := (h s hs).types _ _ (OrderedMap.get?_eq_some_iff.mp hid)
      exact congrArg some (hρ.type id hentry.1).symm

/-! ## Reading one component -/

/-- Reading defines no groups. -/
theorem groups_of_readGlobal {g : Global} {d d' : Draft}
    (hrun : (DraftM.readGlobal g).run.run d = (.ok ⟨⟩, d')) :
    d'.groups = d.groups ∧ d'.attributeGroups = d.attributeGroups := by
  have hstable : Draft.Stable fun e =>
      e.groups = d.groups ∧ e.attributeGroups = d.attributeGroups :=
    { log := fun _ _ h => h, waiting := fun _ _ h => h, addType := fun _ _ _ _ h => h
      addElement := fun _ _ _ h => h, addAttribute := fun _ _ _ h => h
      defineType := fun _ _ _ _ h => h, modifyElement := fun _ _ _ _ h => h
      modifyAttribute := fun _ _ _ _ h => h }
  have hkeeps := DraftM.keeps_readGlobal hstable g d ⟨rfl, rfl⟩
  unfold Ends Passes at hkeeps
  rwa [hrun] at hkeeps

namespace Draft

/-- The same has been read into a component of two drafts, at other places in the second one. -/
structure Rereads (ρ : Renumbering) (part : Part) (d d' e e' : Draft) : Prop where
  types_size : e'.set.types.size + d.set.types.size = e.set.types.size + d'.set.types.size
  elements_size : e'.set.elements.size + d.set.elements.size =
    e.set.elements.size + d'.set.elements.size
  attributes_size : e'.set.attributes.size + d.set.attributes.size =
    e.set.attributes.size + d'.set.attributes.size
  shows : e.set.Shows (fun p => p = part ∨ ¬ d.Has p) ρ e'.set
  waiting : ∃ ws, e.waiting = d.waiting ++ ws ∧
    e'.waiting = d'.waiting ++ ws.map fun w => (w.1.renumber ρ, w.2)

/-- What can be read into a component after some others have been read can be read into it after
others have been: names mean the same. -/
theorem exists_rereads {b d d' e : Draft} {g : Global} {ρ : Renumbering} {parts parts' : List Part}
    (hb : b.Sound) (hclosed : b.set.Closed) (hρ : ρ.Fixes b.set) (hg : b.Has g.part)
    (hd : Advances parts b d) (hparts : g.part ∉ parts) (hd' : Advances parts' b d')
    (hparts' : g.part ∉ parts') (hgroups : d'.groups = d.groups)
    (hattributeGroups : d'.attributeGroups = d.attributeGroups)
    (hshifts : ρ.Shifts d.set d'.set e.set)
    (hrun : (DraftM.readGlobal g).run.run d = (.ok ⟨⟩, e)) :
    ∃ e', (DraftM.readGlobal g).run.run d' = (.ok ⟨⟩, e') ∧ Rereads ρ g.part d d' e e' := by
  have hnames : d.NamesAlike ρ d' := by
    refine ⟨fun _ => by rw [hgroups], by rw [hgroups], fun _ => by rw [hattributeGroups],
      by rw [hattributeGroups], ?_, fun name id hid => ?_⟩
    · rw [hd.schemas, hd'.schemas]
      exact hb.listed.forall₂_renumbered hρ
    · rw [hd.findType?_eq] at hid
      have hhas := (hb.listed.findType? hid).1
      rw [hρ.type id hhas, hd.grows.isSimple_eq hhas, hd'.grows.isSimple_eq hhas]
      exact ⟨hd.grows.hasType id hhas, hd'.grows.hasType id hhas, rfl⟩
  have hshows : d.set.Shows (fun p => p = g.part ∨ ¬ d.Has p) ρ d'.set := by
    rintro p c (rfl | hnot) hc
    · rw [hd.component?_eq hg hparts] at hc
      rw [Part.renumber_eq hρ hg, hd'.component?_eq hg hparts', hc,
        (hclosed _ c hc).renumber_eq hρ]
    · exact absurd (has_of_component? hc) hnot
  have hsame : (hnames.rereading e.set (fun p => p = g.part ∨ ¬ d.Has p) hshifts).SameGlobal g
      (g.renumber ρ) := hnames.sameGlobal hshifts g
  rw [Global.renumber_eq hρ hg] at hsame
  obtain ⟨e', hrun', hm⟩ := (Rereading.follows_readGlobal hsame).follows d d' ⟨⟩ e
    (hnames.mirrors_rereading hshifts hshows) hrun (.refl _)
  exact ⟨e', hrun', hm.types_pace, hm.elements_pace, hm.attributes_pace,
    SchemaSet.shows_iff.mpr ⟨hm.types, hm.elements, hm.attributes⟩, hm.waiting⟩

end Draft

/-! ## Two components -/

theorem SchemaSet.Grows.within {set set' : SchemaSet} (h : set.Grows set') : set.Within set' where
  types := Nat.le_of_not_lt fun hlt => Nat.lt_irrefl _ (h.hasType ⟨set'.types.size⟩ hlt)
  elements := Nat.le_of_not_lt fun hlt => Nat.lt_irrefl _ (h.hasElement ⟨set'.elements.size⟩ hlt)
  attributes :=
    Nat.le_of_not_lt fun hlt => Nat.lt_irrefl _ (h.hasAttribute ⟨set'.attributes.size⟩ hlt)

theorem Draft.Sound.two_le {d : Draft} (h : d.Sound) : 2 ≤ d.set.types.size :=
  h.anySimpleType.hasType

/-- The places from `m` come right after those before `n`. -/
theorem exchange_add_of_second {n m l i : Nat} (hn : n ≤ m) (hi : m ≤ i) (hl : i < l) :
    exchange n (m - n) (l - m) i + m = i + n := by
  have := exchange_of_right (n := n) (p := m - n) (q := l - m) (i := i) (by omega) (by omega)
  omega

/-- The places from `n` to `m` come after those from `m` to `l`. -/
theorem exchange_add_of_first {n m l k i : Nat} (hi : n ≤ i) (hm : i < m) (hl : m ≤ l)
    (hk : k + m = l + n) : exchange n (m - n) (l - m) i + n = i + k := by
  rw [exchange_of_left hi (by omega)]
  omega

namespace Renumbering

variable {set first second set' : SchemaSet}

/-- What the second step adds comes right after what has been there. -/
theorem shifts_exchange_second (h : 2 ≤ set.types.size) (hfirst : set.Within first) :
    (exchange set first second h).Shifts first set second where
  type _ hi hlt := exchange_add_of_second hfirst.types hi hlt
  element _ hi hlt := exchange_add_of_second hfirst.elements hi hlt
  attr _ hi hlt := exchange_add_of_second hfirst.attributes hi hlt

/-- What the first step adds comes after what the second step adds. -/
theorem shifts_exchange_first (h : 2 ≤ set.types.size) (hsecond : first.Within second)
    (htypes : set'.types.size + first.types.size = second.types.size + set.types.size)
    (helements : set'.elements.size + first.elements.size =
      second.elements.size + set.elements.size)
    (hattributes : set'.attributes.size + first.attributes.size =
      second.attributes.size + set.attributes.size) :
    (exchange set first second h).Shifts set set' first where
  type _ hi hlt := exchange_add_of_first hi hlt hsecond.types htypes
  element _ hi hlt := exchange_add_of_first hi hlt hsecond.elements helements
  attr _ hi hlt := exchange_add_of_first hi hlt hsecond.attributes hattributes

end Renumbering

/-- Two components that can be read one after the other can be read in the other order. What is
added while they are read gets its places in the other order. -/
theorem exists_readGlobal_readGlobal {d d₁ d₂ : Draft} {g g' : Global} (hd : d.Sound)
    (hclosed : d.set.Closed) (hg : d.Declared g) (hg' : d.Declared g') (hne : g.part ≠ g'.part)
    (hrun : (DraftM.readGlobal g).run.run d = (.ok ⟨⟩, d₁))
    (hrun' : (DraftM.readGlobal g').run.run d₁ = (.ok ⟨⟩, d₂)) :
    ∃ e₁ e₂, (DraftM.readGlobal g').run.run d = (.ok ⟨⟩, e₁) ∧
      (DraftM.readGlobal g).run.run e₁ = (.ok ⟨⟩, e₂) ∧
      d₂.Renumbered (.exchange d.set d₁.set d₂.set hd.two_le) e₂ := by
  have hnot : g'.part ∉ [g.part] := by simpa using hne.symm
  have hnot' : g.part ∉ [g'.part] := by simpa using hne
  obtain ⟨ha₁, -⟩ := (DraftM.returns_readGlobal hd hg).of_run hrun
  obtain ⟨ha₂, -⟩ := (DraftM.returns_readGlobal ha₁.sound (ha₁.declared hnot hg')).of_run hrun'
  have hgroups₁ := groups_of_readGlobal hrun
  have hgroups₂ := groups_of_readGlobal hrun'
  have hρ : (Renumbering.exchange d.set d₁.set d₂.set hd.two_le).Fixes d.set :=
    Renumbering.fixes_exchange hd.two_le
  obtain ⟨e₁, hrune₁, hreads'⟩ := Draft.exists_rereads hd hclosed hρ hg'.has ha₁ hnot
    (.refl [] hd) nofun hgroups₁.1.symm hgroups₁.2.symm
    (Renumbering.shifts_exchange_second hd.two_le ha₁.grows.within) hrun'
  obtain ⟨hb₁, -⟩ := (DraftM.returns_readGlobal hd hg').of_run hrune₁
  have hgroupse₁ := groups_of_readGlobal hrune₁
  obtain ⟨e₂, hrune₂, hreads⟩ := Draft.exists_rereads hd hclosed hρ hg.has (.refl [] hd) nofun
    hb₁ hnot' hgroupse₁.1 hgroupse₁.2
    (Renumbering.shifts_exchange_first hd.two_le ha₂.grows.within hreads'.types_size
      hreads'.elements_size hreads'.attributes_size) hrun
  obtain ⟨hb₂, -⟩ := (DraftM.returns_readGlobal hb₁.sound (hb₁.declared hnot' hg)).of_run hrune₂
  have hgroupse₂ := groups_of_readGlobal hrune₂
  have := hreads.types_size
  have := hreads'.types_size
  have := hreads.elements_size
  have := hreads'.elements_size
  have := hreads.attributes_size
  have := hreads'.attributes_size
  refine ⟨e₁, e₂, hrune₁, hrune₂, fun name => ?_, ?_, fun name => ?_, ?_,
    ⟨by omega, by omega, by omega, ?_, ?_⟩, ?_⟩
  · rw [hgroupse₂.1, hgroupse₁.1, hgroups₂.1, hgroups₁.1]
  · rw [hgroupse₂.1, hgroupse₁.1, hgroups₂.1, hgroups₁.1]
  · rw [hgroupse₂.2, hgroupse₁.2, hgroups₂.2, hgroups₁.2]
  · rw [hgroupse₂.2, hgroupse₁.2, hgroups₂.2, hgroups₁.2]
  · intro p c _ hc
    by_cases hsecond : p = g'.part ∨ ¬ d₁.Has p
    · have hc' := hreads'.shows p c hsecond hc
      rw [hb₂.component?_eq (Draft.has_of_component? hc') ?_, hc']
      rw [List.mem_singleton, ← Part.renumber_eq hρ hg.has]
      intro heq
      obtain rfl := Part.renumber_injective _ heq
      exact hsecond.elim hne fun h => h (ha₁.has hg.has)
    · rw [not_or, not_not] at hsecond
      obtain ⟨hp, hp₁⟩ := hsecond
      rw [ha₂.component?_eq hp₁ (by simpa using hp)] at hc
      by_cases hfirst : p = g.part ∨ ¬ d.Has p
      · exact hreads.shows p c hfirst hc
      · rw [not_or, not_not] at hfirst
        obtain ⟨hp', hp₀⟩ := hfirst
        rw [ha₁.component?_eq hp₀ (by simpa using hp')] at hc
        rw [Part.renumber_eq hρ hp₀, (hclosed p c hc).renumber_eq hρ,
          hb₂.component?_eq (hb₁.has hp₀) (by simpa using hp'),
          hb₁.component?_eq hp₀ (by simpa using hp), hc]
  · rw [hb₂.schemas, hb₁.schemas, ha₂.schemas, ha₁.schemas]
    exact hd.listed.forall₂_renumbered hρ
  · obtain ⟨ws, hws, hws'⟩ := hreads.waiting
    obtain ⟨ws', hws₁, hws₁'⟩ := hreads'.waiting
    rw [hws', hws₁', hws₁, hws, List.map_append, List.map_append, hd.map_waiting hρ,
      List.append_assoc, List.append_assoc]
    exact (List.perm_append_comm).append_left _

/-- Components are read one after the other. -/
theorem run_readGlobals_append_iff {gs gs' : List Global} {d e : Draft} :
    ((gs ++ gs').forM DraftM.readGlobal).run.run d = (.ok ⟨⟩, e) ↔
      ∃ d', (gs.forM DraftM.readGlobal).run.run d = (.ok ⟨⟩, d') ∧
        (gs'.forM DraftM.readGlobal).run.run d' = (.ok ⟨⟩, e) := by
  have happend : (gs ++ gs').forM DraftM.readGlobal =
      gs.forM DraftM.readGlobal >>= fun _ => gs'.forM DraftM.readGlobal := List.forM_append
  rw [happend, run_bind_eq_ok_iff]
  exact ⟨fun ⟨_, d', h, h'⟩ => ⟨d', h, h'⟩, fun ⟨d', h, h'⟩ => ⟨⟨⟩, d', h, h'⟩⟩

/-- Among all components that are read, two that come one after the other can be read in the other
order. -/
theorem exists_readGlobals_swap {d e : Draft} {before after : List Global} {g g' : Global}
    (hd : d.Sound) (hclosed : d.set.Closed)
    (hdeclared : ∀ x ∈ before ++ g :: g' :: after, d.Declared x)
    (hnodup : ((before ++ g :: g' :: after).map Global.part).Nodup)
    (hrun : ((before ++ g :: g' :: after).forM DraftM.readGlobal).run.run d = (.ok ⟨⟩, e)) :
    ∃ ρ e', ((before ++ g' :: g :: after).forM DraftM.readGlobal).run.run d = (.ok ⟨⟩, e') ∧
      e.Renumbered ρ e' := by
  rw [List.map_append, List.map_cons, List.map_cons, List.nodup_append, List.nodup_cons,
    List.nodup_cons] at hnodup
  obtain ⟨hbefore, ⟨hg, hg', -⟩, hapart⟩ := hnodup
  obtain ⟨d₀, hrun₀, hrun⟩ := run_readGlobals_append_iff.mp hrun
  obtain ⟨_, d₁, hrun₁, hrun⟩ := run_bind_eq_ok_iff.mp hrun
  obtain ⟨_, d₂, hrun₂, hrun⟩ := run_bind_eq_ok_iff.mp hrun
  obtain ⟨ha, hread⟩ := (DraftM.returns_readGlobals hd hbefore fun x hx =>
    hdeclared x (List.mem_append_left _ hx)).of_run hrun₀
  have hrest : ∀ x ∈ g :: g' :: after, d₀.Declared x := fun x hx =>
    ha.declared (fun hmem => hapart _ hmem _ (List.mem_map_of_mem hx) rfl)
      (hdeclared x (List.mem_append_right _ hx))
  have hdeclared_g := hrest g List.mem_cons_self
  have hdeclared_g' := hrest g' (List.mem_cons_of_mem _ List.mem_cons_self)
  have hne : g.part ≠ g'.part := fun heq => hg (heq ▸ List.mem_cons_self)
  obtain ⟨e₁, e₂, hrune₁, hrune₂, hrenumbered⟩ := exists_readGlobal_readGlobal ha.sound
    (ha.closed hread hclosed) hdeclared_g hdeclared_g' hne hrun₁ hrun₂
  obtain ⟨ha₁, -⟩ := (DraftM.returns_readGlobal ha.sound hdeclared_g).of_run hrun₁
  obtain ⟨ha₂, -⟩ := (DraftM.returns_readGlobal ha₁.sound
    (ha₁.declared (by simpa using hne.symm) hdeclared_g')).of_run hrun₂
  obtain ⟨e', hrun', he'⟩ := hrenumbered.exists_readGlobals ha₂.sound
    (Renumbering.fixesBeyond_exchange ha.sound.two_le ha₁.grows.within ha₂.grows.within) hrun
  have hafter : after.map (Global.renumber
      (.exchange d₀.set d₁.set d₂.set ha.sound.two_le)) = after := by
    refine (List.map_congr_left fun x hx => ?_).trans (List.map_id _)
    exact Global.renumber_eq (Renumbering.fixes_exchange ha.sound.two_le)
      (hrest x (List.mem_cons_of_mem _ (List.mem_cons_of_mem _ hx))).has
  rw [hafter] at hrun'
  exact ⟨_, e', run_readGlobals_append_iff.mpr ⟨d₀, hrun₀, run_bind_eq_ok_iff.mpr
    ⟨⟨⟩, e₁, hrune₁, run_bind_eq_ok_iff.mpr ⟨⟨⟩, e₂, hrune₂, hrun'⟩⟩⟩, he'⟩

end SchemaBinding.Xsd
