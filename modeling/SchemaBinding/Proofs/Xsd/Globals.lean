import SchemaBinding.Proofs.Xsd.Declaration
import SchemaBinding.Proofs.Xsd.Readers

/-!
# Declared components

Every component is declared once and then read into the place that it got. So when all documents
have been read, each type but the built-in ones has been read exactly once, and each attribute has
got its type.

## Main definitions

* `Global.part`, `Draft.Declared`, `Draft.HasRead`: a component before and after it is read
* `Draft.Declares`: what declaring some components brings about

## Main results

* `DraftM.returns_readGlobals`: reading components that are declared
* `DraftM.returns_declareAll`: declaring components
-/

namespace SchemaBinding.Xsd

open Xml (Element QName)
open Draft (Advances)

/-! ## Reading -/

/-- The place that a declared component is read into. -/
def Global.part (g : Global) : Part :=
  match g.target with
  | .element id => .element id
  | .attr id => .attr id
  | .complexType id | .simpleType id => .type id

namespace Draft

/-- A component that is still to be read. -/
def Declared (d : Draft) (g : Global) : Prop :=
  match g.target with
  | .element id => d.set.HasElement id
  | .attr id => d.set.HasAttribute id
  | .complexType id => d.Pending id false
  | .simpleType id => d.Pending id true

/-- A component that has been read. -/
def HasRead (d : Draft) (g : Global) : Prop :=
  match g.target with
  | .element _ => True
  | .attr id => d.set.HasAttribute id ∧ d.set.IsSimple (d.set.attr id).type
  | .complexType id => d.set.HasType id ∧ d.ReadFrom g.context (complexBaseReference? g.element) id
  | .simpleType id => d.set.HasType id ∧ d.ReadFrom g.context (simpleBaseReference? g.element) id

variable {d d' : Draft} {parts : List Part} {g : Global}

/-- An attribute that has been read has a simple type. -/
theorem HasRead.isSimple (h : d.HasRead g) {id : AttributeId} (hid : g.part = .attr id) :
    d.set.IsSimple (d.set.attr id).type := by
  obtain ⟨target, e, context⟩ := g
  cases target with
  | attr id' =>
    cases hid
    exact h.2
  | element | complexType | simpleType => cases hid

theorem Advances.declared (h : Advances parts d d') (hp : g.part ∉ parts) (hg : d.Declared g) :
    d'.Declared g := by
  obtain ⟨target, e, context⟩ := g
  cases target with
  | element id => exact h.grows.hasElement id hg
  | attr id => exact h.grows.hasAttribute id hg
  | complexType id => exact h.pending hp hg
  | simpleType id => exact h.pending hp hg

theorem Advances.hasRead (h : Advances parts d d') (hp : g.part ∉ parts) (hg : d.HasRead g) :
    d'.HasRead g := by
  obtain ⟨target, e, context⟩ := g
  cases target with
  | element id => trivial
  | attr id =>
    refine ⟨h.grows.hasAttribute id hg.1, ?_⟩
    rw [h.attr id hg.1 hp]
    exact h.grows.isSimple hg.2
  | complexType id => exact ⟨h.grows.hasType id hg.1, h.readFrom hg.1 hp hg.2⟩
  | simpleType id => exact ⟨h.grows.hasType id hg.1, h.readFrom hg.1 hp hg.2⟩

end Draft

namespace DraftM

variable {d : Draft}

/-- **Reading a declared component advances the draft** by this component alone. -/
theorem returns_readGlobal (hd : d.Sound) {g : Global} (hg : d.Declared g) :
    Returns d (readGlobal g) fun _ d' => Advances [g.part] d d' ∧ d'.HasRead g := by
  obtain ⟨target, e, context⟩ := g
  cases target with
  | element id =>
    refine (ContentReader.returns_readElement sound_readGroup [] context e hd hg).mono ?_
    exact fun _ d' ha => ⟨ha, trivial⟩
  | attr id =>
    refine (returns_readAttribute context e hd hg).mono ?_
    exact fun _ d' ⟨ha, hsimple⟩ => ⟨ha, ha.grows.hasAttribute id hg, hsimple⟩
  | complexType id =>
    refine (ContentReader.returns_readComplexType sound_readGroup [] context e id none hd hg
      some_of_none).mono ?_
    exact fun _ d' ⟨ha, hr⟩ => ⟨ha, ha.grows.hasType id hg.has, hr⟩
  | simpleType id =>
    refine (returns_readSimpleType context e id hd hg).mono ?_
    exact fun _ d' ⟨ha, hr⟩ => ⟨ha, ha.grows.hasType id hg.has, hr⟩

/-- Components in different places are all read: what is read into one of them makes no difference
to the others. -/
theorem returns_readGlobals {globals : List Global} (hd : d.Sound)
    (hnodup : (globals.map Global.part).Nodup) (hglobals : ∀ g ∈ globals, d.Declared g) :
    Returns d (globals.forM readGlobal) fun _ d' => Advances (globals.map Global.part) d d' ∧
      ∀ g ∈ globals, d'.HasRead g := by
  induction globals generalizing d with
  | nil => exact returns_pure.mpr ⟨.refl _ hd, nofun⟩
  | cons g gs ih =>
    rw [List.map_cons, List.nodup_cons] at hnodup
    show Returns d (readGlobal g >>= fun _ => gs.forM readGlobal) _
    rw [returns_bind]
    refine (returns_readGlobal hd (hglobals g List.mem_cons_self)).mono ?_
    rintro _ d₁ ⟨ha₁, hg⟩
    have hgs : ∀ g' ∈ gs, d₁.Declared g' := by
      intro g' hg'
      refine ha₁.declared ?_ (hglobals g' (List.mem_cons_of_mem g hg'))
      rw [List.mem_singleton]
      exact fun heq => hnodup.1 (heq ▸ List.mem_map_of_mem hg')
    refine (ih ha₁.sound hnodup.2 hgs).mono ?_
    rintro _ d₂ ⟨ha₂, hread⟩
    refine ⟨(ha₁.mono ?_).trans (ha₂.mono (List.subset_cons_self _ _)), fun g' hg' => ?_⟩
    · simp
    · rcases List.mem_cons.mp hg' with rfl | hg'
      · exact ha₂.hasRead hnodup.1 hg
      · exact hread g' hg'

end DraftM

/-! ## Entries in schemas -/

namespace SchemaSet

/-- The namespaces of the schemas are different. -/
def Separate (set : SchemaSet) : Prop := (set.schemas.map (·.namespaceUri)).Nodup

variable {set : SchemaSet} {namespaceUri : String} {f : Schema → Schema}

/-- A schema after that of a namespace has been changed is as it was, or it is the one that has been
changed. -/
theorem mem_modifySchemas {ss : List Schema} {s : Schema}
    (h : s ∈ modifySchemas namespaceUri f ss) :
    s ∈ ss ∨ ∃ s₀, s₀.namespaceUri = namespaceUri ∧ (s₀ ∈ ss ∨ s₀ = .empty namespaceUri) ∧
      s = f s₀ := by
  induction ss with
  | nil => exact .inr ⟨_, rfl, .inr rfl, List.mem_singleton.mp h⟩
  | cons s₁ ss ih =>
    unfold modifySchemas at h
    split at h
    · next huri =>
      rcases List.mem_cons.mp h with rfl | h
      · exact .inr ⟨s₁, huri, .inl List.mem_cons_self, rfl⟩
      · exact .inl (List.mem_cons_of_mem _ h)
    · rcases List.mem_cons.mp h with rfl | h
      · exact .inl List.mem_cons_self
      · rcases ih h with h | ⟨s₀, huri, h₀, rfl⟩
        · exact .inl (List.mem_cons_of_mem _ h)
        · exact .inr ⟨s₀, huri, h₀.imp_left (List.mem_cons_of_mem _), rfl⟩

/-- The schemas of a set list its components after one of them has been changed, if this one still
does. -/
theorem Listed.modifySchema (h : set.Listed)
    (hf : ∀ s : Schema, s.namespaceUri = namespaceUri → s.Lists set → (f s).Lists set) :
    (set.modifySchema namespaceUri f).Listed := by
  intro s hs
  rcases mem_modifySchemas hs with hs | ⟨s₀, huri, h₀, rfl⟩
  · exact ⟨(h s hs).types, (h s hs).elements, (h s hs).attributes⟩
  · have hlists : (f s₀).Lists set := by
      refine hf s₀ huri ?_
      rcases h₀ with h₀ | rfl
      · exact h s₀ h₀
      · exact ⟨nofun, nofun, nofun⟩
    exact ⟨hlists.types, hlists.elements, hlists.attributes⟩

/-- A namespace that has no schema yet is added at the end. -/
theorem namespaces_modifySchemas (hf : ∀ s, (f s).namespaceUri = s.namespaceUri)
    (ss : List Schema) :
    (modifySchemas namespaceUri f ss).map (·.namespaceUri) =
      if namespaceUri ∈ ss.map (·.namespaceUri) then ss.map (·.namespaceUri)
      else ss.map (·.namespaceUri) ++ [namespaceUri] := by
  induction ss with
  | nil => simp [modifySchemas, hf, Schema.empty]
  | cons s ss ih =>
    unfold modifySchemas
    by_cases h : s.namespaceUri = namespaceUri
    · simp [h, hf]
    · rw [if_neg h, List.map_cons, ih]
      by_cases hmem : namespaceUri ∈ ss.map (·.namespaceUri)
      · rw [if_pos hmem, List.map_cons, if_pos (List.mem_cons_of_mem _ hmem)]
      · rw [if_neg hmem, List.map_cons, if_neg (by simpa [Ne.symm h] using hmem)]
        rfl

/-- No two schemas are of one namespace after one of them has been changed, but for its namespace.
-/
theorem Separate.modifySchema (h : set.Separate)
    (hf : ∀ s, (f s).namespaceUri = s.namespaceUri) :
    (set.modifySchema namespaceUri f).Separate := by
  show ((modifySchemas namespaceUri f set.schemas).map (·.namespaceUri)).Nodup
  rw [namespaces_modifySchemas hf]
  split
  · exact h
  · next hmem =>
    refine List.nodup_append.mpr ⟨h, by simp, ?_⟩
    exact fun uri huri uri' huri' heq => hmem (List.mem_singleton.mp huri' ▸ heq ▸ huri)

/-- An entry after another one has been put in. -/
theorem mem_entries_insert {α : Type} {m : OrderedMap String α} {name n : String} {a b : α}
    (h : (n, b) ∈ (m.insert name a).entries) : (n = name ∧ b = a) ∨ (n, b) ∈ m.entries := by
  rw [← OrderedMap.get?_eq_some_iff] at h
  exact (OrderedMap.eq_or_of_get?_insert h).imp_right fun ⟨_, hold⟩ =>
    OrderedMap.get?_eq_some_iff.mp hold

/-- A type is found under the name under which it is put into a schema. -/
theorem findType?_insertType (set : SchemaSet) (namespaceUri name : String) (id : TypeId)
    (q : QName) :
    (set.modifySchema namespaceUri
      fun s => { s with types := s.types.insert name id }).findType? q =
      if lookupNamespace? q = some namespaceUri ∧ q.localName = name then some id
      else set.findType? q := by
  unfold findType? schemaOf?
  cases huri : lookupNamespace? q with
  | none => simp
  | some uri =>
    simp only [Option.bind_some, Option.some.injEq]
    rw [set.schema?_modifySchema namespaceUri
      (f := fun s => { s with types := s.types.insert name id }) (fun _ => rfl)]
    by_cases h : uri = namespaceUri
    · subst h
      simp only [if_pos, true_and, Option.bind_some, OrderedMap.get?_insert]
      split
      · rfl
      · cases set.schema? uri with
        | none => rfl
        | some s => rfl
    · simp [h]

/-- Types are found as before if entries for other components are put into a schema. -/
theorem findType?_modifySchema (huri : ∀ s, (f s).namespaceUri = s.namespaceUri)
    (hf : ∀ s, (f s).types = s.types) :
    (set.modifySchema namespaceUri f).findType? = set.findType? := by
  funext q
  unfold findType? schemaOf?
  cases lookupNamespace? q with
  | none => rfl
  | some uri =>
    simp only [Option.bind_some]
    rw [schema?_modifySchema _ _ huri]
    by_cases h : uri = namespaceUri
    · subst h
      rw [if_pos rfl, Option.bind_some, hf]
      cases set.schema? uri with
      | none => rfl
      | some s => rfl
    · rw [if_neg h]

end SchemaSet

@[simp] theorem Context.localName_nameOf (context : Context) (name : String) :
    (context.nameOf name).localName = name := by
  unfold nameOf
  split <;> rfl

theorem Context.lookupNamespace?_nameOf (context : Context) (name : String) :
    SchemaSet.lookupNamespace? (context.nameOf name) = some context.targetNamespace := by
  unfold nameOf
  generalize context.targetNamespace = uri
  by_cases h : uri.isEmpty = true
  · rw [if_pos h, String.isEmpty_iff.mp h]
    rfl
  · rw [if_neg h]
    unfold SchemaSet.lookupNamespace? QName.qualified
    split
    · next hnone => cases hnone
    · next hempty => exact absurd (String.isEmpty_iff.mpr (Option.some.inj hempty)) h
    · next huri => exact huri.symm

/-- The type of a new name is found under that name, and all others as before. -/
theorem Context.findType?_insertType {set : SchemaSet} (context : Context) {name : String}
    (hfree : set.findType? (context.nameOf name) = none) (id : TypeId) :
    let set' := set.modifySchema context.targetNamespace
      fun s => { s with types := s.types.insert name id }
    set'.findType? (context.nameOf name) = some id ∧
      ∀ q i, set.findType? q = some i → set'.findType? q = some i := by
  intro set'
  have hfound := set.findType?_insertType context.targetNamespace name id
  refine ⟨?_, fun q i hi => ?_⟩
  · rw [hfound, if_pos ⟨context.lookupNamespace?_nameOf name, context.localName_nameOf name⟩]
  · rw [hfound, if_neg]
    · exact hi
    · rintro ⟨huri, rfl⟩
      have hsame : set.findType? q = set.findType? (context.nameOf q.localName) := by
        unfold SchemaSet.findType? SchemaSet.schemaOf?
        rw [huri, context.lookupNamespace?_nameOf, context.localName_nameOf]
      rw [hfree] at hsame
      cases hsame.symm.trans hi

/-! ## Declaring -/

namespace Draft

/-- A type that has just been added is still to be read. -/
theorem Sound.pending_addType {d : Draft} (hd : d.Sound) (t : TypeDefinition) :
    Pending { d with set := (d.set.addType t).2 } (d.set.addType t).1 t.isSimple := by
  refine ⟨d.set.hasType_addType.mpr (.inr rfl), hd.anySimpleType.hasType, ?_,
    hd.waitingOf_eq_nil (Nat.lt_irrefl _)⟩
  rw [d.set.type_addType, if_pos rfl]

/-- A draft has a component at a place. -/
def Has (d : Draft) : Part → Prop
  | .element id => d.set.HasElement id
  | .attr id => d.set.HasAttribute id
  | .type id => d.set.HasType id

/-- What has been declared is there. -/
theorem Declared.has {d : Draft} {g : Global} (h : d.Declared g) : d.Has g.part := by
  obtain ⟨target, e, context⟩ := g
  cases target with
  | element id | attr id => exact h
  | complexType id | simpleType id => exact Pending.has h

/-- What declaring some components brings about: these are added, and found under their names. -/
structure Declares (globals : List Global) (d d' : Draft) : Prop where
  sound : d'.Sound
  separate : d.set.Separate → d'.set.Separate
  grows : d.set.Grows d'.set
  waiting : d'.waiting = d.waiting
  type : ∀ id, d.set.HasType id → d'.set.type id = d.set.type id
  new : ∀ part, ¬ d.Has part → d'.Has part → part ∈ globals.map Global.part
  declared : ∀ g ∈ globals, d'.Declared g
  not_old : ∀ g ∈ globals, ¬ d.Has g.part
  nodup : (globals.map Global.part).Nodup
  findType? : ∀ name id, d.set.findType? name = some id → d'.set.findType? name = some id
  named : ∀ g ∈ globals, ∀ id, g.part = .type id → ∃ name,
    g.element.attribute? "name" = some name ∧
    d'.set.findType? (g.context.nameOf name) = some id

namespace Declares

variable {globals globals' : List Global} {d d' d'' : Draft}

/-- A change of the set that adds no components to the draft. -/
theorem ofSet (hd : d.Sound) (hset : d'.set = d.set) (hwaiting : d'.waiting = d.waiting) :
    Declares [] d d' where
  sound := hd.ofGrows (hset ▸ .refl _) (hset ▸ rfl) (by rw [hset]; exact hd.elements)
    (by rw [hwaiting, hset]; exact hd.waiting)
  separate h := hset ▸ h
  grows := hset ▸ .refl _
  waiting := hwaiting
  type _ _ := hset ▸ rfl
  new part hnot h := by
    unfold Has at h hnot
    rw [hset] at h
    exact absurd h hnot
  declared _ := nofun
  not_old _ := nofun
  nodup := List.nodup_nil
  findType? _ _ h := hset ▸ h
  named _ := nofun

theorem has (h : Declares globals d d') {part : Part} (hp : d.Has part) : d'.Has part := by
  cases part with
  | element id => exact h.grows.hasElement id hp
  | attr id => exact h.grows.hasAttribute id hp
  | type id => exact h.grows.hasType id hp

/-- A component stays to be read while others are declared. -/
theorem keeps_declared (h : Declares globals d d') {g : Global} (hg : d.Declared g) :
    d'.Declared g := by
  have pending {id : TypeId} {isSimple : Bool} (hid : d.Pending id isSimple) :
      d'.Pending id isSimple := by
    refine ⟨h.grows.hasType id hid.has, hid.not_builtin, ?_, ?_⟩
    · rw [h.type id hid.has]
      exact hid.isSimple_eq
    · unfold Draft.waitingOf
      rw [h.waiting]
      exact hid.waiting
  obtain ⟨target, e, context⟩ := g
  cases target with
  | element id => exact h.grows.hasElement id hg
  | attr id => exact h.grows.hasAttribute id hg
  | complexType id | simpleType id => exact pending hg

theorem append (h : Declares globals d d') (h' : Declares globals' d' d'') :
    Declares (globals ++ globals') d d'' where
  sound := h'.sound
  separate hs := h'.separate (h.separate hs)
  grows := h.grows.trans h'.grows
  waiting := h'.waiting.trans h.waiting
  type id hid := (h'.type id (h.grows.hasType id hid)).trans (h.type id hid)
  new part hnot hp := by
    rw [List.map_append, List.mem_append]
    by_cases hmid : d'.Has part
    · exact .inl (h.new part hnot hmid)
    · exact .inr (h'.new part hmid hp)
  declared g hg := by
    rcases List.mem_append.mp hg with hg | hg
    · exact h'.keeps_declared (h.declared g hg)
    · exact h'.declared g hg
  not_old g hg := by
    rcases List.mem_append.mp hg with hg | hg
    · exact h.not_old g hg
    · exact fun hold => h'.not_old g hg (h.has hold)
  nodup := by
    rw [List.map_append, List.nodup_append]
    refine ⟨h.nodup, h'.nodup, ?_⟩
    rintro part hp _ hp' rfl
    obtain ⟨g, hg, rfl⟩ := List.mem_map.mp hp
    obtain ⟨g', hg', heq⟩ := List.mem_map.mp hp'
    exact h'.not_old g' hg' (heq ▸ (h.declared g hg).has)
  findType? name id hid := h'.findType? name id (h.findType? name id hid)
  named g hg id hid := by
    rcases List.mem_append.mp hg with hg | hg
    · obtain ⟨name, hname, hfound⟩ := h.named g hg id hid
      exact ⟨name, hname, h'.findType? _ id hfound⟩
    · exact h'.named g hg id hid

end Declares

end Draft

/-- A component is declared when it has been added and put into the schema of its namespace. -/
theorem Draft.Declares.ofComponent {d : Draft} (d₁ : Draft) (g : Global) {namespaceUri : String}
    (f : Schema → Schema) (ha : Advances [g.part] d d₁) (hwaiting : d₁.waiting = d.waiting)
    (htype : ∀ id, d.set.HasType id → d₁.set.type id = d.set.type id) (hnot : ¬ d.Has g.part)
    (hnew : ∀ part, d₁.Has part → d.Has part ∨ part = g.part) (hg : d₁.Declared g)
    (huri : ∀ s, (f s).namespaceUri = s.namespaceUri)
    (hlists : ∀ s : Schema, s.namespaceUri = namespaceUri → s.Lists d₁.set → (f s).Lists d₁.set)
    (hfound : ∀ name id, d₁.set.findType? name = some id →
      (d₁.set.modifySchema namespaceUri f).findType? name = some id)
    (hnamed : ∀ id, g.part = .type id → ∃ name, g.element.attribute? "name" = some name ∧
      (d₁.set.modifySchema namespaceUri f).findType? (g.context.nameOf name) = some id) :
    Draft.Declares [g] d { d₁ with set := d₁.set.modifySchema namespaceUri f } where
  sound := ⟨ha.sound.listed.modifySchema hlists, ha.sound.anySimpleType, ha.sound.elements,
    ha.sound.waiting⟩
  separate h := by
    have h₁ : d₁.set.Separate := by
      unfold SchemaSet.Separate
      rw [ha.schemas]
      exact h
    exact h₁.modifySchema huri
  grows := ⟨ha.grows.hasType, ha.grows.hasElement, ha.grows.hasAttribute, ha.grows.type,
    ha.grows.element, ha.grows.attr⟩
  waiting := hwaiting
  type := htype
  new part hnot' hp := by
    rw [List.map_singleton, List.mem_singleton]
    refine (hnew part ?_).resolve_left hnot'
    cases part with
    | element | attr | type => exact hp
  declared g' hg' := by
    rw [List.mem_singleton.mp hg']
    obtain ⟨target, e, context⟩ := g
    cases target with
    | element | attr => exact hg
    | complexType | simpleType => exact ⟨hg.has, hg.not_builtin, hg.isSimple_eq, hg.waiting⟩
  not_old g' hg' := List.mem_singleton.mp hg' ▸ hnot
  nodup := by simp
  findType? name id hid := hfound name id (ha.findType?_eq ▸ hid)
  named g' hg' := by
    rw [List.mem_singleton.mp hg']
    exact hnamed

/-- The declaration of a component that is no type makes no difference to where types are found. -/
theorem Draft.Declares.ofOther {d : Draft} (d₁ : Draft) (g : Global) {namespaceUri : String}
    (f : Schema → Schema) (ha : Advances [g.part] d d₁) (hwaiting : d₁.waiting = d.waiting)
    (htype : ∀ id, d.set.HasType id → d₁.set.type id = d.set.type id) (hnot : ¬ d.Has g.part)
    (hnew : ∀ part, d₁.Has part → d.Has part ∨ part = g.part) (hg : d₁.Declared g)
    (huri : ∀ s, (f s).namespaceUri = s.namespaceUri) (htypes : ∀ s, (f s).types = s.types)
    (hlists : ∀ s : Schema, s.namespaceUri = namespaceUri → s.Lists d₁.set → (f s).Lists d₁.set)
    (hpart : ∀ id, g.part ≠ .type id) :
    Draft.Declares [g] d { d₁ with set := d₁.set.modifySchema namespaceUri f } := by
  refine .ofComponent d₁ g f ha hwaiting htype hnot hnew hg huri hlists (fun name id hid => ?_)
    fun id hid => absurd hid (hpart id)
  rw [SchemaSet.findType?_modifySchema huri htypes]
  exact hid

namespace DraftM

open Draft (Declares)

/-- A component comes to be declared only if its name is free. -/
theorem returns_checkNew {α : Type} {d : Draft} {symbol : Symbol} {context : Context} {name : QName}
    {found : Option α} {post : Unit → Draft → Prop} :
    Returns d (checkNew symbol context name found) post ↔ (found = none → post ⟨⟩ d) := by
  unfold checkNew
  cases found with
  | none => simp
  | some a => simp

variable {d : Draft} (hd : d.Sound) (context : Context) (e : Element)
include hd

/-- An element that is declared gets a place, and waits to be read. -/
theorem returns_declareElement : Returns d (declareElement context e) fun g d' =>
    Declares [g] d d' ∧ ∃ id, g = ⟨.element id, e, context⟩ := by
  unfold declareElement
  rw [returns_bind, returns_liftExcept]
  intro name hname
  simp only [getSet, returns_bind, returns_get, returns_pure, returns_checkNew]
  intro _
  refine (returns_newElement_eq name context.targetNamespace true).mono ?_
  generalize hnew : (⟨name, context.targetNamespace, SchemaSet.anyType, none, none, false, true⟩ :
    ElementDeclaration) = new
  rintro _ _ ⟨rfl, rfl⟩
  have hhas := d.set.hasElement_addElement.mpr (.inr (rfl : _ = (d.set.addElement new).1))
  simp only [modifySchema, modifySet, returns_modify]
  refine ⟨.ofOther { d with set := (d.set.addElement new).2 }
    ⟨.element (d.set.addElement new).1, e, context⟩ _
    ((advances_addElement hd (hnew ▸ hd.anyType)).mono (List.nil_subset _)) rfl (fun _ _ => rfl)
    (Nat.lt_irrefl _) ?_ hhas (fun _ => rfl) (fun _ => rfl) ?_ (by rintro _ ⟨⟩), _, rfl⟩
  · intro part hp
    cases part with
    | element i => exact (d.set.hasElement_addElement.mp hp).imp_right (congrArg Part.element)
    | attr | type => exact .inl hp
  · refine fun s hs hlists => ⟨hlists.types, fun n i hi => ?_, hlists.attributes⟩
    rcases SchemaSet.mem_entries_insert hi with ⟨rfl, rfl⟩ | hi
    · refine ⟨hhas, ?_⟩
      rw [d.set.element_addElement, if_pos rfl, hs, ← hnew]
      rfl
    · exact hlists.elements n i hi

theorem returns_declareAttribute : Returns d (declareAttribute context e) fun g d' =>
    Declares [g] d d' ∧ ∃ id, g = ⟨.attr id, e, context⟩ := by
  unfold declareAttribute
  rw [returns_bind, returns_liftExcept]
  intro name hname
  simp only [getSet, returns_bind, returns_get, returns_pure, returns_checkNew]
  intro _
  refine (returns_newAttribute_eq name context.targetNamespace true).mono ?_
  generalize hnew : (⟨name, context.targetNamespace, SchemaSet.anyType, none, none, true⟩ :
    AttributeDeclaration) = new
  rintro _ _ ⟨rfl, rfl⟩
  have hhas := d.set.hasAttribute_addAttribute.mpr (.inr (rfl : _ = (d.set.addAttribute new).1))
  simp only [modifySchema, modifySet, returns_modify]
  refine ⟨.ofOther { d with set := (d.set.addAttribute new).2 }
    ⟨.attr (d.set.addAttribute new).1, e, context⟩ _ (advances_addAttribute hd new) rfl
    (fun _ _ => rfl) (Nat.lt_irrefl _) ?_ hhas (fun _ => rfl) (fun _ => rfl) ?_
    (by rintro _ ⟨⟩), _, rfl⟩
  · intro part hp
    cases part with
    | attr i => exact (d.set.hasAttribute_addAttribute.mp hp).imp_right (congrArg Part.attr)
    | element | type => exact .inl hp
  · refine fun s hs hlists => ⟨hlists.types, hlists.elements, fun n i hi => ?_⟩
    rcases SchemaSet.mem_entries_insert hi with ⟨rfl, rfl⟩ | hi
    · refine ⟨hhas, ?_⟩
      rw [d.set.attr_addAttribute, if_pos rfl, hs, ← hnew]
      rfl
    · exact hlists.attributes n i hi

/-- A type is declared under a name that no type has. -/
theorem returns_declareType (kind : TypeKind) (target : TypeId → Global.Target)
    (htarget : ∀ id, target id = .complexType id ∧ kind.isSimple = false ∨
      target id = .simpleType id ∧ kind.isSimple = true) :
    Returns d (declareType context e kind target) fun g d' =>
      Declares [g] d d' ∧ ∃ id, g = ⟨target id, e, context⟩ := by
  unfold declareType
  rw [returns_bind, returns_liftExcept]
  intro name hname
  simp only [getSet, returns_bind, returns_get, returns_pure, returns_checkNew]
  intro hfree
  refine (returns_newType_eq (some name) context kind).mono ?_
  generalize hnew : (⟨some name, context.targetNamespace, SchemaSet.anyType, kind⟩ :
    TypeDefinition) = new
  rintro _ _ ⟨rfl, rfl⟩
  have hhas := d.set.hasType_addType.mpr (.inr (rfl : _ = (d.set.addType new).1))
  have htype : (d.set.addType new).2.type (d.set.addType new).1 = new := by
    rw [d.set.type_addType, if_pos rfl]
  have hpart : (⟨target (d.set.addType new).1, e, context⟩ : Global).part =
      .type (d.set.addType new).1 := by
    unfold Global.part
    rcases htarget (d.set.addType new).1 with ⟨h, -⟩ | ⟨h, -⟩
    · simp [h]
    · simp [h]
  obtain ⟨hfound, hold⟩ := @Context.findType?_insertType (d.set.addType new).2 context name hfree
    (d.set.addType new).1
  simp only [modifySchema, modifySet, returns_modify]
  refine ⟨.ofComponent { d with set := (d.set.addType new).2 }
    ⟨target (d.set.addType new).1, e, context⟩ _ (hpart ▸ advances_addType hd new) rfl
    (fun i hi => d.set.type_addType_of_has new hi) ?_ ?_ ?_ (fun _ => rfl) ?_ ?_ ?_, _, rfl⟩
  · rw [hpart]
    exact Nat.lt_irrefl _
  · intro part hp
    rw [hpart]
    cases part with
    | type i => exact (d.set.hasType_addType.mp hp).imp_right (congrArg Part.type)
    | element | attr => exact .inl hp
  · have hpending := hd.pending_addType new
    rw [show new.isSimple = kind.isSimple by rw [← hnew, TypeDefinition.isSimple_eq]] at hpending
    unfold Draft.Declared
    rcases htarget (d.set.addType new).1 with ⟨h, hk⟩ | ⟨h, hk⟩
    · rw [h]
      exact hk ▸ hpending
    · rw [h]
      exact hk ▸ hpending
  · refine fun s hs hlists => ⟨fun n i hi => ?_, hlists.elements, hlists.attributes⟩
    rcases SchemaSet.mem_entries_insert hi with ⟨rfl, rfl⟩ | hi
    · refine ⟨hhas, ?_, ?_⟩
      · rw [htype, ← hnew]
      · rw [htype, ← hnew, hs]
    · exact hlists.types n i hi
  · exact hold
  · intro i hi
    obtain rfl : (d.set.addType new).1 = i := Part.type.inj (hpart.symm.trans hi)
    exact ⟨name, (of_requiredName hname).1, hfound⟩

end DraftM

/-- What a child of a schema document has been declared as: a definition of a type as that type, and
others as something else. -/
def Global.Stands (context : Context) (e : Element) (declared : Option Global) : Prop :=
  match e.localName with
  | "complexType" => ∃ id, declared = some ⟨.complexType id, e, context⟩
  | "simpleType" => ∃ id, declared = some ⟨.simpleType id, e, context⟩
  | _ => ∀ g id, declared = some g → g.part ≠ .type id

/-- Each of some things goes with one of some others, and each of these with one of them. -/
structure Matches {α β : Type} (R : α → β → Prop) (as : List α) (bs : List β) : Prop where
  left : ∀ a ∈ as, ∃ b ∈ bs, R a b
  right : ∀ b ∈ bs, ∃ a ∈ as, R a b

namespace Matches

variable {α β : Type} {R : α → β → Prop} {a : α} {as : List α} {b : β} {bs : List β}

theorem nil : Matches R [] [] := ⟨nofun, nofun⟩

theorem cons (h : R a b) (hs : Matches R as bs) : Matches R (a :: as) (b :: bs) where
  left a' ha' := by
    rcases List.mem_cons.mp ha' with rfl | ha'
    · exact ⟨b, List.mem_cons_self, h⟩
    · obtain ⟨b', hb', hr⟩ := hs.left a' ha'
      exact ⟨b', List.mem_cons_of_mem b hb', hr⟩
  right b' hb' := by
    rcases List.mem_cons.mp hb' with rfl | hb'
    · exact ⟨a, List.mem_cons_self, h⟩
    · obtain ⟨a', ha', hr⟩ := hs.right b' hb'
      exact ⟨a', List.mem_cons_of_mem a ha', hr⟩

end Matches

/-- What the children of a document have been declared as. -/
def SchemaDocument.Stands (document : SchemaDocument) (declared : List (Option Global)) : Prop :=
  Matches (Global.Stands document.context) document.root.children declared

namespace DraftM

open Draft (Declares)

/-- A child that is declared as a component. -/
theorem returns_declaredAs {d : Draft} {context : Context} {e : Element}
    {x : DraftM Global}
    (hx : Returns d x fun g d' => Declares [g] d d' ∧ Global.Stands context e (some g)) :
    Returns d (do return some (← x)) fun declared d' =>
      Declares declared.toList d d' ∧ Global.Stands context e declared := by
  rw [returns_bind]
  exact hx.mono fun g d' h => returns_pure.mpr h

/-- A child that makes no component. -/
theorem returns_notDeclared {d : Draft} {context : Context} {e : Element}
    {x : DraftM Unit} (hx : Returns d x fun _ d' => Declares [] d d')
    (he : Global.Stands context e none) : Returns d (do
      x
      return none : DraftM (Option Global)) fun declared d' =>
        Declares declared.toList d d' ∧ Global.Stands context e declared := by
  rw [returns_bind]
  exact hx.mono fun _ d' h => returns_pure.mpr ⟨h, he⟩

variable {d : Draft} (hd : d.Sound) (context : Context) (e : Element)
include hd

/-- Groups have their places apart from the set. -/
theorem returns_addGroup (symbol : Symbol) (groups : Draft → OrderedMap QName GroupDefinition)
    (add : QName → Draft → Draft) (hset : ∀ name, (add name d).set = d.set)
    (hwaiting : ∀ name, (add name d).waiting = d.waiting) : Returns d (do
      let name := context.nameOf (← context.requiredName e)
      checkNew symbol context name ((groups (← get)).get? name)
      modify (add name) : DraftM Unit) fun _ d' => Declares [] d d' := by
  simp only [returns_bind, returns_liftExcept, returns_get, returns_checkNew, returns_modify]
  intro name _ _
  exact .ofSet hd (hset _) (hwaiting _)

theorem returns_declareGroup : Returns d (declareGroup context e) fun _ d' => Declares [] d d' :=
  returns_addGroup hd context e .group (·.groups)
    (fun name d => { d with groups := d.groups.insert name ⟨e, context⟩ }) (fun _ => rfl)
    fun _ => rfl

theorem returns_declareAttributeGroup :
    Returns d (declareAttributeGroup context e) fun _ d' => Declares [] d d' :=
  returns_addGroup hd context e .attrGroup (·.attributeGroups)
    (fun name d => { d with attributeGroups := d.attributeGroups.insert name ⟨e, context⟩ })
    (fun _ => rfl) fun _ => rfl

/-- A child of a schema is declared as what its tag says, or is passed over. -/
theorem returns_declare : Returns d (declare context e) fun declared d' =>
    Declares declared.toList d d' ∧ Global.Stands context e declared := by
  have unchanged : Declares [] d d := .ofSet hd rfl rfl
  unfold declare
  split
  · next he =>
    refine returns_declaredAs ((returns_declareElement hd context e).mono fun g d' h => ⟨h.1, ?_⟩)
    obtain ⟨id, rfl⟩ := h.2
    simp only [Global.Stands, he]
    rintro _ _ ⟨⟩
    exact nofun
  · next he =>
    refine returns_declaredAs ((returns_declareAttribute hd context e).mono fun g d' h => ⟨h.1, ?_⟩)
    obtain ⟨id, rfl⟩ := h.2
    simp only [Global.Stands, he]
    rintro _ _ ⟨⟩
    exact nofun
  · next he =>
    refine returns_declaredAs ((returns_declareType hd context e _ .complexType fun _ =>
      .inl ⟨rfl, rfl⟩).mono fun g d' h => ⟨h.1, ?_⟩)
    simpa [Global.Stands, he] using h.2
  · next he =>
    refine returns_declaredAs ((returns_declareType hd context e _ .simpleType fun _ =>
      .inr ⟨rfl, rfl⟩).mono fun g d' h => ⟨h.1, ?_⟩)
    simpa [Global.Stands, he] using h.2
  · next he =>
    exact returns_notDeclared (returns_declareGroup hd context e) (by simp [Global.Stands, he])
  · next he =>
    exact returns_notDeclared (returns_declareAttributeGroup hd context e)
      (by simp [Global.Stands, he])
  · next he =>
    refine returns_notDeclared ?_ (by simp [Global.Stands, he])
    simp only [report, returns_modify]
    exact .ofSet hd rfl rfl
  · next he => exact returns_pure.mpr ⟨unchanged, by simp [Global.Stands, he]⟩
  · next he => exact returns_pure.mpr ⟨unchanged, by simp [Global.Stands, he]⟩
  · next he => exact returns_pure.mpr ⟨unchanged, by simp [Global.Stands, he]⟩
  · exact returns_throw

omit context e in
/-- The children of a document are declared, and nothing else is. -/
theorem returns_declareChildren (context : Context) (children : List Element) :
    Returns d (children.mapM (declare context)) fun declared d' =>
      Declares (declared.filterMap id) d d' ∧
      Matches (Global.Stands context) children declared := by
  refine (returns_mapM (I := Draft.Sound)
    (P := fun child r d d' => Declares r.toList d d' ∧ Global.Stands context child r)
    (Q := fun children rs d d' => Declares (rs.filterMap id) d d' ∧
      Matches (Global.Stands context) children rs)
    (fun d hd => ⟨.ofSet hd rfl rfl, .nil⟩) ?_
    (fun child _ d hd => (returns_declare hd context child).mono fun _ d' h => ⟨h.1.sound, h⟩)
    hd).mono fun _ _ h => h.2
  rintro child children r rs d d₁ d₂ ⟨hr, hstands⟩ ⟨hrs, hmatches⟩
  refine ⟨?_, .cons hstands hmatches⟩
  cases r with
  | none => exact hr.append hrs
  | some g => exact hr.append hrs

omit context e in
/-- All children of all documents are declared, and nothing else is. -/
theorem returns_declareAll (documents : List SchemaDocument) :
    Returns d (declareAll documents) fun globals d' => Declares globals d d' ∧
      (∀ document ∈ documents, ∀ child ∈ document.root.children, ∃ declared,
        Global.Stands document.context child declared ∧ ∀ g, declared = some g → g ∈ globals) ∧
      ∀ g ∈ globals, ∃ document ∈ documents, ∃ child ∈ document.root.children,
        Global.Stands document.context child (some g) := by
  unfold declareAll
  rw [returns_bind]
  refine (returns_mapM (I := Draft.Sound)
    (P := fun document rs d d' => Declares (rs.filterMap id) d d' ∧ document.Stands rs)
    (Q := fun documents rss d d' => Declares (rss.flatten.filterMap id) d d' ∧
      Matches SchemaDocument.Stands documents rss)
    (fun d hd => ⟨.ofSet hd rfl rfl, .nil⟩) ?_
    (fun document _ d hd => (returns_declareChildren hd document.context _).mono
      fun _ d' h => ⟨h.1.sound, h⟩) hd).mono ?_
  · rintro document documents rs rss d d₁ d₂ ⟨hrs, hr⟩ ⟨hrss, hmatches⟩
    refine ⟨?_, .cons hr hmatches⟩
    rw [List.flatten_cons, List.filterMap_append]
    exact hrs.append hrss
  · rintro rss d' ⟨-, hdeclares, hmatches⟩
    refine returns_pure.mpr ⟨hdeclares, ?_, ?_⟩
    · intro document hdocument child hchild
      obtain ⟨rs, hrs, hr⟩ := hmatches.left document hdocument
      obtain ⟨r, hmem, hstands⟩ := hr.left child hchild
      refine ⟨r, hstands, ?_⟩
      rintro g rfl
      exact List.mem_filterMap.mpr ⟨some g, List.mem_flatten.mpr ⟨rs, hrs, hmem⟩, rfl⟩
    · intro g hg
      obtain ⟨_, hmem, rfl⟩ := List.mem_filterMap.mp hg
      obtain ⟨rs, hrs, hmem⟩ := List.mem_flatten.mp hmem
      obtain ⟨document, hdocument, hr⟩ := hmatches.right rs hrs
      obtain ⟨child, hchild, hstands⟩ := hr.right _ hmem
      exact ⟨document, hdocument, child, hchild, hstands⟩

end DraftM

end SchemaBinding.Xsd
