import SchemaBinding.Proofs.Xsd.Accepted
import SchemaBinding.Proofs.Xsd.Globals

/-!
# Drafts that have been read

When all documents have been declared and read, every type is settled, be it built in, declared or
anonymous, and every attribute is of a simple type. A type is its own base just if it is the root of
all types or its definition names it as its base.

## Main definitions

* `SchemaDocument.NamesItself`: a document defines a type as derived from itself
* `Draft.Finished`: a draft whose components have all been read
* `Draft.Stages`: a draft before anything is declared, when all is declared, and when all is read

## Main results

* `Draft.start_ofDocuments`: drafts before anything is declared
* `Draft.exists_stages_of_read`, `Draft.finished_of_read`: drafts when everything has been read
-/

namespace SchemaBinding.Xsd

open Xml (Element QName)
open Draft (Advances Declares)

/-- The reference to the base in the definition of a type, and the element that holds it. -/
def baseReference? (e : Element) : Option (Element × String) :=
  match e.localName with
  | "complexType" => complexBaseReference? e
  | "simpleType" => simpleBaseReference? e
  | _ => none

/-- A document defines a type whose base, as it is referred to, is the type itself. -/
def SchemaDocument.NamesItself (document : SchemaDocument) : Prop :=
  ∃ child ∈ document.root.children, ∃ name e reference,
    child.attribute? "name" = some name ∧ baseReference? child = some (e, reference) ∧
    document.context.resolve e reference = .ok (document.context.nameOf name)

/-! ## Built-in types -/

namespace SchemaSet

/-- The built-in types but the roots are derived from the root of the simple types. -/
theorem says_builtin {t : TypeDefinition} (h : t ∈ builtinTypes.drop 2) :
    t.base = anySimpleType ∧ builtin.Says t.base t.kind [] := by
  have hroot : builtin.IsSimple anySimpleType := by
    unfold IsSimple
    rfl
  have hlists : ∀ p ∈ Builtin.lists, (builtin.type (atomicPlace p.2)).isSimple = true := by
    decide +kernel
  rcases List.mem_append.mp h with h | h
  · obtain ⟨name, -, rfl⟩ := List.mem_map.mp h
    exact ⟨rfl, .simple hroot trivial⟩
  · obtain ⟨p, hp, rfl⟩ := List.mem_map.mp h
    exact ⟨rfl, .simple hroot (hlists p hp)⟩

theorem cases_builtin {id : TypeId} (h : builtin.HasType id) : id = anyType ∨ id = anySimpleType ∨
    (2 ≤ id.index ∧ builtin.type id ∈ builtinTypes.drop 2) := by
  obtain ⟨i⟩ := id
  match i, h with
  | 0, _ => exact .inl rfl
  | 1, _ => exact .inr (.inl rfl)
  | i + 2, h =>
    refine .inr (.inr ⟨Nat.le_add_left 2 i, ?_⟩)
    have hlt : i + 2 < builtinTypes.length := h
    have htype : builtin.type ⟨i + 2⟩ = builtinTypes[i + 2] := by
      unfold type
      rw [Array.getElem?_eq_getElem h]
      rfl
    rw [htype]
    exact List.mem_of_getElem? (i := i) (by simp [Nat.add_comm 2 i, hlt])

theorem listed_builtin : builtin.Listed := by
  intro s hs
  obtain rfl : s = builtinSchema := List.mem_singleton.mp hs
  have htypes : ∀ entry ∈ builtinSchema.types.entries,
      entry.2.index < builtinTypes.toArray.size ∧
      (builtin.type entry.2).name = some entry.1 ∧
      (builtin.type entry.2).namespaceUri = builtinSchema.namespaceUri := by
    decide +kernel
  exact ⟨fun n id h => htypes (n, id) h, nofun, nofun⟩

end SchemaSet

namespace Draft

/-- Before anything is declared, the documents have only made a difference to the schemas. -/
theorem set_ofDocuments (documents : List SchemaDocument) (log : Log) :
    ∃ schemas, (ofDocuments documents log).set = { SchemaSet.builtin with schemas := schemas } ∧
      (ofDocuments documents log).set.Listed ∧ (ofDocuments documents log).set.Separate := by
  refine SchemaSet.of_ofDocuments
    (P := fun set => ∃ schemas, set = { SchemaSet.builtin with schemas := schemas } ∧
      set.Listed ∧ set.Separate)
    ⟨_, rfl, SchemaSet.listed_builtin, by simp [SchemaSet.Separate, SchemaSet.builtin]⟩ ?_
    documents log
  rintro _ uri source ⟨schemas, rfl, hlisted, hseparate⟩
  refine ⟨_, rfl, hlisted.modifySchema fun s _ hs => ?_, hseparate.modifySchema fun _ => rfl⟩
  exact ⟨hs.types, hs.elements, hs.attributes⟩

/-- The built-in types of a draft before anything is declared. -/
structure Start (d : Draft) : Prop where
  sound : d.Sound
  separate : d.set.Separate
  waiting : d.waiting = []
  types : d.set.types = SchemaSet.builtin.types
  attributes : ∀ id, ¬ d.set.HasAttribute id

theorem start_ofDocuments (documents : List SchemaDocument) (log : Log) :
    (ofDocuments documents log).Start := by
  obtain ⟨schemas, hset, hlisted, hseparate⟩ := set_ofDocuments documents log
  have helements : ∀ id, ¬ (ofDocuments documents log).set.HasElement id := by
    intro id
    rw [hset]
    exact Nat.not_lt_zero _
  refine ⟨⟨hlisted, ?_, fun id hid => absurd hid (helements id), nofun⟩, hseparate, rfl, ?_,
    fun id => ?_⟩
  · rw [hset]
    rfl
  · rw [hset]
  · rw [hset]
    exact Nat.not_lt_zero _

namespace Start

variable {d : Draft} (h : d.Start) {id : TypeId}
include h

theorem type_eq (id : TypeId) : d.set.type id = SchemaSet.builtin.type id := by
  unfold SchemaSet.type
  rw [h.types]

theorem hasType_builtin (hid : d.set.HasType id) : SchemaSet.builtin.HasType id := by
  unfold SchemaSet.HasType at hid ⊢
  rwa [← h.types]

theorem baseOf_ne (hid : d.set.HasType id) (hne : id ≠ SchemaSet.anyType) :
    d.set.baseOf id ≠ id := by
  unfold SchemaSet.baseOf
  rw [h.type_eq]
  rcases SchemaSet.cases_builtin (h.hasType_builtin hid) with rfl | rfl | ⟨hle, hmem⟩
  · exact absurd rfl hne
  · decide
  · rw [(SchemaSet.says_builtin hmem).1]
    rintro rfl
    exact absurd hle (by decide)

theorem settled (hid : d.set.HasType id) (hne : id ≠ SchemaSet.anySimpleType) : d.Settled id := by
  have hwaiting : d.waitingOf id = [] := by
    unfold waitingOf
    rw [h.waiting]
    rfl
  have hgrows : SchemaSet.builtin.Grows d.set := by
    refine ⟨fun id hid => ?_, nofun, nofun, fun id _ => ?_, nofun, nofun⟩
    · unfold SchemaSet.HasType at hid ⊢
      rwa [h.types]
    · rw [h.type_eq]
  unfold Settled SchemaSet.baseOf
  rw [hwaiting, h.type_eq]
  refine SchemaSet.Says.mono hgrows ?_
  rcases SchemaSet.cases_builtin (h.hasType_builtin hid) with rfl | rfl | ⟨-, hmem⟩
  · exact .content (h.hasType_builtin hid) ⟨nofun, ⟨rfl, nofun⟩, nofun, nofun⟩ rfl rfl
  · exact absurd rfl hne
  · exact (SchemaSet.says_builtin hmem).2

end Start

/-- A draft of some documents whose components have all been read. -/
structure Finished (documents : List SchemaDocument) (d : Draft) : Prop where
  sound : d.Sound
  separate : d.set.Separate
  anyType : d.set.type SchemaSet.anyType = SchemaSet.anyTypeDefinition
  anySimpleType : d.set.type SchemaSet.anySimpleType =
    SchemaSet.builtinType Builtin.anySimpleType SchemaSet.anyType (.simple (.restriction .empty))
  waiting : d.waitingOf SchemaSet.anySimpleType = []
  settled : ∀ id, d.set.HasType id → id ≠ SchemaSet.anySimpleType → d.Settled id
  attributes : ∀ id, d.set.HasAttribute id → d.set.IsSimple (d.set.attr id).type
  baseOf_eq : (∃ id, id ≠ SchemaSet.anyType ∧ d.set.HasType id ∧ d.set.baseOf id = id) ↔
    ∃ document ∈ documents, document.NamesItself

end Draft

/-- A name is known from where it is looked up. -/
theorem qName_ext {q q' : QName} {uri : String}
    (hq : SchemaSet.lookupNamespace? q = some uri) (hq' : SchemaSet.lookupNamespace? q' = some uri)
    (hlocal : q.localName = q'.localName) : q = q' := by
  have h : ∀ {q : QName}, SchemaSet.lookupNamespace? q = some uri →
      q.namespaceUri = if uri = "" then none else some uri := by
    intro q hq
    unfold SchemaSet.lookupNamespace? at hq
    split at hq
    · next hnone =>
      cases hq
      exact hnone
    · cases hq
    · next hempty huri =>
      cases hq
      rw [huri, if_neg hempty]
  cases q
  cases q'
  simp only [QName.mk.injEq]
  exact ⟨(h hq).trans (h hq').symm, hlocal⟩

namespace Global

variable {context : Context} {child : Element} {g : Global}

/-- What has been declared for a type is read from its definition. -/
theorem Stands.readFrom (h : Global.Stands context child (some g)) {id : TypeId}
    (hid : g.part = .type id) : g.element = child ∧ g.context = context ∧
      ∀ d : Draft, d.HasRead g → d.ReadFrom context (baseReference? child) id := by
  unfold Stands at h
  split at h
  · next he =>
    obtain ⟨id', heq⟩ := h
    cases heq
    cases hid
    refine ⟨rfl, rfl, fun d hd => ?_⟩
    simp only [baseReference?, he]
    exact hd.2
  · next he =>
    obtain ⟨id', heq⟩ := h
    cases heq
    cases hid
    refine ⟨rfl, rfl, fun d hd => ?_⟩
    simp only [baseReference?, he]
    exact hd.2
  · exact absurd hid (h g id rfl)

/-- A definition of a type has been declared as a type. -/
theorem Stands.exists_of_reference {declared : Option Global}
    (h : Global.Stands context child declared) (hreference : (baseReference? child).isSome = true) :
    ∃ g id, declared = some g ∧ g.part = .type id := by
  unfold Stands at h
  unfold baseReference? at hreference
  split at h
  · obtain ⟨id, rfl⟩ := h
    exact ⟨_, id, rfl, rfl⟩
  · obtain ⟨id, rfl⟩ := h
    exact ⟨_, id, rfl, rfl⟩
  · split at hreference
    · contradiction
    · contradiction
    · cases hreference

end Global

/-! ## Declaring and reading -/

namespace Draft

/-- A draft before anything is declared, when the global components of all documents have been
declared, and when these have been read. -/
structure Stages (documents : List SchemaDocument) (globals : List Global) (d d₁ d₂ : Draft) :
    Prop where
  start : d.Start
  declares : Declares globals d d₁
  declared : ∀ document ∈ documents, ∀ child ∈ document.root.children, ∃ declared,
    Global.Stands document.context child declared ∧ ∀ g, declared = some g → g ∈ globals
  defined : ∀ g ∈ globals, ∃ document ∈ documents, ∃ child ∈ document.root.children,
    Global.Stands document.context child (some g)
  advances : Advances (globals.map Global.part) d₁ d₂
  hasRead : ∀ g ∈ globals, d₂.HasRead g

namespace Stages

variable {documents : List SchemaDocument} {globals : List Global} {d d₁ d₂ : Draft}
  (h : Stages documents globals d d₁ d₂) {id : TypeId}
include h

/-- A place that something is read into is there when all has been declared. -/
theorem has {part : Part} (hp : part ∈ globals.map Global.part) : d₁.Has part := by
  obtain ⟨g, hg, rfl⟩ := List.mem_map.mp hp
  exact (h.declares.declared g hg).has

/-- Nothing is read into the built-in types. -/
theorem not_mem (hid : d.set.HasType id) : Part.type id ∉ globals.map Global.part := by
  intro hp
  obtain ⟨g, hg, hpart⟩ := List.mem_map.mp hp
  exact h.declares.not_old g hg (hpart ▸ hid)

/-- So they stay as they are. -/
theorem type_eq (hid : d.set.HasType id) :
    d₂.set.type id = d.set.type id ∧ d₂.waitingOf id = d.waitingOf id := by
  obtain ⟨htype, hwaiting⟩ :=
    h.advances.type id (h.declares.grows.hasType id hid) (h.not_mem hid)
  refine ⟨htype.trans (h.declares.type id hid), hwaiting.trans ?_⟩
  unfold waitingOf
  rw [h.declares.waiting]

theorem type_root (hid : id.index < 2) : d₂.set.type id = SchemaSet.builtin.type id := by
  have hhas : d.set.HasType id := by
    unfold SchemaSet.HasType
    rw [h.start.types]
    exact Nat.lt_of_lt_of_le hid (by decide +kernel)
  rw [(h.type_eq hhas).1, h.start.type_eq]

/-- A declared type has been read from its definition, and is found under its name. -/
theorem readFrom {g : Global} (hg : g ∈ globals) (hpart : g.part = .type id) {context : Context}
    {child : Element} (hstands : Global.Stands context child (some g)) :
    d₂.ReadFrom context (baseReference? child) id ∧ ∃ name,
      child.attribute? "name" = some name ∧ d₂.set.findType? (context.nameOf name) = some id := by
  obtain ⟨rfl, rfl, hr⟩ := hstands.readFrom hpart
  obtain ⟨name, hname, hfound⟩ := h.declares.named g hg id hpart
  exact ⟨hr d₂ (h.hasRead g hg), name, hname, h.advances.findType?_eq ▸ hfound⟩

/-- A type is a built-in one, one that has been declared, or one that was found while reading. -/
theorem cases (hid : d₂.set.HasType id) : d.set.HasType id ∨
    (∃ g ∈ globals, g.part = .type id) ∨
    (d₂.Settled id ∧ d₂.set.baseOf id ≠ id) := by
  by_cases hold : d.set.HasType id
  · exact .inl hold
  · by_cases hid₁ : d₁.set.HasType id
    · exact .inr (.inl (List.mem_map.mp (h.declares.new (.type id) hold hid₁)))
    · exact .inr (.inr (h.advances.newType id hid₁ hid fun hp => hid₁ (h.has hp)))

theorem settled (hid : d₂.set.HasType id) (hne : id ≠ SchemaSet.anySimpleType) : d₂.Settled id := by
  rcases h.cases hid with hold | ⟨g, hg, hpart⟩ | ⟨hsettled, -⟩
  · have hs := h.start.settled hold hne
    unfold Settled SchemaSet.baseOf at hs ⊢
    rw [(h.type_eq hold).1, (h.type_eq hold).2]
    exact SchemaSet.Says.mono (h.declares.grows.trans h.advances.grows) hs
  · obtain ⟨_, -, _, -, hstands⟩ := h.defined g hg
    exact (h.readFrom hg hpart hstands).1.settled
  · exact hsettled

theorem isSimple_attr {id : AttributeId} (hid : d₂.set.HasAttribute id) :
    d₂.set.IsSimple (d₂.set.attr id).type := by
  by_cases hid₁ : d₁.set.HasAttribute id
  · obtain ⟨g, hg, hpart⟩ := List.mem_map.mp
      (h.declares.new (.attr id) (h.start.attributes id) hid₁)
    exact (h.hasRead g hg).isSimple hpart
  · exact h.advances.newAttribute id hid₁ hid fun hp => hid₁ (h.has hp)

/-- A type that is its own base is so by its definition. -/
theorem exists_namesItself (hid : d₂.set.HasType id) (hne : id ≠ SchemaSet.anyType)
    (heq : d₂.set.baseOf id = id) : ∃ document ∈ documents, document.NamesItself := by
  rcases h.cases hid with hold | ⟨g, hg, hpart⟩ | ⟨-, hbase⟩
  · refine absurd ?_ (h.start.baseOf_ne hold hne)
    unfold SchemaSet.baseOf at heq ⊢
    rwa [(h.type_eq hold).1] at heq
  · obtain ⟨document, hdocument, child, hchild, hstands⟩ := h.defined g hg
    obtain ⟨hr, name, hname, hfound⟩ := h.readFrom hg hpart hstands
    refine ⟨document, hdocument, child, hchild, name, ?_⟩
    have hrefers := hr.refers
    rw [heq] at hrefers
    unfold SchemaSet.Refers at hrefers
    split at hrefers
    · next e reference href =>
      obtain ⟨q, hq, hqid⟩ := hrefers
      obtain ⟨-, hlocal, huri⟩ := h.advances.sound.listed.findType? hqid
      obtain ⟨-, hlocal', huri'⟩ := h.advances.sound.listed.findType? hfound
      obtain rfl := qName_ext huri huri' (Option.some.inj (hlocal.symm.trans hlocal'))
      exact ⟨e, reference, hname, href, hq⟩
    · exact absurd rfl hrefers
  · exact absurd heq hbase

/-- A definition that names itself makes a type that is its own base. -/
theorem exists_of_namesItself {document : SchemaDocument} (hdocument : document ∈ documents)
    (hself : document.NamesItself) :
    ∃ id, id ≠ SchemaSet.anyType ∧ d₂.set.HasType id ∧ d₂.set.baseOf id = id := by
  obtain ⟨child, hchild, name, e, reference, hname, href, hresolve⟩ := hself
  obtain ⟨declared, hstands, hmem⟩ := h.declared document hdocument child hchild
  obtain ⟨g, id, rfl, hpart⟩ := hstands.exists_of_reference (by rw [href]; rfl)
  have hg := hmem g rfl
  have hp : Part.type id ∈ globals.map Global.part := List.mem_map.mpr ⟨g, hg, hpart⟩
  obtain ⟨hr, name', hname', hfound⟩ := h.readFrom hg hpart hstands
  obtain rfl : name = name' := Option.some.inj (hname.symm.trans hname')
  have hrefers := hr.refers
  unfold SchemaSet.Refers at hrefers
  rw [href] at hrefers
  obtain ⟨q, hq, hqid⟩ := hrefers
  obtain rfl := Except.ok.inj (hresolve.symm.trans hq)
  refine ⟨id, ?_, h.advances.grows.hasType id (h.has hp), Option.some.inj (hqid.symm.trans hfound)⟩
  rintro rfl
  exact h.not_mem h.start.sound.anyType hp

theorem finished : d₂.Finished documents where
  sound := h.advances.sound
  separate := by
    unfold SchemaSet.Separate
    rw [h.advances.schemas]
    exact h.declares.separate h.start.separate
  anyType := h.type_root (by decide)
  anySimpleType := h.type_root (by decide)
  waiting := by
    rw [(h.type_eq h.start.sound.anySimpleType.hasType).2]
    unfold waitingOf
    rw [h.start.waiting]
    rfl
  settled _ := h.settled
  attributes _ := h.isSimple_attr
  baseOf_eq := by
    constructor
    · rintro ⟨id, hne, hid, heq⟩
      exact h.exists_namesItself hid hne heq
    · rintro ⟨document, hdocument, hself⟩
      exact h.exists_of_namesItself hdocument hself

end Stages

/-- Reading documents goes through the stages: what is kept whatever is read is kept from the moment
on when all has been declared. -/
theorem exists_stages_of_read {documents : List SchemaDocument} {log : Log} {draft : Draft}
    (hread : (SchemaSet.readDocuments documents).run.run (.ofDocuments documents log) =
      (.ok ⟨⟩, draft)) :
    ∃ globals declared, Stages documents globals (.ofDocuments documents log) declared draft ∧
      ∀ I, Draft.Stable I → I declared → I draft := by
  have hstart := start_ofDocuments documents log
  generalize ofDocuments documents log = d at hread hstart
  have h : Returns d (SchemaSet.readDocuments documents) fun _ draft =>
      ∃ globals declared, Stages documents globals d declared draft ∧
        ∀ I, Draft.Stable I → I declared → I draft := by
    unfold SchemaSet.readDocuments
    rw [returns_bind]
    refine (DraftM.returns_declareAll hstart.sound documents).mono ?_
    rintro globals d₁ ⟨hdeclares, hdeclared, hdefined⟩
    have hkept : Ends d₁ (globals.forM DraftM.readGlobal) fun _ d₂ =>
        ∀ I, Draft.Stable I → I d₁ → I d₂ := fun I hI hd =>
      keeps_forM (fun g _ => DraftM.keeps_readGlobal hI g) d₁ hd
    have hreads := DraftM.returns_readGlobals hdeclares.sound hdeclares.nodup hdeclares.declared
    refine ⟨(Ends.and hreads.ends hkept).mono ?_⟩
    rintro r d₂ ⟨hread, hkept⟩ _ hr
    obtain ⟨hadvances, hhasRead⟩ := hread _ hr
    exact ⟨globals, d₁, ⟨hstart, hdeclares, hdeclared, hdefined, hadvances, hhasRead⟩, hkept⟩
  exact h.of_run hread

/-- When all documents have been declared and read, the draft is finished. -/
theorem finished_of_read {documents : List SchemaDocument} {log : Log} {draft : Draft}
    (hread : (SchemaSet.readDocuments documents).run.run (.ofDocuments documents log) =
      (.ok ⟨⟩, draft)) : draft.Finished documents := by
  obtain ⟨globals, declared, hstages, -⟩ := exists_stages_of_read hread
  exact hstages.finished

end Draft

end SchemaBinding.Xsd
