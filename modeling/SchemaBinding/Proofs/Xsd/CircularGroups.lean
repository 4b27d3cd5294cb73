import SchemaBinding.Proofs.Xsd.Additions
import SchemaBinding.Proofs.Xsd.GroupCycles
import SchemaBinding.Proofs.Xsd.Inlining

/-!
# Circular groups

A set of documents is refused because a group is used within itself just if, on the way from a
global component along the uses of groups, a name comes twice. If it is the name of one group, then
the group is used within itself indeed. But the names that are being expanded are kept in one list
for groups and attribute groups, although these are named apart. So a set is refused too if a group
uses an attribute group of its name.

## Main definitions

* `SchemaDocument.Circular`, `SchemaDocument.Confused`: the two ways in which a name comes twice

## Main results

* `SchemaSet.circularGroup_of_parse`: which sets are refused because of a group
* `SchemaSet.not_forall_circular`: a set that is refused although no group is used within itself
-/

namespace SchemaBinding.Xsd

open Xml (Element QName)
open Relation (ReflTransGen TransGen)

namespace DraftM

/-! ## Declarations -/

theorem tests_checkNew {α : Type} (symbol : Symbol) (context : Context) (name : QName)
    (found : Option α) : Tests (fun _ => True) True (checkNew symbol context name found) := by
  cases found with
  | none => exact tests_pure _
  | some a => exact tests_throw rfl

theorem tests_modifySchema (context : Context) (f : Schema → Schema) :
    Tests (fun _ => True) True (modifySchema context f) :=
  tests_modify fun _ _ => trivial

/-- The steps by which a component is declared fail because of its name only. -/
theorem tests_component {α β : Type} (context : Context) (e : Element)
    {check : String → SchemaSet → DraftM Unit} {new : String → DraftM α}
    (f : String → α → Schema → Schema) (result : α → β)
    (hcheck : ∀ name set, Tests (fun _ => True) True (check name set))
    (hnew : ∀ name, Tests (fun _ => True) True (new name)) : Tests (fun _ => True) True (do
      let name ← context.requiredName e
      check name (← getSet)
      let id ← new name
      modifySchema context (f name id)
      return result id : DraftM β) := by
  refine (tests_liftExcept (harmless_requiredName context e)).before fun name => ?_
  refine tests_getSet.before fun set => (hcheck name set).before fun _ => ?_
  exact (hnew name).before fun id => (tests_modifySchema _ _).before fun _ => tests_pure _

theorem tests_declareType (context : Context) (e : Element) (kind : TypeKind)
    (target : TypeId → Global.Target) :
    Tests (fun _ => True) True (declareType context e kind target) :=
  tests_component context e _ _ (fun _ _ => tests_checkNew _ _ _ _)
    fun _ _ _ => ⟨trivial, fun _ _ => trivial, fun _ h => nomatch h⟩

/-- The steps by which a group is declared fail because of its name only. -/
theorem tests_addGroup {symbol : Symbol} (context : Context) (e : Element)
    (groups : Draft → OrderedMap QName GroupDefinition) (add : QName → Draft → Draft) :
    Tests (fun _ => True) True (do
      let name := context.nameOf (← context.requiredName e)
      checkNew symbol context name ((groups (← get)).get? name)
      modify (add name) : DraftM Unit) :=
  (tests_liftExcept (harmless_requiredName context e)).before fun _ => tests_get.before fun _ =>
    (tests_checkNew _ _ _ _).before fun _ => tests_modify fun _ _ => trivial

/-- Declaring a child does not fail because of a group that is used within itself. -/
theorem tests_declare (context : Context) (e : Element) :
    Tests (fun _ => True) True (declare context e) := by
  unfold declare
  split
  · refine Tests.before ?_ fun _ => tests_pure _
    exact tests_component context e _ _ (fun _ _ => tests_checkNew _ _ _ _)
      fun _ _ _ => ⟨trivial, fun _ _ => trivial, fun _ h => nomatch h⟩
  · refine Tests.before ?_ fun _ => tests_pure _
    exact tests_component context e _ _ (fun _ _ => tests_checkNew _ _ _ _)
      fun _ _ _ => ⟨trivial, fun _ _ => trivial, fun _ h => nomatch h⟩
  · exact (tests_declareType _ _ _ _).before fun _ => tests_pure _
  · exact (tests_declareType _ _ _ _).before fun _ => tests_pure _
  · exact (tests_addGroup context e (·.groups) fun name d =>
      { d with groups := d.groups.insert name ⟨e, context⟩ }).before fun _ => tests_pure _
  · exact (tests_addGroup context e (·.attributeGroups) fun name d =>
      { d with attributeGroups := d.attributeGroups.insert name ⟨e, context⟩ }).before
        fun _ => tests_pure _
  · exact Tests.before (tests_modify fun _ _ => trivial) fun _ => tests_pure _
  · exact tests_pure _
  · exact tests_pure _
  · exact tests_pure _
  · exact tests_throw rfl

/-- Declaring documents tests nothing: no group is used before all of them are declared. -/
theorem tests_declareAll (documents : List SchemaDocument) :
    Tests (fun _ => True) True (declareAll documents) := by
  refine Tests.before ?_ fun _ => tests_pure _
  refine (tests_mapM (R := fun _ => True) fun document _ => ?_).congr (by simp)
  exact (tests_mapM (R := fun _ => True) fun e _ => tests_declare _ e).congr (by simp)

end DraftM

/-! ## Documents -/

/-- What a child of a schema is read as, if it may use groups. -/
def Holder.ofTag? : String → Option Holder
  | "element" => some .element
  | "complexType" => some .complexType
  | _ => none

namespace SchemaDocument

/-- A definition of a group in some documents. -/
def DefinesGroup (documents : List SchemaDocument) (n : GroupNode) (definition : GroupDefinition) :
    Prop :=
  ∃ context e name, (context, e) ∈ items documents ∧ e.localName = n.kind.tag ∧
    e.attribute? "name" = some name ∧ context.nameOf name = n.name ∧ definition = ⟨e, context⟩

/-- A global element or complex type of some documents uses a group. -/
def StartsAt (uses : Occurrence) (documents : List SchemaDocument) (n : GroupNode) : Prop :=
  ∃ context e holder, (context, e) ∈ items documents ∧ Holder.ofTag? e.localName = some holder ∧
    context.UsesGroup uses holder e n

/-- The uses of groups in the definitions of some documents. -/
abbrev GroupLink (uses : Occurrence) (documents : List SchemaDocument) :
    GroupNode → GroupNode → Prop :=
  Xsd.GroupLink uses (DefinesGroup documents)

/-- A group that is used by a global element or complex type of some documents, or in a group that
is. -/
def Reaches (uses : Occurrence) (documents : List SchemaDocument) (n : GroupNode) : Prop :=
  ∃ start, StartsAt uses documents start ∧ ReflTransGen (GroupLink uses documents) start n

/-- Some group that is reached is used within itself. -/
def Circular (uses : Occurrence) (documents : List SchemaDocument) : Prop :=
  ∃ n, Reaches uses documents n ∧ TransGen (GroupLink uses documents) n n

/-- Some group that is reached uses a group of the other kind and of the same name. -/
def Confused (uses : Occurrence) (documents : List SchemaDocument) : Prop :=
  ∃ n m, Reaches uses documents n ∧ TransGen (GroupLink uses documents) n m ∧ n.name = m.name ∧
    n.kind ≠ m.kind

/-- All groups that are used are free just if no name comes twice. -/
theorem forall_free_iff {uses : Occurrence} {documents : List SchemaDocument} :
    (∀ n, StartsAt uses documents n → Free (GroupLink uses documents) [] n) ↔
      ¬ Circular uses documents ∧ ¬ Confused uses documents := by
  constructor
  · intro h
    constructor
    · rintro ⟨n, ⟨start, hstart, hn⟩, hcycle⟩
      exact (h start hstart).2 n n hn hcycle rfl
    · rintro ⟨n, m, ⟨start, hstart, hn⟩, hm, hname, -⟩
      exact (h start hstart).2 n m hn hm hname
  · rintro ⟨hcircular, hconfused⟩ start hstart
    refine ⟨fun _ _ => List.not_mem_nil, fun n m hn hm hname => ?_⟩
    by_cases hkind : n.kind = m.kind
    · have heq : n = m := by
        cases n
        cases m
        cases hname
        cases hkind
        rfl
      subst heq
      exact hcircular ⟨n, ⟨start, hstart, hn⟩, hm⟩
    · exact hconfused ⟨n, m, ⟨start, hstart, hn⟩, hm, hname, hkind⟩

end SchemaDocument

namespace Draft

variable {context : Context} {e : Element} {g : Option Global} {d d' : Draft}

/-- What is to be read of a child is read as its tag says. -/
theorem Adds.forall_holder_iff {P : Context → Holder → Element → Prop} (h : d.Adds context e g d') :
    (∀ g' ∈ g, ∀ holder, g'.holder? = some holder → P g'.context holder g'.element) ↔
      ∀ holder, Holder.ofTag? e.localName = some holder → P context holder e := by
  cases h with
  | element htag | attr htag | group htag | attributeGroup htag | ignored htag =>
    simp [htag, Global.holder?, Holder.ofTag?]
  | type hdefines =>
    generalize e.localName = tag at hdefines
    cases hdefines <;> simp [Global.holder?, Holder.ofTag?]
  | nothing htag =>
    simp only [List.mem_cons, List.not_mem_nil, or_false] at htag
    rcases htag with htag | htag | htag <;> simp [htag, Holder.ofTag?]

/-- What is found as a group has been declared as one. -/
theorem Adds.definesGroup {n : GroupNode} {definition : GroupDefinition}
    (h : d.Adds context e g d') (hfound : d'.DefinesGroup n definition) :
    d.DefinesGroup n definition ∨ ∃ name, e.localName = n.kind.tag ∧
      e.attribute? "name" = some name ∧ context.nameOf name = n.name ∧
      definition = ⟨e, context⟩ := by
  obtain ⟨kind, name⟩ := n
  cases h with
  | group htag hname hnew =>
    cases kind with
    | attributes => exact .inl hfound
    | content =>
      obtain ⟨heq, rfl⟩ | ⟨-, hold⟩ := OrderedMap.eq_or_of_get?_insert hfound
      · exact .inr ⟨_, htag, (DraftM.of_requiredName hname).1, heq.symm, rfl⟩
      · exact .inl hold
  | attributeGroup htag hname hnew =>
    cases kind with
    | content => exact .inl hfound
    | attributes =>
      obtain ⟨heq, rfl⟩ | ⟨-, hold⟩ := OrderedMap.eq_or_of_get?_insert hfound
      · exact .inr ⟨_, htag, (DraftM.of_requiredName hname).1, heq.symm, rfl⟩
      · exact .inl hold
  | element | attr | type | ignored | nothing => cases kind <;> exact .inl hfound

namespace AddsAll

variable {items : List (Context × Element)} {gs : List (Option Global)}

/-- What holds of all declared components that may use groups holds of all elements that declare
one. -/
theorem forall_holder_iff {P : Context → Holder → Element → Prop} (h : AddsAll items d gs d') :
    (∀ g ∈ gs.filterMap id, ∀ holder, g.holder? = some holder → P g.context holder g.element) ↔
      ∀ context e, (context, e) ∈ items →
        ∀ holder, Holder.ofTag? e.localName = some holder → P context holder e := by
  have hflat : ∀ gs : List (Option Global), (∀ g ∈ gs.filterMap id, ∀ holder,
      g.holder? = some holder → P g.context holder g.element) ↔
      ∀ g? ∈ gs, ∀ g ∈ g?, ∀ holder, g.holder? = some holder → P g.context holder g.element := by
    intro gs
    simp only [List.mem_filterMap, id]
    exact ⟨fun h _ hmem g hg => h g ⟨_, hmem, hg⟩, fun h g ⟨_, hmem, hg⟩ => h _ hmem g hg⟩
  rw [hflat]
  induction h with
  | nil => exact ⟨fun _ => nofun, fun _ => nofun⟩
  | cons hadds _ ih =>
    rw [List.forall_mem_cons, hadds.forall_holder_iff]
    refine (and_congr Iff.rfl ih).trans ?_
    constructor
    · rintro ⟨h, hrest⟩ context e hmem
      rcases List.mem_cons.mp hmem with heq | hmem
      · cases heq
        exact h
      · exact hrest context e hmem
    · exact fun h => ⟨h _ _ List.mem_cons_self, fun context e hmem =>
        h context e (List.mem_cons_of_mem _ hmem)⟩

/-- A group is defined by an element of a document. -/
theorem definesGroup {n : GroupNode} {definition : GroupDefinition} (h : AddsAll items d gs d')
    (hfound : d'.DefinesGroup n definition) :
    d.DefinesGroup n definition ∨ ∃ context e name, (context, e) ∈ items ∧
      e.localName = n.kind.tag ∧ e.attribute? "name" = some name ∧ context.nameOf name = n.name ∧
      definition = ⟨e, context⟩ := by
  induction h with
  | nil => exact .inl hfound
  | cons hadds _ ih =>
    rcases ih hfound with hmid | ⟨context, e, name, hmem, h⟩
    · rcases hadds.definesGroup hmid with hd | ⟨name, h⟩
      · exact .inl hd
      · exact .inr ⟨_, _, name, List.mem_cons_self, h⟩
    · exact .inr ⟨context, e, name, List.mem_cons_of_mem _ hmem, h⟩

/-- The groups that have been declared are those that the documents define. -/
theorem definesGroup_eq {documents : List SchemaDocument}
    (h : AddsAll (SchemaDocument.items documents) d gs d')
    (hd : ∀ n definition, ¬ d.DefinesGroup n definition) :
    d'.DefinesGroup = SchemaDocument.DefinesGroup documents := by
  funext n definition
  refine propext ⟨fun hfound => (h.definesGroup hfound).resolve_left (hd n definition), ?_⟩
  obtain ⟨kind, name⟩ := n
  rintro ⟨context, e, written, hmem, htag, hwritten, rfl, rfl⟩
  cases kind with
  | content => exact h.mem_groups hmem htag hwritten
  | attributes => exact h.mem_attributeGroups hmem htag hwritten

end AddsAll

end Draft

namespace SchemaSet

open SchemaDocument

/-- The declared components use free groups just if no name comes twice. -/
theorem forall_allUses_iff {documents : List SchemaDocument} {gs : List (Option Global)}
    {d d' : Draft} (h : Draft.AddsAll (items documents) d gs d')
    (hd : ∀ n definition, ¬ d.DefinesGroup n definition) :
    (∀ g ∈ gs.filterMap id, ∀ holder, g.holder? = some holder →
      AllUses (d'.FreeUse [] g.context) holder g.element) ↔
      ¬ Circular GroupUse documents ∧ ¬ Confused GroupUse documents := by
  rw [h.forall_holder_iff (P := fun context holder e => AllUses (d'.FreeUse [] context) holder e),
    ← forall_free_iff]
  have hlink : d'.GroupLink = SchemaDocument.GroupLink GroupUse documents :=
    congrArg (GroupLink GroupUse) (h.definesGroup_eq hd)
  simp only [DraftM.allUses_freeUse_iff, hlink]
  constructor
  · rintro hall n ⟨context, e, holder, hmem, htag, hn⟩
    exact hall context e hmem holder htag n hn
  · exact fun hall context e hmem holder htag n hn => hall n ⟨context, e, holder, hmem, htag, hn⟩

/-- If documents are read, no name comes twice; if they are refused because of a group, some name
does. -/
theorem ends_readDocuments (documents : List SchemaDocument) {d : Draft}
    (hd : ∀ n definition, ¬ d.DefinesGroup n definition) :
    Ends d (readDocuments documents) fun r _ =>
      (∀ a, r = .ok a → ¬ Circular GroupUse documents ∧ ¬ Confused GroupUse documents) ∧
      ∀ e, r = .error e → e.isCircularGroup = true →
        ¬ (¬ Circular GroupUse documents ∧ ¬ Confused GroupUse documents) := by
  have hdeclare := DraftM.tests_declareAll documents d trivial
  unfold readDocuments
  rw [ends_bind]
  unfold Ends Passes at hdeclare ⊢
  generalize hrun : (DraftM.declareAll documents).run.run d = outcome at hdeclare ⊢
  obtain ⟨result, d₁⟩ := outcome
  cases result with
  | error e =>
    refine ⟨nofun, ?_⟩
    rintro _ ⟨⟩ hcircular _
    exact hdeclare.2.2 e rfl hcircular trivial
  | ok globals =>
    obtain ⟨gs, hadds, rfl⟩ := DraftM.run_declareAll_eq_ok_iff.mp hrun
    have hread := (tests_forM fun g _ => @DraftM.tests_readGlobal d₁ g).congr
      (forall_allUses_iff hadds hd) d₁ rfl
    exact hread.mono fun _ _ h => h.2

/-! ## Parsing -/

theorem harmless_complete (limits : Limits) (draft : Draft) : Harmless (complete limits draft) := by
  refine Harmless.bind ?_ fun _ => Harmless.bind ?_ fun set => ?_
  · unfold checkBases
    split
    · exact harmless_error rfl
    · exact harmless_ok _
  · intro e he
    refine of_foldlM_eq_error (E := fun e => e.isCircularGroup = false) ?_ he
    rintro ⟨id, inheritance⟩ - set e he
    cases inheritance with
    | extension =>
      simp only [inherit] at he
      split at he <;> cases he
    | simpleContent =>
      simp only [inherit] at he
      split at he <;> cases he
      rfl
  · exact (harmless_mapError fun _ => rfl).bind fun _ => harmless_ok _

/-- A set is refused because of a group only if a name comes twice; if it is accepted, none does. -/
theorem not_circular_of_parse {files : FileSystem} {limits : Limits} {location : Location}
    {documents : List SchemaDocument}
    (hload : (SchemaDocument.loadAll files limits location).1 = .ok documents) :
    (∀ e, (parse files limits location).1 = .error e → e.isCircularGroup = true →
      ¬ (¬ Circular GroupUse documents ∧ ¬ Confused GroupUse documents)) ∧
    ∀ set, (parse files limits location).1 = .ok set →
      ¬ Circular GroupUse documents ∧ ¬ Confused GroupUse documents := by
  obtain ⟨log, hload⟩ : ∃ log,
      SchemaDocument.loadAll files limits location = (.ok documents, log) :=
    ⟨_, Prod.ext hload rfl⟩
  have hread := ends_readDocuments documents (d := .ofDocuments documents log)
    (by rintro ⟨kind, name⟩ definition; cases kind <;> exact nofun)
  unfold Ends Passes at hread
  generalize hrun : (readDocuments documents).run.run (.ofDocuments documents log) = outcome
    at hread
  obtain ⟨result, draft⟩ := outcome
  cases result with
  | error e =>
    have hparse : (parse files limits location).1 = .error e := by
      unfold parse ofDocuments
      rw [hload]
      dsimp only
      rw [hrun]
    rw [hparse]
    exact ⟨by rintro _ ⟨⟩; exact hread.2 e rfl, nofun⟩
  | ok a =>
    rw [parse_eq_complete hload hrun]
    refine ⟨fun e he hcircular => ?_, fun _ _ => hread.1 a rfl⟩
    cases (harmless_complete limits draft e he).symm.trans hcircular

end SchemaSet

namespace SchemaDocument

/-! ## References anywhere -/

section Mono

variable {uses uses' : Occurrence} {documents : List SchemaDocument}
  (huses : ∀ holder e kind use, holder ≠ .particle → uses holder e kind use →
    uses' holder e kind use)
include huses

theorem UsesGroup.mono {context : Context} {holder : Holder} {e : Element} {n : GroupNode}
    (hholder : holder ≠ .particle) (h : context.UsesGroup uses holder e n) :
    context.UsesGroup uses' holder e n := by
  obtain ⟨use, reference, hu, h⟩ := h
  exact ⟨use, reference, huses _ _ _ _ hholder hu, h⟩

theorem GroupLink.mono {n m : GroupNode} (h : GroupLink uses documents n m) :
    GroupLink uses' documents n m := by
  obtain ⟨definition, hdefines, h⟩ := h
  exact ⟨definition, hdefines, UsesGroup.mono huses nofun h⟩

theorem Reaches.mono {n : GroupNode} (h : Reaches uses documents n) :
    Reaches uses' documents n := by
  obtain ⟨start, ⟨context, e, holder, hmem, htag, hstart⟩, hn⟩ := h
  have hholder : holder ≠ .particle := by
    rintro rfl
    unfold Holder.ofTag? at htag
    split at htag <;> cases htag
  exact ⟨start, ⟨context, e, holder, hmem, htag, UsesGroup.mono huses hholder hstart⟩,
    ReflTransGen.mono (fun _ _ => GroupLink.mono huses) _ _ hn⟩

theorem Circular.mono (h : Circular uses documents) : Circular uses' documents := by
  obtain ⟨n, hn, hcycle⟩ := h
  exact ⟨n, Reaches.mono huses hn, TransGen.mono (fun _ _ => GroupLink.mono huses) _ _ hcycle⟩

theorem Confused.mono (h : Confused uses documents) : Confused uses' documents := by
  obtain ⟨n, m, hn, hm, h⟩ := h
  exact ⟨n, m, Reaches.mono huses hn, TransGen.mono (fun _ _ => GroupLink.mono huses) _ _ hm, h⟩

end Mono

end SchemaDocument

namespace SchemaSet

open SchemaDocument

/-- A set is refused because of a group only if a group that is reached is used within itself, or
within a group of the other kind that has its name: along the references to groups that are read,
and so along those anywhere in the documents. Where one of the two happens along references that are
read, the set is refused. -/
theorem circularGroup_of_parse {files : FileSystem} {limits : Limits} {location : Location}
    {documents : List SchemaDocument}
    (hload : (SchemaDocument.loadAll files limits location).1 = .ok documents) :
    (∀ e, (parse files limits location).1 = .error e → e.isCircularGroup = true →
      Circular GroupUse documents ∧ Circular GroupMention documents ∨
        Confused GroupUse documents ∧ Confused GroupMention documents) ∧
    (Circular GroupUse documents ∨ Confused GroupUse documents →
      ∀ set, (parse files limits location).1 ≠ .ok set) := by
  obtain ⟨hrefused, haccepted⟩ := not_circular_of_parse hload
  constructor
  · intro e he hcircular
    have h : Circular GroupUse documents ∨ Confused GroupUse documents := by
      by_contra hnot
      exact hrefused e he hcircular (not_or.mp hnot)
    exact h.imp (fun h => ⟨h, h.mono fun _ _ _ _ => GroupUse.mention⟩)
      fun h => ⟨h, h.mono fun _ _ _ _ => GroupUse.mention⟩
  · rintro h set hset
    obtain ⟨hcircular, hconfused⟩ := haccepted set hset
    exact h.elim hcircular hconfused

/-! ## A group and an attribute group of one name -/

/-- The documents of a text; none if it is refused. -/
def documentsOf (text : String) : List SchemaDocument :=
  ((SchemaDocument.loadAll .empty .standard (.inMemory text)).1.toOption).getD []

/-- A text in which a group uses, in an anonymous type, an attribute group of its name. -/
def confusing : String :=
  "<schema xmlns=\"http://www.w3.org/2001/XMLSchema\" xmlns:t=\"t\" targetNamespace=\"t\">" ++
  "<group name=\"g\"><sequence><element name=\"e\"><complexType><attributeGroup ref=\"t:g\"/>" ++
  "</complexType></element></sequence></group>" ++
  "<attributeGroup name=\"g\"><attribute name=\"a\" type=\"string\"/></attributeGroup>" ++
  "<complexType name=\"T\"><group ref=\"t:g\"/></complexType></schema>"

/-- Whether reading ends with an error because of a group. -/
def refusedAsCircular : Result SchemaSet → Bool
  | .ok _ => false
  | .error e => e.isCircularGroup

/-- The text is loaded, and refused because of a group. Only a group refers to another one there,
and only to an attribute group. -/
theorem confusing_facts :
    (SchemaDocument.loadAll .empty .standard (.inMemory confusing)).1.isOk = true ∧
    refusedAsCircular (parse .empty .standard (.inMemory confusing)).1 = true ∧
    ∀ item ∈ items (documentsOf confusing), ∀ use ∈ item.2.descendants,
      (item.2.localName = "group" → use.localName ≠ "group") ∧
      (item.2.localName = "attributeGroup" → use.localName ≠ "group" ∧
        use.localName ≠ "attributeGroup") := by
  decide +kernel

theorem loadAll_confusing : (SchemaDocument.loadAll .empty .standard (.inMemory confusing)).1 =
    .ok (documentsOf confusing) :=
  eq_ok_getD_of_isOk confusing_facts.1 []

theorem parse_confusing : ∃ e, (parse .empty .standard (.inMemory confusing)).1 = .error e ∧
    e.isCircularGroup = true := by
  have hrefused := confusing_facts.2.1
  generalize (parse .empty .standard (.inMemory confusing)).1 = result at hrefused ⊢
  cases result with
  | ok set => cases hrefused
  | error e => exact ⟨e, rfl, hrefused⟩

theorem circularGroup_of_parse_confusing : ∃ e,
    (SchemaDocument.loadAll .empty .standard (.inMemory confusing)).1 =
        .ok (documentsOf confusing) ∧
      (parse .empty .standard (.inMemory confusing)).1 = .error e ∧ e.isCircularGroup = true ∧
      (Circular GroupUse (documentsOf confusing) ∧ Circular GroupMention (documentsOf confusing) ∨
        Confused GroupUse (documentsOf confusing) ∧
          Confused GroupMention (documentsOf confusing)) := by
  obtain ⟨e, hparse, hcircular⟩ := parse_confusing
  exact ⟨e, loadAll_confusing, hparse, hcircular,
    (circularGroup_of_parse loadAll_confusing).1 e hparse hcircular⟩

theorem kinds_of_groupLink_confusing {n m : GroupNode}
    (h : SchemaDocument.GroupLink GroupMention (documentsOf confusing) n m) :
    n.kind = .content ∧ m.kind = .attributes := by
  obtain ⟨definition, ⟨context, e, name, hmem, htag, -, -, rfl⟩, use, -, ⟨huse, hname⟩, -⟩ := h
  obtain ⟨hgroup, hattributeGroup⟩ := confusing_facts.2.2 _ hmem use huse
  obtain ⟨kind, _⟩ := n
  obtain ⟨kind', _⟩ := m
  cases kind <;> cases kind'
  · exact absurd hname (hgroup htag)
  · exact ⟨rfl, rfl⟩
  · exact absurd hname (hattributeGroup htag).1
  · exact absurd hname (hattributeGroup htag).2

/-- Not every set that is refused because of a group has one that is used within itself. -/
theorem not_forall_circular : ¬ ∀ files limits location documents e,
    (SchemaDocument.loadAll files limits location).1 = .ok documents →
    (parse files limits location).1 = .error e → e.isCircularGroup = true →
    Circular GroupMention documents := by
  intro h
  obtain ⟨e, hparse, hcircular⟩ := parse_confusing
  obtain ⟨n, -, hcycle⟩ := h _ _ _ _ e loadAll_confusing hparse hcircular
  obtain ⟨_, hfirst, -⟩ := TransGen.head'_iff.mp hcycle
  obtain ⟨_, -, hlast⟩ := TransGen.tail'_iff.mp hcycle
  cases (kinds_of_groupLink_confusing hfirst).1.symm.trans (kinds_of_groupLink_confusing hlast).2

end SchemaSet

end SchemaBinding.Xsd
