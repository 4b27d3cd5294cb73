import SchemaBinding.Proofs.Xsd.Stable

/-!
# What a child of a schema adds

Each child of the root of a schema document adds a component or a group to a draft, or nothing. What
is added depends on what is there under the same name, and on nothing else.

## Main definitions

* `SchemaSet.withElement`, `SchemaSet.withAttribute`, `SchemaSet.withType`: sets with a further
  declared component
* `Draft.Adds`: all that a child may add
* `Draft.AddsAll`: what children add one after the other
* `SchemaDocument.items`, `SchemaDocument.declarations`: the children of some documents, and those
  of them that declare something

## Main results

* `DraftM.run_declare_eq_ok_iff`: declaring succeeds just when something is added, or need not be
* `DraftM.run_declareAll_eq_ok_iff`: declaring all children of some documents
* `Draft.AddsAll.mem_groups`, `Draft.AddsAll.mem_attributeGroups`: groups are there once declared
-/

namespace SchemaBinding.Xsd

open Xml (Element QName)

/-! ## Sets with a further component -/

namespace SchemaSet

/-- The set with a declared element that is still to be read. -/
def withElement (set : SchemaSet) (context : Context) (name : String) : SchemaSet :=
  (set.addElement ⟨name, context.targetNamespace, anyType, none, none, false, true⟩).2.modifySchema
    context.targetNamespace fun s =>
      { s with elements := s.elements.insert name ⟨set.elements.size⟩ }

/-- The set with a declared attribute that is still to be read. -/
def withAttribute (set : SchemaSet) (context : Context) (name : String) : SchemaSet :=
  (set.addAttribute ⟨name, context.targetNamespace, anyType, none, none, true⟩).2.modifySchema
    context.targetNamespace fun s =>
      { s with attributes := s.attributes.insert name ⟨set.attributes.size⟩ }

/-- The set with a declared type that is still to be read. -/
def withType (set : SchemaSet) (context : Context) (name : String) (kind : TypeKind) : SchemaSet :=
  (set.addType ⟨some name, context.targetNamespace, anyType, kind⟩).2.modifySchema
    context.targetNamespace fun s => { s with types := s.types.insert name ⟨set.types.size⟩ }

end SchemaSet

/-! ## Additions -/

/-- What a definition of a type is before it is read, and what is still to be read then. -/
inductive DefinesType : String → TypeKind → (TypeId → Global.Target) → Prop
  | complex : DefinesType "complexType" (.complex (.empty none)) .complexType
  | simple : DefinesType "simpleType" (.simple (.restriction .empty)) .simpleType

theorem DefinesType.tag {tag : String} {kind : TypeKind} {target : TypeId → Global.Target}
    (h : DefinesType tag kind target) : tag = "complexType" ∨ tag = "simpleType" := by
  cases h with
  | complex => exact .inl rfl
  | simple => exact .inr rfl

/-- What a child of the root of a document adds to a draft: a component that is still to be read, a
group, or nothing. No component or group of its kind has its name before. -/
inductive Draft.Adds (context : Context) (e : Element) (d : Draft) : Option Global → Draft → Prop
  | element {name : String} : e.localName = "element" → context.requiredName e = .ok name →
      d.set.findElement? (context.nameOf name) = none →
      Adds context e d (some ⟨.element ⟨d.set.elements.size⟩, e, context⟩)
        { d with set := d.set.withElement context name }
  | attr {name : String} : e.localName = "attribute" → context.requiredName e = .ok name →
      d.set.findAttribute? (context.nameOf name) = none →
      Adds context e d (some ⟨.attr ⟨d.set.attributes.size⟩, e, context⟩)
        { d with set := d.set.withAttribute context name }
  | type {name : String} {kind : TypeKind} {target : TypeId → Global.Target} :
      DefinesType e.localName kind target → context.requiredName e = .ok name →
      d.set.findType? (context.nameOf name) = none →
      Adds context e d (some ⟨target ⟨d.set.types.size⟩, e, context⟩)
        { d with set := d.set.withType context name kind }
  | group {name : String} : e.localName = "group" → context.requiredName e = .ok name →
      d.groups.get? (context.nameOf name) = none →
      Adds context e d none { d with groups := d.groups.insert (context.nameOf name) ⟨e, context⟩ }
  | attributeGroup {name : String} : e.localName = "attributeGroup" →
      context.requiredName e = .ok name → d.attributeGroups.get? (context.nameOf name) = none →
      Adds context e d none
        { d with attributeGroups := d.attributeGroups.insert (context.nameOf name) ⟨e, context⟩ }
  | ignored : e.localName = "notation" →
      Adds context e d none { d with log := d.log.add .trace "ignoring notation declaration" }
  | nothing : e.localName ∈ ["include", "import", "annotation"] → Adds context e d none d

namespace DraftM

variable {context : Context} {e : Element} {d d' : Draft}

/-- A name is new if nothing has been found under it. -/
theorem run_checkNew_eq_ok_iff {α : Type} {symbol : Symbol} {name : QName} {found : Option α} :
    (checkNew symbol context name found).run.run d = (.ok ⟨⟩, d') ↔ found = none ∧ d' = d := by
  cases found with
  | none => exact ⟨fun h => ⟨rfl, (congrArg Prod.snd h).symm⟩, fun h => h.2 ▸ rfl⟩
  | some a => exact ⟨nofun, nofun⟩

/-- What needs the name of a child succeeds just when the child has one, and goes on from there. -/
theorem run_requiredName_bind_eq_ok_iff {β : Type} {b : β} {next : String → DraftM β} : (do
      let name ← context.requiredName e
      next name : DraftM β).run.run d = (.ok b, d') ↔
      ∃ name, context.requiredName e = .ok name ∧ (next name).run.run d = (.ok b, d') := by
  rw [run_bind_eq_ok_iff]
  constructor
  · rintro ⟨name, d₁, hname, h⟩
    cases hok : context.requiredName e with
    | error failure =>
      rw [hok] at hname
      cases hname
    | ok found =>
      rw [hok] at hname
      cases hname
      exact ⟨name, rfl, h⟩
  · rintro ⟨name, hname, h⟩
    exact ⟨name, d, by rw [hname]; rfl, h⟩

/-- The steps by which a component is declared: its name, the check that it is new, its place, and
its entry in the schema. -/
theorem run_component_eq_ok_iff {α β : Type} (context : Context) (e : Element) (d d' : Draft)
    (b : β) (check : String → SchemaSet → DraftM Unit)
    (new : String → DraftM α) (f : String → α → Schema → Schema) (result : α → β)
    (isNew : String → SchemaSet → Prop) (place : SchemaSet → α)
    (add : String → SchemaSet → SchemaSet)
    (hcheck : ∀ name d d', (check name d.set).run.run d = (.ok ⟨⟩, d') ↔ isNew name d.set ∧ d' = d)
    (hnew : ∀ name d, (new name).run.run d =
      (.ok (place d.set), { d with set := add name d.set })) : (do
      let name ← context.requiredName e
      check name (← getSet)
      let id ← new name
      modifySchema context (f name id)
      return result id : DraftM β).run.run d = (.ok b, d') ↔
      ∃ name, context.requiredName e = .ok name ∧ isNew name d.set ∧
        b = result (place d.set) ∧
        d' = { d with
          set := (add name d.set).modifySchema context.targetNamespace
            (f name (place d.set)) } := by
  rw [run_requiredName_bind_eq_ok_iff]
  constructor
  · rintro ⟨name, hname, h⟩
    obtain ⟨set, d₂, hget, h₂⟩ := run_bind_eq_ok_iff.mp h
    cases hget
    obtain ⟨_, d₃, hchecked, h₃⟩ := run_bind_eq_ok_iff.mp h₂
    obtain ⟨hisNew, hd₃⟩ := (hcheck _ _ _).mp hchecked
    cases hd₃
    obtain ⟨id, d₄, hid, h₄⟩ := run_bind_eq_ok_iff.mp h₃
    rw [hnew] at hid
    cases hid
    obtain ⟨_, d₅, hmodify, h₅⟩ := run_bind_eq_ok_iff.mp h₄
    cases hmodify
    cases h₅
    exact ⟨name, hname, hisNew, rfl, rfl⟩
  · rintro ⟨name, hname, hisNew, rfl, rfl⟩
    refine ⟨name, hname, ?_⟩
    refine run_bind_eq_ok_iff.mpr ⟨d.set, d, rfl, ?_⟩
    refine run_bind_eq_ok_iff.mpr ⟨⟨⟩, d, (hcheck _ _ _).mpr ⟨hisNew, rfl⟩, ?_⟩
    refine run_bind_eq_ok_iff.mpr ⟨_, _, hnew name d, ?_⟩
    exact run_bind_eq_ok_iff.mpr ⟨⟨⟩, _, rfl, rfl⟩

/-- An element is declared if it has a name that is new, and this is all that is done. -/
theorem run_declareElement_eq_ok_iff {g : Global} :
    (declareElement context e).run.run d = (.ok g, d') ↔
      ∃ name, context.requiredName e = .ok name ∧
        d.set.findElement? (context.nameOf name) = none ∧
        g = ⟨.element ⟨d.set.elements.size⟩, e, context⟩ ∧
        d' = { d with set := d.set.withElement context name } := by
  have h := run_component_eq_ok_iff context e d d' g
    (fun name set => checkNew .element context (context.nameOf name)
      (set.findElement? (context.nameOf name)))
    (fun name => newElement name context.targetNamespace true)
    (fun name id s => { s with elements := s.elements.insert name id })
    (fun id => ⟨.element id, e, context⟩)
    (fun name set => set.findElement? (context.nameOf name) = none) (fun set => ⟨set.elements.size⟩)
    (fun name set => (set.addElement
      ⟨name, context.targetNamespace, SchemaSet.anyType, none, none, false, true⟩).2)
    (fun _ _ _ => run_checkNew_eq_ok_iff) fun _ _ => rfl
  exact h

theorem run_declareAttribute_eq_ok_iff {g : Global} :
    (declareAttribute context e).run.run d = (.ok g, d') ↔
      ∃ name, context.requiredName e = .ok name ∧
        d.set.findAttribute? (context.nameOf name) = none ∧
        g = ⟨.attr ⟨d.set.attributes.size⟩, e, context⟩ ∧
        d' = { d with set := d.set.withAttribute context name } := by
  have h := run_component_eq_ok_iff context e d d' g
    (fun name set => checkNew .attr context (context.nameOf name)
      (set.findAttribute? (context.nameOf name)))
    (fun name => newAttribute name context.targetNamespace true)
    (fun name id s => { s with attributes := s.attributes.insert name id })
    (fun id => ⟨.attr id, e, context⟩)
    (fun name set => set.findAttribute? (context.nameOf name) = none)
    (fun set => ⟨set.attributes.size⟩)
    (fun name set => (set.addAttribute
      ⟨name, context.targetNamespace, SchemaSet.anyType, none, none, true⟩).2)
    (fun _ _ _ => run_checkNew_eq_ok_iff) fun _ _ => rfl
  exact h

/-- A type is declared if it has a name that is new, and this is all that is done. -/
theorem run_declareType_eq_ok_iff {kind : TypeKind} {target : TypeId → Global.Target} {g : Global} :
    (declareType context e kind target).run.run d = (.ok g, d') ↔
      ∃ name, context.requiredName e = .ok name ∧ d.set.findType? (context.nameOf name) = none ∧
        g = ⟨target ⟨d.set.types.size⟩, e, context⟩ ∧
        d' = { d with set := d.set.withType context name kind } := by
  have h := run_component_eq_ok_iff context e d d' g
    (fun name set => checkNew .type context (context.nameOf name)
      (set.findType? (context.nameOf name)))
    (fun name => newType (some name) context kind)
    (fun name id s => { s with types := s.types.insert name id })
    (fun id => ⟨target id, e, context⟩)
    (fun name set => set.findType? (context.nameOf name) = none) (fun set => ⟨set.types.size⟩)
    (fun name set => (set.addType
      ⟨some name, context.targetNamespace, SchemaSet.anyType, kind⟩).2)
    (fun _ _ _ => run_checkNew_eq_ok_iff) fun _ _ => rfl
  exact h

/-- The steps by which a group is declared: its name, the check that it is new, and its entry. -/
theorem run_addGroup_eq_ok_iff {symbol : Symbol} (groups : Draft → OrderedMap QName GroupDefinition)
    (add : QName → Draft → Draft) : (do
      let name := context.nameOf (← context.requiredName e)
      checkNew symbol context name ((groups (← get)).get? name)
      modify (add name) : DraftM Unit).run.run d = (.ok ⟨⟩, d') ↔
      ∃ name, context.requiredName e = .ok name ∧
        (groups d).get? (context.nameOf name) = none ∧ d' = add (context.nameOf name) d := by
  rw [run_requiredName_bind_eq_ok_iff]
  constructor
  · rintro ⟨name, hname, h⟩
    obtain ⟨_, d₂, hget, h₂⟩ := run_bind_eq_ok_iff.mp h
    cases hget
    obtain ⟨_, d₃, hchecked, h₃⟩ := run_bind_eq_ok_iff.mp h₂
    obtain ⟨hisNew, hd₃⟩ := run_checkNew_eq_ok_iff.mp hchecked
    cases hd₃
    cases h₃
    exact ⟨name, hname, hisNew, rfl⟩
  · rintro ⟨name, hname, hisNew, rfl⟩
    refine ⟨name, hname, ?_⟩
    refine run_bind_eq_ok_iff.mpr ⟨d, d, rfl, ?_⟩
    exact run_bind_eq_ok_iff.mpr ⟨⟨⟩, d, run_checkNew_eq_ok_iff.mpr ⟨hisNew, rfl⟩, rfl⟩

theorem run_declareGroup_eq_ok_iff : (declareGroup context e).run.run d = (.ok ⟨⟩, d') ↔
    ∃ name, context.requiredName e = .ok name ∧ d.groups.get? (context.nameOf name) = none ∧
      d' = { d with groups := d.groups.insert (context.nameOf name) ⟨e, context⟩ } :=
  run_addGroup_eq_ok_iff (·.groups) fun name d =>
    { d with groups := d.groups.insert name ⟨e, context⟩ }

theorem run_declareAttributeGroup_eq_ok_iff :
    (declareAttributeGroup context e).run.run d = (.ok ⟨⟩, d') ↔
      ∃ name, context.requiredName e = .ok name ∧
        d.attributeGroups.get? (context.nameOf name) = none ∧
        d' = { d with
          attributeGroups := d.attributeGroups.insert (context.nameOf name) ⟨e, context⟩ } :=
  run_addGroup_eq_ok_iff (·.attributeGroups) fun name d =>
    { d with attributeGroups := d.attributeGroups.insert name ⟨e, context⟩ }

theorem run_map_eq_ok_iff {α β : Type} {f : α → β} {x : DraftM α} {b : β} :
    (do return f (← x) : DraftM β).run.run d = (.ok b, d') ↔
      ∃ a, x.run.run d = (.ok a, d') ∧ b = f a := by
  rw [run_bind_eq_ok_iff]
  constructor
  · rintro ⟨a, d₁, hx, h⟩
    cases h
    exact ⟨a, hx, rfl⟩
  · rintro ⟨a, hx, rfl⟩
    exact ⟨a, d', hx, rfl⟩

/-- Declaring a child succeeds just when it adds something, or need not. -/
theorem run_declare_eq_ok_iff {g : Option Global} :
    (declare context e).run.run d = (.ok g, d') ↔ d.Adds context e g d' := by
  constructor
  · intro h
    unfold declare at h
    -- One case for each tag, in the order in which the tags are told apart.
    split at h
    · next he =>
      obtain ⟨_, h₁, rfl⟩ := run_map_eq_ok_iff.mp h
      obtain ⟨name, hname, hnew, rfl, rfl⟩ := run_declareElement_eq_ok_iff.mp h₁
      exact .element he hname hnew
    · next he =>
      obtain ⟨_, h₁, rfl⟩ := run_map_eq_ok_iff.mp h
      obtain ⟨name, hname, hnew, rfl, rfl⟩ := run_declareAttribute_eq_ok_iff.mp h₁
      exact .attr he hname hnew
    · next he =>
      obtain ⟨_, h₁, rfl⟩ := run_map_eq_ok_iff.mp h
      obtain ⟨name, hname, hnew, rfl, rfl⟩ := run_declareType_eq_ok_iff.mp h₁
      exact .type (he ▸ .complex) hname hnew
    · next he =>
      obtain ⟨_, h₁, rfl⟩ := run_map_eq_ok_iff.mp h
      obtain ⟨name, hname, hnew, rfl, rfl⟩ := run_declareType_eq_ok_iff.mp h₁
      exact .type (he ▸ .simple) hname hnew
    · next he =>
      obtain ⟨_, d₁, h₁, h₂⟩ := run_bind_eq_ok_iff.mp h
      obtain ⟨name, hname, hnew, rfl⟩ := run_declareGroup_eq_ok_iff.mp h₁
      cases h₂
      exact .group he hname hnew
    · next he =>
      obtain ⟨_, d₁, h₁, h₂⟩ := run_bind_eq_ok_iff.mp h
      obtain ⟨name, hname, hnew, rfl⟩ := run_declareAttributeGroup_eq_ok_iff.mp h₁
      cases h₂
      exact .attributeGroup he hname hnew
    · next he =>
      cases h
      exact .ignored he
    · next he =>
      cases h
      exact .nothing (by simp [he])
    · next he =>
      cases h
      exact .nothing (by simp [he])
    · next he =>
      cases h
      exact .nothing (by simp [he])
    · cases h
  · rintro (⟨he, hname, hnew⟩ | ⟨he, hname, hnew⟩ | ⟨hdefines, hname, hnew⟩ | ⟨he, hname, hnew⟩ |
      ⟨he, hname, hnew⟩ | he | he)
    · rw [declare, he]
      exact run_map_eq_ok_iff.mpr ⟨_, run_declareElement_eq_ok_iff.mpr
        ⟨_, hname, hnew, rfl, rfl⟩, rfl⟩
    · rw [declare, he]
      exact run_map_eq_ok_iff.mpr ⟨_, run_declareAttribute_eq_ok_iff.mpr
        ⟨_, hname, hnew, rfl, rfl⟩, rfl⟩
    · generalize htag : e.localName = tag at hdefines
      rw [declare, htag]
      cases hdefines
      all_goals exact run_map_eq_ok_iff.mpr ⟨_, run_declareType_eq_ok_iff.mpr
        ⟨_, hname, hnew, rfl, rfl⟩, rfl⟩
    · rw [declare, he]
      exact run_bind_eq_ok_iff.mpr
        ⟨⟨⟩, _, run_declareGroup_eq_ok_iff.mpr ⟨_, hname, hnew, rfl⟩, rfl⟩
    · rw [declare, he]
      exact run_bind_eq_ok_iff.mpr
        ⟨⟨⟩, _, run_declareAttributeGroup_eq_ok_iff.mpr ⟨_, hname, hnew, rfl⟩, rfl⟩
    · rw [declare, he]
      rfl
    · simp only [List.mem_cons, List.not_mem_nil, or_false] at he
      rcases he with he | he | he
      all_goals
        rw [declare, he]
        rfl

end DraftM

/-! ## All children -/

/-- The children of the roots of some documents, with the contexts of the documents. -/
def SchemaDocument.items (documents : List SchemaDocument) : List (Context × Element) :=
  documents.flatMap fun document => document.root.children.map (Prod.mk document.context)

namespace Draft

/-- What children add to a draft one after the other. -/
inductive AddsAll : List (Context × Element) → Draft → List (Option Global) → Draft → Prop
  | nil {d : Draft} : AddsAll [] d [] d
  | cons {context : Context} {e : Element} {items : List (Context × Element)} {d d₁ d₂ : Draft}
      {g : Option Global} {gs : List (Option Global)} : d.Adds context e g d₁ →
      AddsAll items d₁ gs d₂ → AddsAll ((context, e) :: items) d (g :: gs) d₂

namespace AddsAll

variable {items items' : List (Context × Element)} {d d' d'' : Draft}
  {gs gs' : List (Option Global)}

theorem append (h : AddsAll items d gs d') (h' : AddsAll items' d' gs' d'') :
    AddsAll (items ++ items') d (gs ++ gs') d'' := by
  induction h with
  | nil => exact h'
  | cons hadds _ ih => exact .cons hadds (ih h')

/-- What comes first is added first. -/
theorem exists_of_append (h : AddsAll (items ++ items') d gs d'') : ∃ d' gs₁ gs₂,
    gs = gs₁ ++ gs₂ ∧ AddsAll items d gs₁ d' ∧ AddsAll items' d' gs₂ d'' := by
  induction items generalizing d gs with
  | nil => exact ⟨d, [], gs, rfl, .nil, h⟩
  | cons item items ih =>
    cases h with
    | cons hadds hrest =>
      obtain ⟨d', gs₁, gs₂, rfl, h₁, h₂⟩ := ih hrest
      exact ⟨d', _ :: gs₁, gs₂, rfl, .cons hadds h₁, h₂⟩

end AddsAll

end Draft

/-! ## Declarations -/

/-- The tags of children that declare nothing: references to other documents, and annotations. -/
def silentTags : List String := ["include", "import", "annotation"]

/-- The children of some documents that declare something. -/
def SchemaDocument.declarations (documents : List SchemaDocument) : List (Context × Element) :=
  (items documents).filter fun item => item.2.localName ∉ silentTags

namespace Draft

/-- Elements that declare nothing add nothing. -/
theorem adds_iff_of_silent {context : Context} {e : Element} {g : Option Global} {d d' : Draft}
    (h : e.localName ∈ silentTags) : d.Adds context e g d' ↔ g = none ∧ d' = d := by
  constructor
  · intro hadds
    cases hadds with
    | nothing _ => exact ⟨rfl, rfl⟩
    | type hdefines => rcases hdefines.tag with htag | htag <;> simp [silentTags, htag] at h
    | element htag | attr htag | group htag | attributeGroup htag | ignored htag =>
      simp [silentTags, htag] at h
  · rintro ⟨rfl, rfl⟩
    exact .nothing h

/-- Children that declare nothing may be left out. -/
theorem AddsAll.filter_iff {items : List (Context × Element)} {globals : List Global}
    {d d' : Draft} :
    (∃ gs, AddsAll (items.filter fun item => item.2.localName ∉ silentTags) d gs d' ∧
      globals = gs.filterMap id) ↔ ∃ gs, AddsAll items d gs d' ∧ globals = gs.filterMap id := by
  induction items generalizing d globals with
  | nil => exact Iff.rfl
  | cons item items ih =>
    obtain ⟨context, e⟩ := item
    by_cases h : e.localName ∈ silentTags
    · rw [List.filter_cons_of_neg (by simpa using h), ih]
      constructor
      · rintro ⟨gs, hgs, rfl⟩
        exact ⟨none :: gs, .cons ((adds_iff_of_silent h).mpr ⟨rfl, rfl⟩) hgs, rfl⟩
      · rintro ⟨_, hgs, rfl⟩
        cases hgs with
        | cons hadds hgs =>
          obtain ⟨rfl, rfl⟩ := (adds_iff_of_silent h).mp hadds
          exact ⟨_, hgs, rfl⟩
    · rw [List.filter_cons_of_pos (by simpa using h)]
      constructor
      · rintro ⟨_, hgs, rfl⟩
        cases hgs with
        | @cons _ _ _ _ _ _ g gs hadds hgs =>
          obtain ⟨gs', hgs', heq⟩ := ih.mp ⟨gs, hgs, rfl⟩
          exact ⟨g :: gs', .cons hadds hgs', by
            rw [List.filterMap_cons, List.filterMap_cons, heq]⟩
      · rintro ⟨_, hgs, rfl⟩
        cases hgs with
        | @cons _ _ _ _ _ _ g gs hadds hgs =>
          obtain ⟨gs', hgs', heq⟩ := ih.mpr ⟨gs, hgs, rfl⟩
          exact ⟨g :: gs', .cons hadds hgs', by
            rw [List.filterMap_cons, List.filterMap_cons, heq]⟩

end Draft

namespace DraftM

open Draft (AddsAll)

variable {context : Context} {d d' : Draft}

/-- Declaring the children of a schema is adding each of them in turn. -/
theorem run_declareChildren_eq_ok_iff {children : List Element} {gs : List (Option Global)} :
    (children.mapM (declare context)).run.run d = (.ok gs, d') ↔
      AddsAll (children.map (Prod.mk context)) d gs d' := by
  induction children generalizing d gs with
  | nil =>
    rw [List.mapM_nil, List.map_nil]
    constructor
    · intro h
      cases h
      exact .nil
    · intro h
      cases h
      rfl
  | cons e children ih =>
    rw [List.mapM_cons, List.map_cons, run_bind_eq_ok_iff]
    constructor
    · rintro ⟨g, d₁, hg, h⟩
      obtain ⟨gs, hgs, rfl⟩ := run_map_eq_ok_iff.mp h
      exact .cons (run_declare_eq_ok_iff.mp hg) (ih.mp hgs)
    · intro h
      cases h with
      | cons hadds hrest =>
        exact ⟨_, _, run_declare_eq_ok_iff.mpr hadds, run_map_eq_ok_iff.mpr
          ⟨_, ih.mpr hrest, rfl⟩⟩

/-- Declaring documents is adding all of their children in turn. -/
theorem run_declareDocuments_eq_ok_iff {documents : List SchemaDocument}
    {gs : List (Option Global)} :
    (∃ gss : List (List (Option Global)), (documents.mapM fun (document : SchemaDocument) =>
      document.root.children.mapM (declare document.context)).run.run d = (.ok gss, d') ∧
        gs = gss.flatten) ↔ AddsAll (SchemaDocument.items documents) d gs d' := by
  induction documents generalizing d gs with
  | nil =>
    constructor
    · rintro ⟨gss, h, rfl⟩
      cases h
      exact .nil
    · intro h
      cases h
      exact ⟨[], rfl, rfl⟩
  | cons document documents ih =>
    simp only [List.mapM_cons, SchemaDocument.items, List.flatMap_cons, run_bind_eq_ok_iff]
    constructor
    · rintro ⟨_, ⟨gs₁, d₁, h₁, gss, d₂, hgss, hpure⟩, rfl⟩
      cases hpure
      exact (run_declareChildren_eq_ok_iff.mp h₁).append (ih.mp ⟨gss, hgss, rfl⟩)
    · intro h
      obtain ⟨d₁, gs₁, gs₂, rfl, h₁, h₂⟩ := h.exists_of_append
      obtain ⟨gss, hgss, rfl⟩ := ih.mpr h₂
      exact ⟨gs₁ :: gss, ⟨gs₁, d₁, run_declareChildren_eq_ok_iff.mpr h₁, gss, d', hgss, rfl⟩, rfl⟩

/-- Declaring all components of some documents succeeds just when each child adds something, or need
not; what has been added is still to be read. -/
theorem run_declareAll_eq_ok_iff {documents : List SchemaDocument} {globals : List Global} :
    (declareAll documents).run.run d = (.ok globals, d') ↔
      ∃ gs, AddsAll (SchemaDocument.items documents) d gs d' ∧ globals = gs.filterMap id := by
  unfold declareAll
  rw [run_map_eq_ok_iff]
  constructor
  · rintro ⟨gss, hgss, rfl⟩
    exact ⟨gss.flatten, run_declareDocuments_eq_ok_iff.mp ⟨gss, hgss, rfl⟩, rfl⟩
  · rintro ⟨gs, hgs, rfl⟩
    obtain ⟨gss, hgss, rfl⟩ := run_declareDocuments_eq_ok_iff.mpr hgs
    exact ⟨gss, hgss, rfl⟩

/-- It is enough to look at the children that declare something. -/
theorem run_declareAll_eq_ok_iff_declarations {documents : List SchemaDocument}
    {globals : List Global} : (declareAll documents).run.run d = (.ok globals, d') ↔
      ∃ gs, AddsAll (SchemaDocument.declarations documents) d gs d' ∧
        globals = gs.filterMap id :=
  run_declareAll_eq_ok_iff.trans AddsAll.filter_iff.symm

end DraftM

/-! ## Groups -/

namespace Draft

variable {context : Context} {e : Element} {g : Option Global} {d d' : Draft} {name : QName}
  {definition : GroupDefinition}

/-- A group that is there stays as it is. -/
theorem Adds.groups_get? (h : d.Adds context e g d') (hd : d.groups.get? name = some definition) :
    d'.groups.get? name = some definition := by
  cases h with
  | group _ _ hnew =>
    rw [OrderedMap.get?_insert, if_neg, hd]
    rintro rfl
    cases hnew.symm.trans hd
  | element | attr | type | attributeGroup | ignored | nothing => exact hd

theorem Adds.attributeGroups_get? (h : d.Adds context e g d')
    (hd : d.attributeGroups.get? name = some definition) :
    d'.attributeGroups.get? name = some definition := by
  cases h with
  | attributeGroup _ _ hnew =>
    rw [OrderedMap.get?_insert, if_neg, hd]
    rintro rfl
    cases hnew.symm.trans hd
  | element | attr | type | group | ignored | nothing => exact hd

namespace AddsAll

variable {items : List (Context × Element)} {gs : List (Option Global)}

theorem groups_get? (h : AddsAll items d gs d') (hd : d.groups.get? name = some definition) :
    d'.groups.get? name = some definition := by
  induction h with
  | nil => exact hd
  | cons hadds _ ih => exact ih (hadds.groups_get? hd)

theorem attributeGroups_get? (h : AddsAll items d gs d')
    (hd : d.attributeGroups.get? name = some definition) :
    d'.attributeGroups.get? name = some definition := by
  induction h with
  | nil => exact hd
  | cons hadds _ ih => exact ih (hadds.attributeGroups_get? hd)

/-- Once it has been declared, a group is found under its name. -/
theorem mem_groups (h : AddsAll items d gs d') (hmem : (context, e) ∈ items)
    (he : e.localName = "group") {n : String} (hn : e.attribute? "name" = some n) :
    d'.groups.get? (context.nameOf n) = some ⟨e, context⟩ := by
  induction h with
  | nil => cases hmem
  | cons hadds hrest ih =>
    rcases List.mem_cons.mp hmem with heq | hmem
    · cases heq
      refine hrest.groups_get? ?_
      cases hadds with
      | group _ hname _ =>
        cases hn.symm.trans (DraftM.of_requiredName hname).1
        exact OrderedMap.get?_insert_self _ _ _
      | element htag | attr htag | attributeGroup htag | ignored htag =>
        exact absurd (he.symm.trans htag) (by decide)
      | type hdefines => exact absurd hdefines.tag (by simp [he])
      | nothing hidle => simp [he] at hidle
    · exact ih hmem

theorem mem_attributeGroups (h : AddsAll items d gs d') (hmem : (context, e) ∈ items)
    (he : e.localName = "attributeGroup") {n : String} (hn : e.attribute? "name" = some n) :
    d'.attributeGroups.get? (context.nameOf n) = some ⟨e, context⟩ := by
  induction h with
  | nil => cases hmem
  | cons hadds hrest ih =>
    rcases List.mem_cons.mp hmem with heq | hmem
    · cases heq
      refine hrest.attributeGroups_get? ?_
      cases hadds with
      | attributeGroup _ hname _ =>
        cases hn.symm.trans (DraftM.of_requiredName hname).1
        exact OrderedMap.get?_insert_self _ _ _
      | element htag | attr htag | group htag | ignored htag =>
        exact absurd (he.symm.trans htag) (by decide)
      | type hdefines => exact absurd hdefines.tag (by simp [he])
      | nothing hidle => simp [he] at hidle
    · exact ih hmem

/-- What is found as a group has been defined as one. -/
theorem groups_tag (h : AddsAll items d gs d')
    (hd : ∀ name definition, d.groups.get? name = some definition →
      definition.element.localName = "group")
    (hfound : d'.groups.get? name = some definition) : definition.element.localName = "group" := by
  induction h with
  | nil => exact hd name definition hfound
  | cons hadds _ ih =>
    refine ih (fun n found hn => ?_) hfound
    cases hadds with
    | group htag _ _ =>
      obtain ⟨-, rfl⟩ | ⟨-, hold⟩ := OrderedMap.eq_or_of_get?_insert hn
      · exact htag
      · exact hd n found hold
    | element | attr | type | attributeGroup | ignored | nothing => exact hd n found hn

end AddsAll

end Draft

end SchemaBinding.Xsd
