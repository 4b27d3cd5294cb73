import SchemaBinding.Proofs.MapValues
import SchemaBinding.Proofs.Xsd.Additions
import SchemaBinding.Proofs.Xsd.Documents
import SchemaBinding.Proofs.Xsd.Editions
import SchemaBinding.Proofs.Xsd.Finished
import SchemaBinding.Proofs.Xsd.RereadContent

/-!
# References to groups are transparent

A reference to a group says the same as what it refers to: when it is written out, the schema set is
the same, down to the places of its components. What is written out must be in force where it stands
as it is where it is defined, and the model group of another group must not come to be that of
another element.

## Main definitions

* `SchemaDocument.Replaces`: what the definitions in some documents put in the place of a reference
* `Xml.Element.Inlines`: a reference below an element is written out
* `SchemaDocument.InlinesChild`: a reference below a child of a root is written out

## Main results

* `Draft.AddsAll.parallel`: the same is declared
* `SchemaSet.parse_inlined`: the same schema set is read
* `SchemaSet.not_transparent`: references that are not transparent
-/

namespace SchemaBinding.Xsd

open Xml (Element QName)

/-! ## References written out -/

/-- What the definitions in some documents put in the place of a reference. The settings of the
document with the definition and those with which the reference is read must be `related`. -/
inductive SchemaDocument.Replaces (related : Context → Context → Prop)
    (documents : List SchemaDocument) (context : Context) (e : Element) : List Element → Prop
  | group {document : SchemaDocument} {child m m' : Element} {name reference : String} :
      document ∈ documents → child ∈ document.root.children → child.localName = "group" →
      child.attribute? "name" = some name → related document.context context →
      e.localName = "group" → e.attribute? "ref" = some reference →
      context.resolve e reference = .ok (document.context.nameOf name) →
      modelGroup? child.children = some m → e.Carries m m' →
      Replaces related documents context e [m']
  | attributeGroup {document : SchemaDocument} {child : Element} {name reference : String} :
      document ∈ documents → child ∈ document.root.children → child.localName = "attributeGroup" →
      child.attribute? "name" = some name → related document.context context →
      e.localName = "attributeGroup" → e.attribute? "ref" = some reference →
      context.resolve e reference = .ok (document.context.nameOf name) →
      (∀ c ∈ child.children, c.localName ∈ attributeTags) →
      Replaces related documents context e child.children

/-- A reference below an element is written out: `P` says what stands for a reference. -/
inductive Inlines (P : Element → List Element → Prop) : Element → Element → Prop
  | here {e reference : Element} {before new after : List Element} :
      e.children = before ++ reference :: after → P reference new →
      Inlines P e (e.withChildren (before ++ new ++ after))
  | inside {e c c' : Element} {before after : List Element} :
      e.children = before ++ c :: after → Inlines P c c' →
      Inlines P e (e.withChildren (before ++ c' :: after))

/-- A reference below a child of a root is written out. In the definition of a group no model group
may come to stand in front of the one that has been there. -/
inductive InlinesChild (P : Element → List Element → Prop) : Element → Element → Prop
  | here {child reference : Element} {before new after : List Element} :
      child.children = before ++ reference :: after → P reference new →
      (child.localName = "group" → reference.localName = "group" →
        (modelGroup? before).isSome ∨ modelGroup? after = none) →
      InlinesChild P child (child.withChildren (before ++ new ++ after))
  | inside {child c c' : Element} {before after : List Element} :
      child.children = before ++ c :: after → Inlines P c c' →
      InlinesChild P child (child.withChildren (before ++ c' :: after))

/-- A reference in a document is written out. -/
inductive InlinesIn (P : Element → List Element → Prop) (root : Element) : Element → Prop
  | child {child child' : Element} {before after : List Element} :
      root.children = before ++ child :: after → InlinesChild P child child' →
      InlinesIn P root (root.withChildren (before ++ child' :: after))

section Inlines

variable {P P' : Element → List Element → Prop} {e e' : Element}

/-- Of some elements one may be expanded. -/
theorem Expands.at {before after : List Element} {c : Element} {children : List Element}
    (h : Expands P c.children children) :
    Expands P (before ++ c :: after) (before ++ c.withChildren children :: after) :=
  .append (.refl before) (.node c h (.refl after))

/-- A reference is replaced in its place in a list. -/
theorem Expands.replacedAt {before after new : List Element} {reference : Element}
    (h : P reference new) : Expands P (before ++ reference :: after) (before ++ new ++ after) := by
  rw [List.append_assoc]
  exact .append (.refl before) (.replaced h (.refl after))

/-- One reference that is replaced is an expansion, wherever in the element it stands. -/
theorem Inlines.expandsTo (h : Inlines P e e') : ExpandsTo P e e' := by
  induction h with
  | here heq hP => exact ⟨_, heq ▸ .replacedAt hP, rfl⟩
  | inside heq _ ih =>
    obtain ⟨children, hexpands, rfl⟩ := ih
    exact ⟨_, heq ▸ .at hexpands, rfl⟩

theorem InlinesChild.expandsTo (h : InlinesChild P e e') : ExpandsTo P e e' := by
  cases h with
  | here heq hP => exact ⟨_, heq ▸ .replacedAt hP, rfl⟩
  | inside heq h =>
    obtain ⟨children, hexpands, rfl⟩ := h.expandsTo
    exact ⟨_, heq ▸ .at hexpands, rfl⟩

theorem ExpandsTo.mono (h : ExpandsTo P e e') (hP : ∀ e new, P e new → P' e new) :
    ExpandsTo P' e e' := by
  obtain ⟨children, hexpands, rfl⟩ := h
  exact ⟨children, hexpands.mono hP, rfl⟩

/-- The root is written as before where it has to do with other documents. -/
theorem InlinesIn.sameFront {root root' : Element} (h : InlinesIn P root root') :
    root.SameFront root' := by
  cases h with
  | @child child child' before after heq hchild =>
    obtain ⟨children, -, rfl⟩ := hchild.expandsTo
    refine ⟨rfl, ?_⟩
    unfold Element.referring
    rw [Element.withChildren_children, heq]
    simp only [List.filter_append, List.map_append, List.filter_cons,
      Element.localName_withChildren]
    by_cases hchild : child.localName ∈ referringTags
    · simp only [hchild, decide_true, if_true]
      rfl
    · simp only [hchild, decide_false, Bool.false_eq_true, if_false]

end Inlines

/-! ### The model group of a definition -/

/-- The model group of a definition is the first one among its children. -/
theorem modelGroup?_append (es es' : List Element) :
    modelGroup? (es ++ es') = (modelGroup? es).or (modelGroup? es') :=
  List.find?_append

/-- References and attributes are no model groups. -/
theorem modelGroup?_cons_of_tag {c : Element} (hc : c.localName ∈ "group" :: attributeTags)
    (es : List Element) : modelGroup? (c :: es) = modelGroup? es := by
  refine List.find?_cons_of_neg ?_
  simp only [attributeTags, List.mem_cons, List.not_mem_nil, or_false] at hc
  rcases hc with hc | hc | hc | hc | hc <;> rw [hc] <;> decide

/-- Neither references nor attributes are model groups. -/
theorem modelGroup?_eq_none {es : List Element}
    (h : ∀ c ∈ es, c.localName ∈ "group" :: attributeTags) : modelGroup? es = none := by
  induction es with
  | nil => rfl
  | cons c es ih =>
    rw [modelGroup?_cons_of_tag (h c List.mem_cons_self)]
    exact ih fun c' hc' => h c' (List.mem_cons_of_mem c hc')

/-- The model group of a definition is what it has been, up to references written out. -/
theorem InlinesChild.exists_modelGroup? {documents : List SchemaDocument} {context : Context}
    {child child' m : Element}
    (h : InlinesChild (SchemaDocument.Replaces Context.Alike documents context) child child')
    (hgroup : child.localName = "group") (hm : modelGroup? child.children = some m) :
    ∃ m', modelGroup? child'.children = some m' ∧
      ExpandsTo (SchemaDocument.Replaces Context.Alike documents context) m m' := by
  cases h with
  | @here reference before new after heq hP hfirst =>
    rw [heq, modelGroup?_append] at hm
    rw [Element.withChildren_children, List.append_assoc, modelGroup?_append, modelGroup?_append]
    cases hbefore : modelGroup? before with
    | some m₀ =>
      rw [hbefore] at hm
      obtain rfl : m₀ = m := Option.some.inj hm
      exact ⟨m₀, rfl, .refl _ _⟩
    | none =>
      rw [hbefore, Option.none_or] at hm
      rw [Option.none_or]
      cases hP with
      | group _ _ _ _ _ hname =>
        rw [modelGroup?_cons_of_tag (by simp [hname])] at hm
        have hnone := (hfirst hgroup hname).resolve_left (by simp [hbefore])
        cases hm.symm.trans hnone
      | attributeGroup _ _ _ _ _ hname _ _ htags =>
        rw [modelGroup?_cons_of_tag (by simp [hname, attributeTags])] at hm
        rw [modelGroup?_eq_none fun c hc => List.mem_cons_of_mem _ (htags c hc), Option.none_or]
        exact ⟨m, hm, .refl _ _⟩
  | @inside c c' before after heq h =>
    obtain ⟨children, hexpands, rfl⟩ := h.expandsTo
    rw [heq, modelGroup?_append] at hm
    rw [Element.withChildren_children, modelGroup?_append]
    cases hbefore : modelGroup? before with
    | some m₀ =>
      rw [hbefore] at hm
      obtain rfl : m₀ = m := Option.some.inj hm
      exact ⟨m₀, rfl, .refl _ _⟩
    | none =>
      rw [hbefore, Option.none_or] at hm
      rw [Option.none_or]
      unfold modelGroup? at hm ⊢
      rw [List.find?_cons] at hm ⊢
      rw [Element.localName_withChildren]
      split at hm
      · cases hm
        exact ⟨_, rfl, children, hexpands, rfl⟩
      · exact ⟨m, hm, .refl _ _⟩

/-! ## Declaring twice -/

/-- Two definitions with the same settings, of elements that `S` relates. -/
def GroupDefinition.Pairs (S : Context → Element → Element → Prop)
    (definition definition' : GroupDefinition) : Prop :=
  definition'.context = definition.context ∧
    S definition.context definition.element definition'.element

namespace Draft

/-- The same has been declared in two drafts, with elements that `S` relates. -/
structure Parallel (S : Context → Element → Element → Prop) (d d' : Draft) : Prop where
  set : d'.set = d.set
  waiting : d'.waiting = d.waiting
  groups : d.groups.Related (GroupDefinition.Pairs S) d'.groups
  attributeGroups : d.attributeGroups.Related (GroupDefinition.Pairs S) d'.attributeGroups

end Draft

/-- Two declared components with the same place, that are read from elements that `S` relates. -/
structure Global.Pairs (S : Context → Element → Element → Prop) (g g' : Global) : Prop where
  target : g'.target = g.target
  context : g'.context = g.context
  element : S g.context g.element g'.element

section Parallel

variable {S : Context → Element → Element → Prop}

variable (hS : ∀ context e e', S context e e' → ∃ children, e' = e.withChildren children)
include hS

/-- The same is added to both drafts. -/
theorem Draft.Adds.parallel {context : Context} {e e' : Element} {g : Option Global}
    {d d₁ d' : Draft} (h : d.Adds context e g d₁) (hpar : d.Parallel S d') (he : S context e e') :
    ∃ g' d₁', d'.Adds context e' g' d₁' ∧ d₁.Parallel S d₁' ∧ Option.Rel (Global.Pairs S) g g' := by
  obtain ⟨children, rfl⟩ := hS context e e' he
  have hnew {m m' : OrderedMap QName GroupDefinition} {name : QName}
      (hm : m.Related (GroupDefinition.Pairs S) m')
      (hnone : m.get? name = none) : m'.get? name = none :=
    Rereading.eq_none_of_rel (hm.get? name) hnone
  obtain ⟨hset, hwaiting, hgroups, hattributeGroups⟩ := hpar
  -- Names are looked up in the same set, or among groups that are paired.
  cases h with
  | element htag hname hfind =>
    rw [← hset] at hfind ⊢
    exact ⟨_, _, .element htag (Context.requiredName_of_ok (.withChildren _ _) hname) hfind,
      ⟨rfl, hwaiting, hgroups, hattributeGroups⟩, .some ⟨rfl, rfl, he⟩⟩
  | attr htag hname hfind =>
    rw [← hset] at hfind ⊢
    exact ⟨_, _, .attr htag (Context.requiredName_of_ok (.withChildren _ _) hname) hfind,
      ⟨rfl, hwaiting, hgroups, hattributeGroups⟩, .some ⟨rfl, rfl, he⟩⟩
  | type hdefines hname hfind =>
    rw [← hset] at hfind ⊢
    exact ⟨_, _, .type hdefines (Context.requiredName_of_ok (.withChildren _ _) hname) hfind,
      ⟨rfl, hwaiting, hgroups, hattributeGroups⟩, .some ⟨rfl, rfl, he⟩⟩
  | group htag hname hfind =>
    exact ⟨_, _, .group htag (Context.requiredName_of_ok (.withChildren _ _) hname) (hnew hgroups hfind),
      ⟨hset, hwaiting, hgroups.insert _ ⟨rfl, he⟩, hattributeGroups⟩, .none⟩
  | attributeGroup htag hname hfind =>
    exact ⟨_, _, .attributeGroup htag (Context.requiredName_of_ok (.withChildren _ _) hname)
      (hnew hattributeGroups hfind),
      ⟨hset, hwaiting, hgroups, hattributeGroups.insert _ ⟨rfl, he⟩⟩, .none⟩
  | ignored htag => exact ⟨_, _, .ignored htag, ⟨hset, hwaiting, hgroups, hattributeGroups⟩, .none⟩
  | nothing htag => exact ⟨_, _, .nothing htag, ⟨hset, hwaiting, hgroups, hattributeGroups⟩, .none⟩

/-- The same is declared in both drafts. -/
theorem Draft.AddsAll.parallel {items items' : List (Context × Element)} {gs : List (Option Global)}
    {d d₁ d' : Draft} (h : AddsAll items d gs d₁) (hpar : d.Parallel S d')
    (hitems : List.Forall₂ (fun i i' => i'.1 = i.1 ∧ S i.1 i.2 i'.2) items items') :
    ∃ gs' d₁', AddsAll items' d' gs' d₁' ∧ d₁.Parallel S d₁' ∧
      List.Forall₂ (Option.Rel (Global.Pairs S)) gs gs' := by
  induction h generalizing d' items' with
  | nil =>
    cases hitems
    exact ⟨[], d', .nil, hpar, .nil⟩
  | cons hadds _ ih =>
    cases hitems with
    | @cons _ i' _ items' hi hitems =>
      obtain ⟨context', e'⟩ := i'
      obtain ⟨rfl, hi⟩ := hi
      obtain ⟨g', d₁', hadds', hpar₁, hg⟩ := hadds.parallel hS hpar hi
      obtain ⟨gs', d₂', hrest', hpar₂, hgs⟩ := ih hpar₁ hitems
      exact ⟨g' :: gs', d₂', .cons hadds' hrest', hpar₂, .cons hg hgs⟩

end Parallel

/-! ## The same schema set -/

namespace SchemaSet

section Inlined

variable {documents : List SchemaDocument} {context : Context} {root root' : Element}

/-- What comes to stand for a child of a document: itself, or the child with a reference written out
if the document is the one that has been changed. -/
def ChildEdited (documents : List SchemaDocument) (context c : Context) (e e' : Element) : Prop :=
  e' = e ∨
    (c = context ∧ InlinesChild (SchemaDocument.Replaces Context.Alike documents context) e e')

/-- What comes to stand for a document. -/
def DocumentEdited (context : Context) (root root' : Element)
    (document document' : SchemaDocument) : Prop :=
  document' = document ∨ (document = ⟨root, context⟩ ∧ document' = ⟨root', context⟩)

/-- A component that is edited at one reference is expanded. -/
theorem ChildEdited.expandsTo {c : Context} {e e' : Element}
    (h : ChildEdited documents context c e e') :
    ExpandsTo (SchemaDocument.Replaces Context.Alike documents c) e e' := by
  rcases h with rfl | ⟨rfl, h⟩
  · exact .refl _ _
  · exact h.expandsTo

/-- The documents declare the same, up to the reference that is written out. -/
theorem forall₂_items
    (hroot : InlinesIn (SchemaDocument.Replaces Context.Alike documents context) root root')
    {ds ds' : List SchemaDocument} (h : List.Forall₂ (DocumentEdited context root root') ds ds') :
    List.Forall₂ (fun i i' => i'.1 = i.1 ∧ ChildEdited documents context i.1 i.2 i'.2)
      (SchemaDocument.items ds) (SchemaDocument.items ds') := by
  have hrefl (c : Context) (es : List Element) :
      List.Forall₂ (fun i i' => i'.1 = i.1 ∧ ChildEdited documents context i.1 i.2 i'.2)
        (es.map (Prod.mk c)) (es.map (Prod.mk c)) :=
    List.forall₂_same.mpr fun _ _ => ⟨rfl, .inl rfl⟩
  induction h with
  | nil => exact .nil
  | @cons document document' ds ds' hdocument _ ih =>
    refine List.rel_append ?_ ih
    rcases hdocument with rfl | ⟨rfl, rfl⟩
    · exact hrefl _ _
    · cases hroot with
      | @child child child' before after heq hchild =>
        dsimp only
        rw [Element.withChildren_children, heq, List.map_append, List.map_append, List.map_cons,
          List.map_cons]
        exact List.rel_append (hrefl _ _) (.cons ⟨rfl, .inr ⟨rfl, hchild⟩⟩ (hrefl _ _))

/-- Once all is declared, what the definitions in the documents put in the place of a reference is
what the groups of the draft put there. -/
theorem replaces_of_addsAll {d d₁ : Draft} {gs : List (Option Global)}
    (h : Draft.AddsAll (SchemaDocument.items documents) d gs d₁) {c : Context} {e : Element}
    {new : List Element} (hnew : SchemaDocument.Replaces Context.Alike documents c e new) :
    d₁.Replaces c e new := by
  have hmem {document : SchemaDocument} {child : Element} (hdocument : document ∈ documents)
      (hchild : child ∈ document.root.children) :
      (document.context, child) ∈ SchemaDocument.items documents :=
    List.mem_flatMap.mpr ⟨document, hdocument, List.mem_map_of_mem hchild⟩
  cases hnew with
  | group hdocument hchild htag hname halike he href hresolve hm hcarries =>
    exact .group he href hresolve (h.mem_groups (hmem hdocument hchild) htag hname) halike hm
      hcarries
  | attributeGroup hdocument hchild htag hname halike he href hresolve htags =>
    exact .attributeGroup he href hresolve
      (h.mem_attributeGroups (hmem hdocument hchild) htag hname) halike htags

/-- The groups are defined alike, up to the reference that is written out. -/
theorem defines_of_parallel {d d₁ d₁' : Draft} {gs : List (Option Global)}
    (h : Draft.AddsAll (SchemaDocument.items documents) d gs d₁) (hempty : d.groups = .empty)
    (hpar : d₁.Parallel (ChildEdited documents context) d₁') : d₁.Defines d₁' where
  groups name definition hfound := by
    obtain ⟨definition', hfound', hcontext, hedited⟩ :=
      Rereading.exists_of_rel (hpar.groups.get? name) hfound
    have hreplaces : ∀ e new,
        SchemaDocument.Replaces Context.Alike documents definition.context e new →
        d₁.Replaces definition.context e new := fun _ _ => replaces_of_addsAll h
    refine ⟨definition', hfound', ⟨hcontext ▸ .refl _, hedited.expandsTo.mono hreplaces⟩, ?_⟩
    intro m hm
    rcases hedited with heq | ⟨rfl, hchild⟩
    · exact ⟨m, heq ▸ hm, .refl _ m⟩
    · have htag : definition.element.localName = "group" :=
        h.groups_tag (fun n found hn => by rw [hempty] at hn; cases hn) hfound
      obtain ⟨m', hm', hto⟩ := hchild.exists_modelGroup? htag hm
      exact ⟨m', hm', hto.mono hreplaces⟩
  attributeGroups name definition hfound := by
    obtain ⟨definition', hfound', hcontext, hedited⟩ :=
      Rereading.exists_of_rel (hpar.attributeGroups.get? name) hfound
    refine ⟨definition', hfound', hcontext ▸ .refl _, ?_⟩
    exact hedited.expandsTo.mono fun _ _ => replaces_of_addsAll h
  groups_size := Nat.le_of_eq hpar.groups.length_eq
  attributeGroups_size := Nat.le_of_eq hpar.attributeGroups.length_eq

/-- The drafts, once all is declared, name the same components at the same places. -/
def rereading {d d' : Draft} (hsound : d.Sound) (hset : d'.set = d.set) (hdefines : d.Defines d')
    (last : SchemaSet) : Rereading where
  renumbering := .refl
  first := d
  first' := d'
  last := last
  tracked _ := True
  defines := hdefines
  types i _ _ := by rw [hset]; rfl
  elements i _ _ := by rw [hset]; rfl
  attributes i _ _ := by rw [hset]; rfl
  findType? name id hid := by
    rw [hset]
    have hhas := (hsound.listed.findType? hid).1
    exact ⟨hid, hhas, hhas⟩
  findElement? name id hid := by rw [hset]; exact hid
  findAttribute? name id hid := by rw [hset]; exact hid

/-- At first the drafts have the same components. -/
theorem mirrors_rereading {d d' : Draft} (hsound : d.Sound) (hset : d'.set = d.set)
    (hdefines : d.Defines d') (last : SchemaSet) :
    (rereading hsound hset hdefines last).Mirrors d d' where
  within := .refl d.set
  types_pace := Nat.add_comm _ _
  elements_pace := Nat.add_comm _ _
  attributes_pace := Nat.add_comm _ _
  schemas := rfl
  schemas' := rfl
  groups := rfl
  groups' := rfl
  attributeGroups := rfl
  attributeGroups' := rfl
  types i t _ ht := by
    rw [hset]
    exact ht.trans (congrArg some t.renumber_refl).symm
  elements i e _ he := by
    rw [hset]
    exact he
  attributes i a _ ha := by
    rw [hset]
    exact ha
  isSimple name id _ := by rw [hset]; rfl
  waiting := ⟨[], (List.append_nil _).symm, (List.append_nil _).symm⟩

/-- Arrays of one size with the same elements are equal. -/
theorem array_eq_of_getElem? {α : Type} {xs ys : Array α} (hsize : ys.size = xs.size)
    (h : ∀ (i : Nat) x, xs[i]? = some x → ys[i]? = some x) : ys = xs := by
  refine Array.ext_getElem? fun i => ?_
  cases hx : xs[i]? with
  | some x => exact h i x hx
  | none => exact Array.getElem?_eq_none (hsize ▸ Array.getElem?_eq_none_iff.mp hx)

/-- Drafts that are mirrored place by place have the same components. -/
theorem eq_of_mirrors {d d' : Draft} {hsound : d.Sound} {hset : d'.set = d.set}
    {hdefines : d.Defines d'} {last : SchemaSet} {e e' : Draft} (hwaiting : d'.waiting = d.waiting)
    (h : (rereading hsound hset hdefines last).Mirrors e e') :
    e'.set = e.set ∧ e'.waiting = e.waiting := by
  have htypes : e'.set.types = e.set.types := by
    refine array_eq_of_getElem? ?_ fun i t ht => ?_
    · have := h.types_pace
      simp only [rereading, hset] at this
      omega
    · exact (h.types i t trivial ht).trans (congrArg some t.renumber_refl)
  have helements : e'.set.elements = e.set.elements := by
    refine array_eq_of_getElem? ?_ fun i x hx => h.elements i x trivial hx
    have := h.elements_pace
    simp only [rereading, hset] at this
    omega
  have hattributes : e'.set.attributes = e.set.attributes := by
    refine array_eq_of_getElem? ?_ fun i x hx => h.attributes i x trivial hx
    have := h.attributes_pace
    simp only [rereading, hset] at this
    omega
  have hschemas : e'.set.schemas = e.set.schemas :=
    h.schemas'.trans ((congrArg SchemaSet.schemas hset).trans h.schemas.symm)
  constructor
  · cases hs : e.set
    cases hs' : e'.set
    rw [hs, hs'] at htypes helements hattributes hschemas
    dsimp only at htypes helements hattributes hschemas
    rw [htypes, helements, hattributes, hschemas]
  · obtain ⟨ws, hws, hws'⟩ := h.waiting
    rw [hws, hws']
    exact congrArg₂ (· ++ ·) hwaiting (List.map_id ws)

/-- The documents are loaded in two editions. -/
theorem editions {files : FileSystem} {limits : Limits} {text text' : String}
    (htext : HoldsRoot limits text root) (htext' : HoldsRoot limits text' root')
    (hcontext : SchemaDocument.ofRoot (Location.inMemory text).text .root root =
      .ok ⟨root, context⟩)
    (hfront : root.SameFront root') :
    Editions files files limits (fun _ l l' i => l' = l ∨
      (l = .inMemory text ∧ l' = .inMemory text' ∧ i = .root))
      (DocumentEdited context root root') where
  key _ l l' i hl := by
    rcases hl with rfl | ⟨rfl, rfl, -⟩ <;> rfl
  read _ l l' i document hl _ hread := by
    rcases hl with rfl | ⟨rfl, rfl, rfl⟩
    · exact ⟨document, hread, .inl rfl⟩
    · obtain ⟨content, hcontent, hdocument⟩ := hread
      obtain rfl : text = content := Except.ok.inj (htext.limited.symm.trans hcontent)
      rw [htext.ofText_eq] at hdocument
      cases hcontext.symm.trans hdocument
      refine ⟨⟨root', context⟩, ⟨text', htext'.limited, ?_⟩, .inr ⟨rfl, rfl⟩⟩
      rw [htext'.ofText_eq]
      exact (SchemaDocument.ofRoot_of_sameFront hcontext hfront).2
  references document document' h := by
    rcases h with rfl | ⟨rfl, rfl⟩
    · rfl
    · exact Loading.references_eq_of_sameFront rfl hfront
  follows _ l l' i _ _ _ _ target hl _ _ htarget := by
    rcases hl with rfl | ⟨rfl, rfl, -⟩
    · exact ⟨target, htarget, fun _ _ _ => .inl rfl⟩
    · exact ⟨target, htarget, fun _ _ _ => .inl rfl⟩

theorem size_of_ofLimit {x : Except LimitExceeded Unit} {u : Unit}
    (h : Result.ofLimit x = .ok u) : x = .ok ⟨⟩ := by
  cases x with
  | ok _ => rfl
  | error e => cases h

/-- The schemas are those of the documents. -/
theorem set_ofDocuments_eq {ds ds' : List SchemaDocument} {log log' : Log}
    (h : List.Forall₂ (DocumentEdited context root root') ds ds') :
    (Draft.ofDocuments ds' log').set = (Draft.ofDocuments ds log).set := by
  refine ofDocuments_set_congr (h.imp fun d d' hd => ?_)
  rcases hd with rfl | ⟨rfl, rfl⟩ <;> exact ⟨rfl, rfl⟩

/-- The components that are still to be read are the same, up to the reference that is written
out. -/
theorem sameGlobals {v : Rereading} {gs gs' : List (Option Global)} (hv : v.renumbering = .refl)
    (hreplaces : ∀ c e new, SchemaDocument.Replaces Context.Alike documents c e new →
      v.first.Replaces c e new)
    (h : List.Forall₂ (Option.Rel (Global.Pairs (ChildEdited documents context))) gs gs') :
    List.Forall₂ v.SameGlobal (gs.filterMap id) (gs'.filterMap id) := by
  induction h with
  | nil => exact .nil
  | cons hg _ ih =>
    cases hg with
    | none => exact ih
    | @some g g' hpairs =>
      refine .cons ⟨?_, hpairs.context ▸ .refl _, ?_⟩ ih
      · rw [hpairs.target, hv]
        cases g.target <;> rfl
      · exact hpairs.element.expandsTo.mono (hreplaces _)

/-- The first document is that of the text. -/
theorem holdsRoot_of_loadAll {files : FileSystem} {limits : Limits} {text : String}
    (h : (SchemaDocument.loadAll files limits (.inMemory text)).1 =
      .ok (⟨root, context⟩ :: documents)) :
    HoldsRoot limits text root ∧
      SchemaDocument.ofRoot (Location.inMemory text).text .root root = .ok ⟨root, context⟩ := by
  obtain ⟨loaded, hloaded, heq⟩ := exists_loadedFrom h
  cases loaded with
  | nil => cases heq
  | cons l loaded =>
    obtain ⟨hlocation, hinclusion⟩ := hloaded.traced.head
    obtain ⟨content, hcontent, hdocument⟩ := hloaded.read l List.mem_cons_self
    have hl : ⟨root, context⟩ = l.document := (List.cons.inj heq).1
    unfold Loaded.key at hdocument
    rw [hlocation, hinclusion, ← hl] at hdocument
    rw [hlocation] at hcontent
    have hlimited : Source.limited limits text = .ok content := hcontent
    unfold Source.limited at hlimited
    obtain ⟨_, hsize, heq⟩ := bind_eq_ok_iff.mp hlimited
    cases heq
    unfold SchemaDocument.ofText at hdocument
    obtain ⟨document, hparse, hdocument⟩ := bind_eq_ok_iff.mp hdocument
    split at hdocument
    · cases hdocument
    · next r hr =>
      obtain ⟨rfl, -⟩ := SchemaDocument.ofRoot_of_sameFront hdocument (.refl r)
      exact ⟨⟨size_of_ofLimit hsize, document, hparse, hr⟩, hdocument⟩

/-- Declaring and reading the documents with the reference written out brings about the same. -/
theorem exists_readDocuments
    (hroot : InlinesIn (SchemaDocument.Replaces Context.Alike documents context) root root')
    {documents' : List SchemaDocument}
    (hdocuments : List.Forall₂ (DocumentEdited context root root') documents documents')
    {log log' : Log} {draft : Draft}
    (hread : (readDocuments documents).run.run (.ofDocuments documents log) = (.ok ⟨⟩, draft)) :
    ∃ draft', (readDocuments documents').run.run (.ofDocuments documents' log') = (.ok ⟨⟩, draft') ∧
      draft'.set = draft.set ∧ draft'.waiting = draft.waiting := by
  have hstart := Draft.start_ofDocuments documents log
  have hpar : (Draft.ofDocuments documents log).Parallel (ChildEdited documents context)
      (.ofDocuments documents' log') := ⟨set_ofDocuments_eq hdocuments, rfl, .nil, .nil⟩
  have hempty : (Draft.ofDocuments documents log).groups = .empty := rfl
  generalize Draft.ofDocuments documents log = d at hread hstart hpar hempty
  generalize Draft.ofDocuments documents' log' = d' at hpar
  unfold readDocuments at hread ⊢
  obtain ⟨globals, d₁, hdeclare, hglobals⟩ := run_bind_eq_ok_iff.mp hread
  have hsound := ((DraftM.returns_declareAll hstart.sound documents).of_run hdeclare).1.sound
  obtain ⟨gs, hadds, rfl⟩ := DraftM.run_declareAll_eq_ok_iff.mp hdeclare
  obtain ⟨gs', d₁', hadds', hpar₁, hgs⟩ := hadds.parallel
    (fun _ _ _ h => (h.expandsTo).imp fun _ h => h.2) hpar (forall₂_items hroot hdocuments)
  have hdefines := defines_of_parallel hadds hempty hpar₁
  obtain ⟨draft', hglobals', hmirrors⟩ := (Rereading.follows_readGlobals
    (v := rereading hsound hpar₁.set hdefines draft.set)
    (sameGlobals rfl (fun _ _ _ => replaces_of_addsAll hadds) hgs)).follows
      d₁ d₁' ⟨⟩ draft (mirrors_rereading hsound hpar₁.set hdefines draft.set) hglobals
      (.refl draft.set)
  exact ⟨draft', run_bind_eq_ok_iff.mpr
    ⟨_, d₁', DraftM.run_declareAll_eq_ok_iff.mpr ⟨gs', hadds', rfl⟩, hglobals'⟩,
    eq_of_mirrors hpar₁.waiting hmirrors⟩

/-- References to groups are transparent: with a reference to a group written out, a text is read as
the same schema set. -/
theorem parse_inlined {files : FileSystem} {limits : Limits} {text text' : String} {set : SchemaSet}
    (hloaded : (SchemaDocument.loadAll files limits (.inMemory text)).1 =
      .ok (⟨root, context⟩ :: documents))
    (hroot : InlinesIn (SchemaDocument.Replaces Context.Alike (⟨root, context⟩ :: documents)
      context) root root')
    (htext' : HoldsRoot limits text' root')
    (hset : (parse files limits (.inMemory text)).1 = .ok set) :
    (parse files limits (.inMemory text')).1 = .ok set := by
  obtain ⟨loaded, log, draft, hload, hread, hcomplete⟩ := exists_of_parse hset
  have heq : loaded = ⟨root, context⟩ :: documents := by
    rw [hload] at hloaded
    exact Except.ok.inj hloaded
  subst heq
  obtain ⟨htext, hcontext⟩ := holdsRoot_of_loadAll hloaded
  obtain ⟨documents', hload', hdocuments⟩ :=
    (editions htext htext' hcontext hroot.sameFront).exists_loadAll (.inr ⟨rfl, rfl, rfl⟩) hloaded
  obtain ⟨draft', hread', hset', hwaiting⟩ := exists_readDocuments hroot hdocuments hread
  rw [parse_eq_complete (Prod.ext hload' rfl) hread']
  unfold complete at hcomplete ⊢
  rwa [hset', hwaiting]

end Inlined

/-! ## Two references -/

section Texts

/-- A sequence of one element. -/
def sequenceOf (scope : Xml.NamespaceContext) (attributes : List (String × String))
    (name : String) : Element :=
  schemaElement scope "sequence" attributes
    [schemaElement scope "element" [("name", name), ("type", "x:string")] []]

/-- The definition of a group of one element. -/
def groupOf (scope : Xml.NamespaceContext) (name element : String) : Element :=
  schemaElement scope "group" [("name", name)] [sequenceOf scope [] element]

/-- The context of a text without a target namespace. -/
def plainContext : Context := ⟨"", false, false, false, "<string>"⟩

/-- A text in which a type refers to a group. -/
def referring : String :=
  "<x:schema xmlns:x=\"http://www.w3.org/2001/XMLSchema\">" ++
  "<x:group name=\"h\"><x:sequence><x:element name=\"a\" type=\"x:string\"/></x:sequence>" ++
  "</x:group><x:complexType name=\"T\"><x:group ref=\"h\" maxOccurs=\"2\"/></x:complexType>" ++
  "</x:schema>"

/-- The text with the reference written out. -/
def inlined : String :=
  "<x:schema xmlns:x=\"http://www.w3.org/2001/XMLSchema\">" ++
  "<x:group name=\"h\"><x:sequence><x:element name=\"a\" type=\"x:string\"/></x:sequence>" ++
  "</x:group><x:complexType name=\"T\"><x:sequence maxOccurs=\"2\">" ++
  "<x:element name=\"a\" type=\"x:string\"/></x:sequence></x:complexType></x:schema>"

/-- A reference to a group, with a bound. -/
def groupReference : Element :=
  schemaElement plainScope "group" [("ref", "h"), ("maxOccurs", "2")] []

/-- The sequence that stands for the reference, with its bound. -/
def boundedSequence : Element := sequenceOf plainScope [("maxOccurs", "2")] "a"

/-- The definition of a type by its child. -/
def typeOf (scope : Xml.NamespaceContext) (child : Element) : Element :=
  schemaElement scope "complexType" [("name", "T")] [child]

/-- The root of either text, by the child of the type. -/
def referringRoot (child : Element) : Element :=
  schemaElement plainScope "schema" [] [groupOf plainScope "h" "a", typeOf plainScope child]

/-- What the two texts hold: the one with the reference is loaded, and read, the other one has the
reference written out. -/
theorem referring_facts :
    (SchemaDocument.loadAll .empty .standard (.inMemory referring)).1.toOption =
        some [⟨referringRoot groupReference, plainContext⟩] ∧
      (readText referring).isOk = true ∧
      (Limits.standard.check .xmlSize inlined.utf8ByteSize).isOk = true ∧
      ((Xml.Document.parse .standard (Text.encode inlined)).toOption.bind (·.root)) =
        some (referringRoot boundedSequence) := by
  decide +kernel

/-- The reference is written out in the text. -/
theorem inlinesIn_referringRoot : InlinesIn
    (SchemaDocument.Replaces Context.Alike [⟨referringRoot groupReference, plainContext⟩]
      plainContext)
    (referringRoot groupReference) (referringRoot boundedSequence) := by
  have hcarries : groupReference.Carries (sequenceOf plainScope [] "a") boundedSequence := by
    refine ⟨rfl, rfl, rfl, ?_, fun a _ hmax => ?_⟩
    · rintro a (rfl | rfl) <;> rfl
    · have hne : (QName.unqualified a == QName.unqualified "maxOccurs") = false := by
        simpa [QName.unqualified] using hmax
      simp [boundedSequence, sequenceOf, schemaElement, Element.attribute?,
        Element.qualifiedAttribute?, List.lookup_cons, hne]
  have hreplaces : SchemaDocument.Replaces Context.Alike
      [⟨referringRoot groupReference, plainContext⟩] plainContext groupReference
      [boundedSequence] :=
    .group List.mem_cons_self List.mem_cons_self rfl rfl (.refl _) rfl rfl (by decide)
      (by decide) hcarries
  have hchild : InlinesChild (SchemaDocument.Replaces Context.Alike
      [⟨referringRoot groupReference, plainContext⟩] plainContext)
      (typeOf plainScope groupReference) (typeOf plainScope boundedSequence) :=
    .here (show _ = [] ++ groupReference :: [] from rfl) hreplaces (by decide)
  exact .child (show _ = [groupOf plainScope "h" "a"] ++ typeOf plainScope groupReference :: []
    from rfl) hchild

theorem parse_inlined_referring :
    (parse .empty .standard (.inMemory inlined)).1 = .ok (ofText referring) := by
  obtain ⟨hload, hset, hsize, hroot⟩ := referring_facts
  exact parse_inlined (eq_ok_of_toOption hload) inlinesIn_referringRoot
    (holdsRoot_of_root? hsize hroot) (parse_ofText hset)

end Texts

/-! ## References that are not transparent -/

section NotTransparent

/-- References are transparent as far as two texts are concerned: if a reference in the one text is
written out in the other one, wherever it stands and whatever the settings of its definition are,
both are read as the same schema set. -/
def TransparentAt (files : FileSystem) (limits : Limits) (text text' : String) : Prop :=
  ∀ root root' context documents set,
    (SchemaDocument.loadAll files limits (.inMemory text)).1 = .ok (⟨root, context⟩ :: documents) →
    Inlines (SchemaDocument.Replaces (fun _ _ => True) (⟨root, context⟩ :: documents) context)
      root root' →
    HoldsRoot limits text' root' → (parse files limits (.inMemory text)).1 = .ok set →
    (parse files limits (.inMemory text')).1 = .ok set

/-- The elements of a set, if it has been read, and the namespaces that they are in. -/
def headings (x : Result SchemaSet) : Option (Array (String × String)) :=
  x.toOption.map fun set => set.elements.map fun e => (e.name, e.namespaceUri)

/-- Two texts show that references are not transparent if they are read as sets with other elements;
all that is to be evaluated is one condition, so that each text is read once for it. -/
theorem not_transparentAt {files : FileSystem} {limits : Limits} {text text' : String}
    {root root' : Element} {context : Context} {documents : List SchemaDocument}
    (hinlines : Inlines (SchemaDocument.Replaces (fun _ _ => True)
      (⟨root, context⟩ :: documents) context) root root')
    (hfacts : (SchemaDocument.loadAll files limits (.inMemory text)).1.toOption =
        some (⟨root, context⟩ :: documents) ∧
      (limits.check .xmlSize text'.utf8ByteSize).isOk = true ∧
      ((Xml.Document.parse limits (Text.encode text')).toOption.bind (·.root)) = some root' ∧
      (parse files limits (.inMemory text)).1.isOk = true ∧
      headings (parse files limits (.inMemory text')).1 ≠
        headings (parse files limits (.inMemory text)).1) :
    ¬ TransparentAt files limits text text' := by
  obtain ⟨hload, hsize, hroot', hset, hne⟩ := hfacts
  intro h
  have hok := eq_ok_getD_of_isOk hset .builtin
  have hsame := h root root' context documents _ (eq_ok_of_toOption hload) hinlines
    (holdsRoot_of_root? hsize hroot') hok
  rw [hsame, ← hok] at hne
  exact hne rfl

/-- A text in which a reference stands in front of the model group of a definition. -/
def leading : String :=
  "<x:schema xmlns:x=\"http://www.w3.org/2001/XMLSchema\">" ++
  "<x:group name=\"h\"><x:sequence><x:element name=\"a\" type=\"x:string\"/></x:sequence>" ++
  "</x:group><x:group name=\"g\"><x:group ref=\"h\"/>" ++
  "<x:sequence><x:element name=\"b\" type=\"x:string\"/></x:sequence></x:group>" ++
  "<x:complexType name=\"T\"><x:group ref=\"g\"/></x:complexType></x:schema>"

/-- The text with the reference written out: the definition has another model group now. -/
def displaced : String :=
  "<x:schema xmlns:x=\"http://www.w3.org/2001/XMLSchema\">" ++
  "<x:group name=\"h\"><x:sequence><x:element name=\"a\" type=\"x:string\"/></x:sequence>" ++
  "</x:group><x:group name=\"g\">" ++
  "<x:sequence><x:element name=\"a\" type=\"x:string\"/></x:sequence>" ++
  "<x:sequence><x:element name=\"b\" type=\"x:string\"/></x:sequence></x:group>" ++
  "<x:complexType name=\"T\"><x:group ref=\"g\"/></x:complexType></x:schema>"

/-- A reference to a group. -/
def referenceTo (scope : Xml.NamespaceContext) (name : String) : Element :=
  schemaElement scope "group" [("ref", name)] []

/-- The definition that the reference stands in, by what stands in front of its model group. -/
def leadingGroup (first : Element) : Element :=
  schemaElement plainScope "group" [("name", "g")] [first, sequenceOf plainScope [] "b"]

/-- The root of either text, by what stands in front of the model group. -/
def leadingRoot (first : Element) : Element :=
  schemaElement plainScope "schema" []
    [groupOf plainScope "h" "a", leadingGroup first, typeOf plainScope (referenceTo plainScope "g")]

theorem carries_sequenceOf (scope : Xml.NamespaceContext) (reference name : String) :
    (referenceTo scope reference).Carries (sequenceOf scope [] name)
      (sequenceOf scope [] name) where
  name := rfl
  namespaces := rfl
  children := rfl
  bounds := by rintro a (rfl | rfl) <;> rfl
  others _ _ _ := rfl

theorem inlines_leadingRoot :
    Inlines (SchemaDocument.Replaces (fun _ _ => True)
      [⟨leadingRoot (referenceTo plainScope "h"), plainContext⟩] plainContext)
      (leadingRoot (referenceTo plainScope "h")) (leadingRoot (sequenceOf plainScope [] "a")) := by
  have hreplaces : SchemaDocument.Replaces (fun _ _ => True)
      [⟨leadingRoot (referenceTo plainScope "h"), plainContext⟩] plainContext
      (referenceTo plainScope "h") [sequenceOf plainScope [] "a"] :=
    .group List.mem_cons_self List.mem_cons_self rfl rfl trivial rfl rfl (by decide)
      (by decide) (carries_sequenceOf plainScope "h" "a")
  have hgroup : Inlines (SchemaDocument.Replaces (fun _ _ => True)
      [⟨leadingRoot (referenceTo plainScope "h"), plainContext⟩] plainContext)
      (leadingGroup (referenceTo plainScope "h")) (leadingGroup (sequenceOf plainScope [] "a")) :=
    .here (show _ = [] ++ referenceTo plainScope "h" :: [sequenceOf plainScope [] "b"] from rfl)
      hreplaces
  exact .inside (show _ = [groupOf plainScope "h" "a"] ++
    leadingGroup (referenceTo plainScope "h") :: [typeOf plainScope (referenceTo plainScope "g")]
    from rfl) hgroup

/-- A group whose local elements are in its namespace, as the only file. -/
def qualifiedFile : FileSystem where
  canonical? path := some path
  read path :=
    if path.text = "g.xsd" then
      .ok <| "<x:schema xmlns:x=\"http://www.w3.org/2001/XMLSchema\" xmlns:t=\"t\"" ++
        " targetNamespace=\"t\" elementFormDefault=\"qualified\"><x:group name=\"g\">" ++
        "<x:sequence><x:element name=\"a\" type=\"x:string\"/></x:sequence></x:group></x:schema>"
    else .error .notFound

/-- A text that refers to the group; its own local elements are in no namespace. -/
def including : String :=
  "<x:schema xmlns:x=\"http://www.w3.org/2001/XMLSchema\" xmlns:t=\"t\" targetNamespace=\"t\">" ++
  "<x:include schemaLocation=\"g.xsd\"/><x:complexType name=\"T\"><x:group ref=\"t:g\"/>" ++
  "</x:complexType></x:schema>"

/-- The text with the reference written out: the element is in no namespace now. -/
def resettled : String :=
  "<x:schema xmlns:x=\"http://www.w3.org/2001/XMLSchema\" xmlns:t=\"t\" targetNamespace=\"t\">" ++
  "<x:include schemaLocation=\"g.xsd\"/><x:complexType name=\"T\">" ++
  "<x:sequence><x:element name=\"a\" type=\"x:string\"/></x:sequence></x:complexType></x:schema>"

/-- The prefix `t` stands for the namespace of the texts. -/
def targetScope : Xml.NamespaceContext := plainScope.declare "t" "t"

/-- The settings of either text, and those of the file. -/
def targetContext (qualified : Bool) (source : String) : Context :=
  ⟨"t", false, qualified, false, source⟩

/-- The child of either text that includes the file. -/
def fileReference : Element :=
  schemaElement targetScope "include" [("schemaLocation", "g.xsd")] []

/-- The root of either text, by the child of the type. -/
def includingRoot (child : Element) : Element :=
  schemaElement targetScope "schema" [("targetNamespace", "t")]
    [fileReference, typeOf targetScope child]

/-- The document in the file. -/
def qualifiedDocument : SchemaDocument where
  root := schemaElement targetScope "schema"
    [("targetNamespace", "t"), ("elementFormDefault", "qualified")] [groupOf targetScope "g" "a"]
  context := targetContext true "g.xsd"

theorem inlines_includingRoot :
    Inlines (SchemaDocument.Replaces (fun _ _ => True)
      [⟨includingRoot (referenceTo targetScope "t:g"), targetContext false "<string>"⟩,
        qualifiedDocument] (targetContext false "<string>"))
      (includingRoot (referenceTo targetScope "t:g"))
      (includingRoot (sequenceOf targetScope [] "a")) := by
  have hreplaces : SchemaDocument.Replaces (fun _ _ => True)
      [⟨includingRoot (referenceTo targetScope "t:g"), targetContext false "<string>"⟩,
        qualifiedDocument] (targetContext false "<string>") (referenceTo targetScope "t:g")
      [sequenceOf targetScope [] "a"] :=
    .group (List.mem_cons_of_mem _ List.mem_cons_self) List.mem_cons_self rfl rfl trivial rfl rfl
      (by decide) (by decide +kernel) (carries_sequenceOf targetScope "t:g" "a")
  have htype : Inlines (SchemaDocument.Replaces (fun _ _ => True)
      [⟨includingRoot (referenceTo targetScope "t:g"), targetContext false "<string>"⟩,
        qualifiedDocument] (targetContext false "<string>"))
      (typeOf targetScope (referenceTo targetScope "t:g"))
      (typeOf targetScope (sequenceOf targetScope [] "a")) :=
    .here (show _ = [] ++ referenceTo targetScope "t:g" :: [] from rfl) hreplaces
  exact .inside (show _ = [fileReference] ++
    typeOf targetScope (referenceTo targetScope "t:g") :: [] from rfl) htype

/-- References are not transparent where a model group comes to stand in front of another one, nor
where the settings are not those of the definition. -/
theorem not_transparent : ¬ TransparentAt .empty .standard leading displaced ∧
    ¬ TransparentAt qualifiedFile .standard including resettled :=
  ⟨not_transparentAt inlines_leadingRoot (by decide +kernel),
    not_transparentAt inlines_includingRoot (by decide +kernel)⟩

end NotTransparent

end SchemaSet

end SchemaBinding.Xsd
