import SchemaBinding.Proofs.Xsd.Advance
import SchemaBinding.Proofs.Xsd.Expansion
import SchemaBinding.Proofs.Xsd.Renumbering

/-!
# Reading twice

What is read from two drafts that name the same components, though the components may stand at other
places in the second one, and references to groups may be written out in what is read from it. If
the first reading succeeds, so does the second one, and it says the same: what it adds and defines
is what the first one adds and defines, under other numbers.

## Main definitions

* `SchemaSet.Within`: a set has as many components as another one, or fewer
* `Draft.Defines`: the groups of two drafts are defined alike, up to references written out
* `Rereading`: two drafts from which the same is read, and the numbers in the second one
* `Rereading.Mirrors`: what has been read from both
* `Rereading.Follows`: if a step succeeds, so does another one, with the same result

## Main results

* `Rereading.follows_bind`, `follows_pure`, `follows_mapM`, …: how steps are put together
* `Rereading.follows_newType`, `follows_defineType`, …: single steps
-/

namespace SchemaBinding.Xsd

open Xml (Element QName)

/-! ## Sizes -/

/-- A set has as many components of each kind as another one, or fewer. -/
structure SchemaSet.Within (set set' : SchemaSet) : Prop where
  types : set.types.size ≤ set'.types.size
  elements : set.elements.size ≤ set'.elements.size
  attributes : set.attributes.size ≤ set'.attributes.size

namespace SchemaSet.Within

variable {set set' set'' : SchemaSet}

theorem refl (set : SchemaSet) : set.Within set := ⟨Nat.le_refl _, Nat.le_refl _, Nat.le_refl _⟩

theorem trans (h : set.Within set') (h' : set'.Within set'') : set.Within set'' :=
  ⟨Nat.le_trans h.1 h'.1, Nat.le_trans h.2 h'.2, Nat.le_trans h.3 h'.3⟩

theorem addType (set : SchemaSet) (t : TypeDefinition) : set.Within (set.addType t).2 :=
  ⟨by simp [SchemaSet.addType], Nat.le_refl _, Nat.le_refl _⟩

theorem addElement (set : SchemaSet) (e : ElementDeclaration) : set.Within (set.addElement e).2 :=
  ⟨Nat.le_refl _, by simp [SchemaSet.addElement], Nat.le_refl _⟩

theorem addAttribute (set : SchemaSet) (a : AttributeDeclaration) :
    set.Within (set.addAttribute a).2 :=
  ⟨Nat.le_refl _, Nat.le_refl _, by simp [SchemaSet.addAttribute]⟩

theorem modifyType (set : SchemaSet) (id : TypeId) (f : TypeDefinition → TypeDefinition) :
    set.Within (set.modifyType id f) :=
  ⟨by simp [SchemaSet.modifyType], Nat.le_refl _, Nat.le_refl _⟩

theorem modifyElement (set : SchemaSet) (id : ElementId)
    (f : ElementDeclaration → ElementDeclaration) : set.Within (set.modifyElement id f) :=
  ⟨Nat.le_refl _, by simp [SchemaSet.modifyElement], Nat.le_refl _⟩

theorem modifyAttribute (set : SchemaSet) (id : AttributeId)
    (f : AttributeDeclaration → AttributeDeclaration) : set.Within (set.modifyAttribute id f) :=
  ⟨Nat.le_refl _, Nat.le_refl _, by simp [SchemaSet.modifyAttribute]⟩

end SchemaSet.Within

/-! ## Groups -/

/-- A definition of a second draft is one of the first one, up to references written out. -/
structure Draft.Rewrites (d : Draft) (definition definition' : GroupDefinition) : Prop where
  context : definition.context.Alike definition'.context
  element : ExpandsTo (d.Replaces definition.context) definition.element definition'.element

/-- The groups of two drafts are defined alike, up to references written out. The model group of a
definition must not have come from a reference before it. -/
structure Draft.Defines (d d' : Draft) : Prop where
  groups : ∀ name definition, d.groups.get? name = some definition →
    ∃ definition', d'.groups.get? name = some definition' ∧ d.Rewrites definition definition' ∧
      ∀ m, modelGroup? definition.element.children = some m →
        ∃ m', modelGroup? definition'.element.children = some m' ∧
          ExpandsTo (d.Replaces definition.context) m m'
  attributeGroups : ∀ name definition, d.attributeGroups.get? name = some definition →
    ∃ definition', d'.attributeGroups.get? name = some definition' ∧
      d.Rewrites definition definition'
  groups_size : d.groups.size ≤ d'.groups.size
  attributeGroups_size : d.attributeGroups.size ≤ d'.attributeGroups.size

/-! ## Two readings -/

/-- Two drafts from which the same is read. Names mean the same components in both, under other
numbers in the second one. Components that are added get places one after the other in both, until
there are as many in the first one as in `last`. The second draft is compared with the first one
where components are `tracked`. -/
structure Rereading where
  renumbering : Renumbering
  first : Draft
  first' : Draft
  last : SchemaSet
  tracked : Part → Prop
  defines : first.Defines first'
  types : ∀ i, first.set.types.size ≤ i → i < last.types.size →
    renumbering.type i + first.set.types.size = i + first'.set.types.size
  elements : ∀ i, first.set.elements.size ≤ i → i < last.elements.size →
    renumbering.element i + first.set.elements.size = i + first'.set.elements.size
  attributes : ∀ i, first.set.attributes.size ≤ i → i < last.attributes.size →
    renumbering.attr i + first.set.attributes.size = i + first'.set.attributes.size
  findType? : ∀ name id, first.set.findType? name = some id →
    first'.set.findType? name = some (id.renumber renumbering) ∧
      first.set.HasType id ∧ first'.set.HasType (id.renumber renumbering)
  findElement? : ∀ name id, first.set.findElement? name = some id →
    first'.set.findElement? name = some (id.renumber renumbering)
  findAttribute? : ∀ name id, first.set.findAttribute? name = some id →
    first'.set.findAttribute? name = some (id.renumber renumbering)

namespace Rereading

/-- The drafts have what has been read so far from the two that were there at first. -/
structure Mirrors (v : Rereading) (d d' : Draft) : Prop where
  within : v.first.set.Within d.set
  types_pace : d'.set.types.size + v.first.set.types.size =
    d.set.types.size + v.first'.set.types.size
  elements_pace : d'.set.elements.size + v.first.set.elements.size =
    d.set.elements.size + v.first'.set.elements.size
  attributes_pace : d'.set.attributes.size + v.first.set.attributes.size =
    d.set.attributes.size + v.first'.set.attributes.size
  schemas : d.set.schemas = v.first.set.schemas
  schemas' : d'.set.schemas = v.first'.set.schemas
  groups : d.groups = v.first.groups
  groups' : d'.groups = v.first'.groups
  attributeGroups : d.attributeGroups = v.first.attributeGroups
  attributeGroups' : d'.attributeGroups = v.first'.attributeGroups
  types : Tracks (fun i => v.tracked (.type ⟨i⟩)) v.renumbering.type
    (TypeDefinition.renumber v.renumbering) d.set.types d'.set.types
  elements : Tracks (fun i => v.tracked (.element ⟨i⟩)) v.renumbering.element
    (ElementDeclaration.renumber v.renumbering) d.set.elements d'.set.elements
  attributes : Tracks (fun i => v.tracked (.attr ⟨i⟩)) v.renumbering.attr
    (AttributeDeclaration.renumber v.renumbering) d.set.attributes d'.set.attributes
  isSimple : ∀ name id, v.first.set.findType? name = some id →
    (d'.set.type (id.renumber v.renumbering)).isSimple = (d.set.type id).isSimple
  waiting : ∃ ws, d.waiting = v.first.waiting ++ ws ∧
    d'.waiting = v.first'.waiting ++ ws.map fun w => (w.1.renumber v.renumbering, w.2)

variable {v : Rereading}

namespace Mirrors

variable {d d' : Draft} (h : v.Mirrors d d')
include h

theorem findType?_eq : d.set.findType? = v.first.set.findType? := by
  unfold SchemaSet.findType? SchemaSet.schemaOf? SchemaSet.schema?
  rw [h.schemas]

theorem findType?_eq' : d'.set.findType? = v.first'.set.findType? := by
  unfold SchemaSet.findType? SchemaSet.schemaOf? SchemaSet.schema?
  rw [h.schemas']

/-- The type that a name means is at its other place in the other draft. -/
theorem findType? {name : QName} {id : TypeId} (hid : d.set.findType? name = some id) :
    d'.set.findType? name = some (id.renumber v.renumbering) := by
  rw [h.findType?_eq] at hid
  rw [h.findType?_eq']
  exact (v.findType? name id hid).1

theorem findElement? {name : QName} {id : ElementId} (hid : d.set.findElement? name = some id) :
    d'.set.findElement? name = some (id.renumber v.renumbering) := by
  unfold SchemaSet.findElement? SchemaSet.schemaOf? SchemaSet.schema? at hid ⊢
  rw [h.schemas] at hid
  rw [h.schemas']
  exact v.findElement? name id hid

theorem findAttribute? {name : QName} {id : AttributeId}
    (hid : d.set.findAttribute? name = some id) :
    d'.set.findAttribute? name = some (id.renumber v.renumbering) := by
  unfold SchemaSet.findAttribute? SchemaSet.schemaOf? SchemaSet.schema? at hid ⊢
  rw [h.schemas] at hid
  rw [h.schemas']
  exact v.findAttribute? name id hid

theorem isSimple_eq {name : QName} {id : TypeId} (hid : d.set.findType? name = some id) :
    (d'.set.type (id.renumber v.renumbering)).isSimple = (d.set.type id).isSimple := by
  rw [h.findType?_eq] at hid
  exact h.isSimple name id hid

/-- What a name means is in both drafts. -/
theorem hasType {name : QName} {id : TypeId} (hid : v.first.set.findType? name = some id) :
    d.set.HasType id ∧ d'.set.HasType (id.renumber v.renumbering) := by
  obtain ⟨-, hfirst, hfirst'⟩ := v.findType? name id hid
  unfold SchemaSet.HasType at hfirst hfirst' ⊢
  have := h.within.types
  have := h.types_pace
  omega

/-! ### The same changes -/

theorem withLog (log log' : Log) : v.Mirrors { d with log := log } { d' with log := log' } :=
  { h with }

theorem await (id : TypeId) (inheritance : Inheritance) :
    v.Mirrors { d with waiting := d.waiting ++ [(id, inheritance)] }
      { d' with waiting := d'.waiting ++ [(id.renumber v.renumbering, inheritance)] } :=
  { h with
    waiting := by
      obtain ⟨ws, hws, hws'⟩ := h.waiting
      refine ⟨ws ++ [(id, inheritance)], ?_, ?_⟩
      · rw [hws, List.append_assoc]
      · rw [hws', List.map_append, List.append_assoc]
        rfl }

/-- The next place of a type is the next one in both drafts. -/
theorem renumber_nextType (hlast : d.set.types.size < v.last.types.size) :
    v.renumbering.type d.set.types.size = d'.set.types.size := by
  have := v.types _ h.within.types hlast
  have := h.types_pace
  omega

/-- The next element of the one draft is at the place of the next one of the other draft. -/
theorem renumber_nextElement (hlast : d.set.elements.size < v.last.elements.size) :
    v.renumbering.element d.set.elements.size = d'.set.elements.size := by
  have := v.elements _ h.within.elements hlast
  have := h.elements_pace
  omega

theorem renumber_nextAttribute (hlast : d.set.attributes.size < v.last.attributes.size) :
    v.renumbering.attr d.set.attributes.size = d'.set.attributes.size := by
  have := v.attributes _ h.within.attributes hlast
  have := h.attributes_pace
  omega

theorem addType (t : TypeDefinition) (hlast : d.set.types.size < v.last.types.size) :
    v.Mirrors { d with set := (d.set.addType t).2 }
      { d' with set := (d'.set.addType (t.renumber v.renumbering)).2 } :=
  { h with
    within := h.within.trans (.addType _ _)
    types_pace := by
      have := h.types_pace
      simp only [SchemaSet.addType, Array.size_push]
      omega
    types := h.types.push (h.renumber_nextType hlast) t
    isSimple name id hid := by
      obtain ⟨hhas, hhas'⟩ := h.hasType hid
      rw [d.set.type_addType_of_has t hhas, d'.set.type_addType_of_has _ hhas']
      exact h.isSimple name id hid }

theorem addElement (e : ElementDeclaration) (hlast : d.set.elements.size < v.last.elements.size) :
    v.Mirrors { d with set := (d.set.addElement e).2 }
      { d' with set := (d'.set.addElement (e.renumber v.renumbering)).2 } :=
  { h with
    within := h.within.trans (.addElement _ _)
    elements_pace := by
      have := h.elements_pace
      simp only [SchemaSet.addElement, Array.size_push]
      omega
    elements := h.elements.push (h.renumber_nextElement hlast) e }

theorem addAttribute (a : AttributeDeclaration)
    (hlast : d.set.attributes.size < v.last.attributes.size) :
    v.Mirrors { d with set := (d.set.addAttribute a).2 }
      { d' with set := (d'.set.addAttribute (a.renumber v.renumbering)).2 } :=
  { h with
    within := h.within.trans (.addAttribute _ _)
    attributes_pace := by
      have := h.attributes_pace
      simp only [SchemaSet.addAttribute, Array.size_push]
      omega
    attributes := h.attributes.push (h.renumber_nextAttribute hlast) a }

theorem defineType (id base : TypeId) (kind : TypeKind) :
    v.Mirrors { d with set := d.set.modifyType id fun t => { t with base := base, kind := kind } }
      { d' with set := d'.set.modifyType (id.renumber v.renumbering) fun t =>
        { t with base := base.renumber v.renumbering, kind := kind.renumber v.renumbering } } :=
  { h with
    within := h.within.trans (.modifyType _ _ _)
    types_pace := by
      have := h.types_pace
      simp only [SchemaSet.modifyType, Array.size_modify]
      omega
    types := h.types.modify v.renumbering.type.injective id.index fun _ => rfl
    isSimple name i hi := by
      obtain ⟨hhas, hhas'⟩ := h.hasType hi
      by_cases heq : i = id
      · subst heq
        rw [d.set.type_modifyType hhas, d'.set.type_modifyType hhas', if_pos rfl, if_pos rfl,
          TypeDefinition.isSimple_eq, TypeDefinition.isSimple_eq]
        exact kind.isSimple_renumber _
      · have hne : i.renumber v.renumbering ≠ id.renumber v.renumbering := by simpa using heq
        show (SchemaSet.type _ _).isSimple = (SchemaSet.type _ _).isSimple
        rw [d.set.type_modifyType_of_ne heq, d'.set.type_modifyType_of_ne hne]
        exact h.isSimple name i hi }

theorem modifyElement (id : ElementId) {f f' : ElementDeclaration → ElementDeclaration}
    (hf : ∀ e, f' (e.renumber v.renumbering) = (f e).renumber v.renumbering) :
    v.Mirrors { d with set := d.set.modifyElement id f }
      { d' with set := d'.set.modifyElement (id.renumber v.renumbering) f' } :=
  { h with
    within := h.within.trans (.modifyElement _ _ _)
    elements_pace := by
      have := h.elements_pace
      simp only [SchemaSet.modifyElement, Array.size_modify]
      omega
    elements := h.elements.modify v.renumbering.element.injective id.index hf }

theorem modifyAttribute (id : AttributeId) {f f' : AttributeDeclaration → AttributeDeclaration}
    (hf : ∀ a, f' (a.renumber v.renumbering) = (f a).renumber v.renumbering) :
    v.Mirrors { d with set := d.set.modifyAttribute id f }
      { d' with set := d'.set.modifyAttribute (id.renumber v.renumbering) f' } :=
  { h with
    within := h.within.trans (.modifyAttribute _ _ _)
    attributes_pace := by
      have := h.attributes_pace
      simp only [SchemaSet.modifyAttribute, Array.size_modify]
      omega
    attributes := h.attributes.modify v.renumbering.attr.injective id.index hf }

end Mirrors

/-! ## Steps -/

section Rules

variable {α β γ δ : Type}

/-- A step adds components, and takes none away. -/
def Grows (x : DraftM α) : Prop := ∀ set : SchemaSet, Keeps (fun d => set.Within d.set) x

/-- If a step succeeds with what has been read from the first draft, so does another one with what
has been read from the second draft; the result is that of the first one, changed by `f`. -/
structure Follows (v : Rereading) (f : α → β) (x : DraftM α) (x' : DraftM β) : Prop where
  grows : Grows x
  follows : ∀ d d' a e, v.Mirrors d d' → x.run.run d = (.ok a, e) → e.set.Within v.last →
    ∃ e', x'.run.run d' = (.ok (f a), e') ∧ v.Mirrors e e'

/-- What a draft has is still there after a step that grows. -/
theorem Grows.within {x : DraftM α} (h : Grows x) {d e : Draft} {r : Except Error α}
    (hrun : x.run.run d = (r, e)) : d.set.Within e.set := by
  have hkeeps := h d.set d (.refl _)
  unfold Ends Passes at hkeeps
  rwa [hrun] at hkeeps

theorem follows_pure {f : α → β} {a : α} {b : β} (h : b = f a) : v.Follows f (pure a) (pure b) where
  grows _ := keeps_pure a
  follows d d' _ _ hd hrun _ := by
    cases hrun
    exact ⟨d', h ▸ rfl, hd⟩

/-- Nothing is asked of what comes instead of a failure. -/
theorem follows_throw {f : α → β} {e : Error} {x' : DraftM β} : v.Follows f (throw e) x' where
  grows _ := keeps_throw e
  follows _ _ _ _ _ hrun _ := by cases hrun

/-- Nothing goes on after a failure. -/
theorem follows_throw_bind {f : γ → δ} {e : Error} {k : α → DraftM γ} {x' : DraftM δ} :
    v.Follows f ((throw e : DraftM α) >>= k) x' :=
  follows_throw

theorem follows_bind {f : α → β} {g : γ → δ} {x : DraftM α} {x' : DraftM β} {k : α → DraftM γ}
    {k' : β → DraftM δ} (hx : v.Follows f x x') (hk : ∀ a, v.Follows g (k a) (k' (f a))) :
    v.Follows g (x >>= k) (x' >>= k') where
  grows set := (hx.grows set).bind fun a => (hk a).grows set
  follows d d' c e hd hrun hlast := by
    obtain ⟨a, d₁, hrun₁, hrun⟩ := run_bind_eq_ok_iff.mp hrun
    -- The first step adds no more than both.
    obtain ⟨d₁', hrun₁', hd₁⟩ := hx.follows d d' a d₁ hd hrun₁
      (((hk a).grows.within hrun).trans hlast)
    obtain ⟨e', hrun', he⟩ := (hk a).follows d₁ d₁' c e hd₁ hrun hlast
    exact ⟨e', run_bind_eq_ok_iff.mpr ⟨f a, d₁', hrun₁', hrun'⟩, he⟩

/-- What goes on after a step that changes nothing may depend on all that is known of its result. -/
theorem follows_look {R : α → β → Prop} {g : γ → δ} {x : DraftM α} {x' : DraftM β}
    {k : α → DraftM γ} {k' : β → DraftM δ} (hgrows : Grows (x >>= k))
    (hx : ∀ d d' a e, v.Mirrors d d' → x.run.run d = (.ok a, e) →
      e = d ∧ ∃ b, x'.run.run d' = (.ok b, d') ∧ R a b)
    (hk : ∀ a b, R a b → v.Follows g (k a) (k' b)) : v.Follows g (x >>= k) (x' >>= k') where
  grows := hgrows
  follows d d' c e hd hrun hlast := by
    obtain ⟨a, d₁, hrun₁, hrunk⟩ := run_bind_eq_ok_iff.mp hrun
    obtain ⟨rfl, b, hrun₁', hR⟩ := hx d d' a d₁ hd hrun₁
    obtain ⟨e', hrun', he⟩ := (hk a b hR).follows d₁ d' c e hd hrunk hlast
    exact ⟨e', run_bind_eq_ok_iff.mpr ⟨b, d', hrun₁', hrun'⟩, he⟩

/-- A step that changes nothing may have no counterpart. -/
theorem follows_look_left {R : α → Prop} {g : γ → δ} {x : DraftM α} {k : α → DraftM γ}
    {y' : DraftM δ} (hgrows : Grows (x >>= k))
    (hx : ∀ d d' a e, v.Mirrors d d' → x.run.run d = (.ok a, e) → e = d ∧ R a)
    (hk : ∀ a, R a → v.Follows g (k a) y') : v.Follows g (x >>= k) y' := by
  rw [← pure_bind (m := DraftM) () fun _ => y']
  refine follows_look (R := fun a _ => R a) hgrows (fun d d' a e hd hrun => ?_)
    fun a _ ha => hk a ha
  obtain ⟨rfl, hR⟩ := hx d d' a e hd hrun
  exact ⟨rfl, (), rfl, hR⟩

theorem follows_get {g : γ → δ} {k : Draft → DraftM γ} {k' : Draft → DraftM δ}
    (hk : ∀ d d', v.Mirrors d d' → v.Follows g (k d) (k' d')) (hgrows : Grows (get >>= k)) :
    v.Follows g (get >>= k) (get >>= k') :=
  follows_look (R := v.Mirrors) hgrows (fun d d' _ _ hd hrun => by
    cases hrun
    exact ⟨rfl, d', rfl, hd⟩) hk

theorem follows_map {f : α → β} {g : α → γ} {h : β → δ} {i : γ → δ} {x : DraftM α} {x' : DraftM β}
    (hx : v.Follows f x x') (hcomm : ∀ a, h (f a) = i (g a)) :
    v.Follows i (g <$> x) (h <$> x') := by
  rw [map_eq_pure_bind, map_eq_pure_bind]
  exact follows_bind hx fun a => follows_pure (hcomm a)

/-- A computation without state is only asked to succeed. -/
theorem follows_lift {f : α → β} {x : Except Error α} {x' : Except Error β}
    (h : ∀ a, x = .ok a → x' = .ok (f a)) :
    v.Follows f (liftM x : DraftM α) (liftM x' : DraftM β) where
  grows _ := keeps_liftExcept x
  follows d d' a e hd hrun _ := by
    cases hx : x with
    | error failure =>
      rw [hx] at hrun
      cases hrun
    | ok found =>
      rw [hx] at hrun
      cases hrun
      rw [h a hx]
      exact ⟨d', rfl, hd⟩

theorem follows_modify {f f' : Draft → Draft} (hgrows : ∀ d : Draft, d.set.Within (f d).set)
    (h : ∀ d d', v.Mirrors d d' → v.Mirrors (f d) (f' d')) :
    v.Follows (fun u => u) (modify f : DraftM PUnit) (modify f') where
  grows _ := keeps_modify fun d hd => SchemaSet.Within.trans hd (hgrows d)
  follows d d' _ _ hd hrun _ := by
    cases hrun
    exact ⟨f' d', rfl, h d d' hd⟩

/-- The same case is taken on both sides. -/
theorem follows_ite {f : α → β} {c c' : Prop} [Decidable c] [Decidable c'] (hc : c ↔ c')
    {x y : DraftM α} {x' y' : DraftM β} (hx : c → v.Follows f x x') (hy : ¬ c → v.Follows f y y') :
    v.Follows f (if c then x else y) (if c' then x' else y') := by
  by_cases h : c
  · rw [if_pos h, if_pos (hc.mp h)]
    exact hx h
  · rw [if_neg h, if_neg (mt hc.mpr h)]
    exact hy h

/-- Steps one after the other. -/
theorem follows_mapM {ι : Type} {f : α → β} {x : ι → DraftM α} {x' : ι → DraftM β} (is : List ι)
    (h : ∀ i ∈ is, v.Follows f (x i) (x' i)) :
    v.Follows (List.map f) (is.mapM x) (is.mapM x') := by
  induction is with
  | nil => exact follows_pure rfl
  | cons i is ih =>
    rw [List.mapM_cons, List.mapM_cons]
    refine follows_bind (h i List.mem_cons_self) fun a => ?_
    exact follows_bind (ih fun j hj => h j (List.mem_cons_of_mem i hj)) fun as => follows_pure rfl

end Rules

/-! ## Single steps -/

section Steps

open DraftM

theorem follows_report (level level' : Log.Level) (text text' : String) :
    v.Follows (fun u => u) (report level text) (report level' text') :=
  follows_modify (fun _ => .refl _) fun _ _ hd => hd.withLog _ _

theorem follows_await (id : TypeId) (inheritance : Inheritance) :
    v.Follows (fun u => u) (await id inheritance)
      (await (id.renumber v.renumbering) inheritance) :=
  follows_modify (fun _ => .refl _) fun _ _ hd => hd.await id inheritance

theorem follows_defineType (id base : TypeId) (kind : TypeKind) :
    v.Follows (fun u => u) (defineType id base kind)
      (defineType (id.renumber v.renumbering) (base.renumber v.renumbering)
        (kind.renumber v.renumbering)) :=
  follows_modify (fun _ => .modifyType _ _ _) fun _ _ hd => hd.defineType id base kind

/-- Both drafts are given a type, and the types are at the same place but for the renumbering. -/
theorem follows_newType (name : Option String) {context context' : Context}
    (hcontext : context.Alike context') (kind : TypeKind) :
    v.Follows (TypeId.renumber v.renumbering) (newType name context kind)
      (newType name context' (kind.renumber v.renumbering)) where
  grows _ := fun _ hd => hd.trans (.addType _ _)
  follows d d' id e hd hrun hlast := by
    obtain ⟨rfl, rfl⟩ := (returns_newType_eq name context kind).of_run hrun
    have hsize : d.set.types.size < v.last.types.size :=
      Nat.lt_of_lt_of_le (by simp [SchemaSet.addType]) hlast.types
    have hM := hd.addType ⟨name, context.targetNamespace, SchemaSet.anyType, kind⟩ hsize
    refine ⟨_, ?_, hM⟩
    have hid : (⟨d'.set.types.size⟩ : TypeId) = TypeId.renumber v.renumbering ⟨d.set.types.size⟩ :=
      congrArg TypeId.mk (hd.renumber_nextType hsize).symm
    simp only [TypeDefinition.renumber, renumber_anyType]
    rw [← hcontext.targetNamespace]
    exact congrArg (fun id => (Except.ok id, _)) hid

theorem follows_newElement (name namespaceUri : String) (isGlobal : Bool) :
    v.Follows (ElementId.renumber v.renumbering) (newElement name namespaceUri isGlobal)
      (newElement name namespaceUri isGlobal) where
  grows _ := fun _ hd => hd.trans (.addElement _ _)
  follows d d' id e hd hrun hlast := by
    obtain ⟨rfl, rfl⟩ := (returns_newElement_eq name namespaceUri isGlobal).of_run hrun
    have hsize : d.set.elements.size < v.last.elements.size :=
      Nat.lt_of_lt_of_le (by simp [SchemaSet.addElement]) hlast.elements
    have hM := hd.addElement
      ⟨name, namespaceUri, SchemaSet.anyType, none, none, false, isGlobal⟩ hsize
    refine ⟨_, ?_, hM⟩
    have hid : (⟨d'.set.elements.size⟩ : ElementId) =
        ElementId.renumber v.renumbering ⟨d.set.elements.size⟩ :=
      congrArg ElementId.mk (hd.renumber_nextElement hsize).symm
    simp only [ElementDeclaration.renumber, renumber_anyType]
    exact congrArg (fun id => (Except.ok id, _)) hid

theorem follows_newAttribute (name namespaceUri : String) (isGlobal : Bool) :
    v.Follows (AttributeId.renumber v.renumbering) (newAttribute name namespaceUri isGlobal)
      (newAttribute name namespaceUri isGlobal) where
  grows _ := fun _ hd => hd.trans (.addAttribute _ _)
  follows d d' id e hd hrun hlast := by
    obtain ⟨rfl, rfl⟩ := (returns_newAttribute_eq name namespaceUri isGlobal).of_run hrun
    have hsize : d.set.attributes.size < v.last.attributes.size :=
      Nat.lt_of_lt_of_le (by simp [SchemaSet.addAttribute]) hlast.attributes
    have hM := hd.addAttribute ⟨name, namespaceUri, SchemaSet.anyType, none, none, isGlobal⟩ hsize
    refine ⟨_, ?_, hM⟩
    have hid : (⟨d'.set.attributes.size⟩ : AttributeId) =
        AttributeId.renumber v.renumbering ⟨d.set.attributes.size⟩ :=
      congrArg AttributeId.mk (hd.renumber_nextAttribute hsize).symm
    simp only [AttributeDeclaration.renumber, renumber_anyType]
    exact congrArg (fun id => (Except.ok id, _)) hid

end Steps

end Rereading

end SchemaBinding.Xsd
