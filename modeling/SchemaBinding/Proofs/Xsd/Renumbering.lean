import Mathlib.Logic.Equiv.Defs
import SchemaBinding.Proofs.Xsd.References

/-!
# The same components under other numbers

Components refer to each other by their places. In another set the same components may stand at
other places; all that they say is then the same but for the places that they refer to.

## Main definitions

* `Renumbering`: other places for components, kind by kind
* `TypeDefinition.renumber`, `ElementDeclaration.renumber`, …: components that refer to other places
* `Tracks`: what stands in one array stands in another one, at other places

## Main results

* `Tracks.push`, `Tracks.modify`: the same changes of both arrays
* `TypeDefinition.renumber_refl`, …: what refers to the same places is the same
-/

namespace SchemaBinding.Xsd

/-- Other places for the components of each kind. The two roots of the types keep theirs. -/
structure Renumbering where
  type : Equiv.Perm Nat
  element : Equiv.Perm Nat
  attr : Equiv.Perm Nat
  type_zero : type 0 = 0
  type_one : type 1 = 1

/-- All places stay as they are. -/
def Renumbering.refl : Renumbering := ⟨Equiv.refl _, Equiv.refl _, Equiv.refl _, rfl, rfl⟩

variable (ρ : Renumbering)

/-! ## Identifiers -/

/-- The type at its other place. -/
def TypeId.renumber (id : TypeId) : TypeId := ⟨ρ.type id.index⟩

/-- The element at its other place. -/
def ElementId.renumber (id : ElementId) : ElementId := ⟨ρ.element id.index⟩

/-- The attribute at its other place. -/
def AttributeId.renumber (id : AttributeId) : AttributeId := ⟨ρ.attr id.index⟩

@[simp] theorem TypeId.index_renumber (id : TypeId) : (id.renumber ρ).index = ρ.type id.index := rfl

@[simp] theorem ElementId.index_renumber (id : ElementId) :
    (id.renumber ρ).index = ρ.element id.index := rfl

@[simp] theorem AttributeId.index_renumber (id : AttributeId) :
    (id.renumber ρ).index = ρ.attr id.index := rfl

/-- Different types are at different other places. -/
@[simp] theorem TypeId.renumber_inj {id id' : TypeId} :
    id.renumber ρ = id'.renumber ρ ↔ id = id' := by
  cases id
  cases id'
  simp [TypeId.renumber]

@[simp] theorem ElementId.renumber_inj {id id' : ElementId} :
    id.renumber ρ = id'.renumber ρ ↔ id = id' := by
  cases id
  cases id'
  simp [ElementId.renumber]

@[simp] theorem AttributeId.renumber_inj {id id' : AttributeId} :
    id.renumber ρ = id'.renumber ρ ↔ id = id' := by
  cases id
  cases id'
  simp [AttributeId.renumber]

/-- The root of all types is built in, so it keeps its place. -/
@[simp] theorem renumber_anyType : SchemaSet.anyType.renumber ρ = SchemaSet.anyType :=
  congrArg TypeId.mk ρ.type_zero

@[simp] theorem renumber_anySimpleType :
    SchemaSet.anySimpleType.renumber ρ = SchemaSet.anySimpleType :=
  congrArg TypeId.mk ρ.type_one

/-! ## Components -/

mutual

/-- The particle with its elements at their other places. -/
def Particle.renumber : Particle → Particle
  | .element occurs id => .element occurs (id.renumber ρ)
  | .group occurs compositor children => .group occurs compositor (renumberAll children)
  | .wildcard occurs => .wildcard occurs

/-- Some particles with their elements at their other places. -/
def Particle.renumberAll : List Particle → List Particle
  | [] => []
  | p :: ps => p.renumber :: renumberAll ps

end

@[simp] theorem Particle.renumberAll_eq_map (ps : List Particle) :
    Particle.renumberAll ρ ps = ps.map (Particle.renumber ρ) := by
  induction ps with
  | nil => rfl
  | cons p ps ih => rw [renumberAll, ih, List.map_cons]

/-- The bounds of a particle have nothing to do with the places of components. -/
@[simp] theorem Particle.renumber_withOccurs (p : Particle) (occurs : Occurs) :
    (p.withOccurs occurs).renumber ρ = (p.renumber ρ).withOccurs occurs := by
  cases p <;> rfl

/-- The content with what it refers to at its other places. -/
def Content.renumber : Content → Content
  | .empty => .empty
  | .simple type => .simple (type.renumber ρ)
  | .particle p => .particle (p.renumber ρ)

/-- The variety with the types of its items or members at their other places. -/
def Variety.renumber : Variety → Variety
  | .atomic => .atomic
  | .list item => .list (item.renumber ρ)
  | .union members => .union (members.map (TypeId.renumber ρ))

/-- The use of an attribute at its other place. -/
def AttributeUse.renumber (u : AttributeUse) : AttributeUse :=
  { u with declaration := u.declaration.renumber ρ }

/-- The complex type with what it refers to at its other places. -/
def ComplexType.renumber (c : ComplexType) : ComplexType :=
  { c with
    scope := c.scope.map (ElementId.renumber ρ)
    explicitContent := c.explicitContent.map (Content.renumber ρ)
    content := c.content.renumber ρ
    attributes := c.attributes.map (AttributeUse.renumber ρ) }

/-- The kind with what it refers to at its other places. -/
def TypeKind.renumber : TypeKind → TypeKind
  | .simple s => .simple { s with variety := s.variety.renumber ρ }
  | .complex c => .complex (c.renumber ρ)

/-- The type with what it refers to at its other places. -/
def TypeDefinition.renumber (t : TypeDefinition) : TypeDefinition :=
  { t with base := t.base.renumber ρ, kind := t.kind.renumber ρ }

/-- The element with its type at its other place. -/
def ElementDeclaration.renumber (e : ElementDeclaration) : ElementDeclaration :=
  { e with type := e.type.renumber ρ }

/-- The attribute with its type at its other place. -/
def AttributeDeclaration.renumber (a : AttributeDeclaration) : AttributeDeclaration :=
  { a with type := a.type.renumber ρ }

@[simp] theorem TypeKind.isSimple_renumber (kind : TypeKind) :
    (kind.renumber ρ).isSimple = kind.isSimple := by
  cases kind <;> rfl

@[simp] theorem TypeDefinition.isSimple_renumber (t : TypeDefinition) :
    (t.renumber ρ).isSimple = t.isSimple := by
  rw [isSimple_eq, isSimple_eq]
  exact t.kind.isSimple_renumber ρ

/-! ## The same places -/

section Refl

@[simp] theorem TypeId.renumber_refl (id : TypeId) : id.renumber .refl = id := rfl

@[simp] theorem ElementId.renumber_refl (id : ElementId) : id.renumber .refl = id := rfl

@[simp] theorem AttributeId.renumber_refl (id : AttributeId) : id.renumber .refl = id := rfl

mutual

theorem Particle.renumber_refl (p : Particle) : p.renumber .refl = p := by
  cases p with
  | element occurs id => rfl
  | group occurs compositor children =>
    rw [renumber, renumberAll_refl]
  | wildcard occurs => rfl

theorem Particle.renumberAll_refl (ps : List Particle) : Particle.renumberAll .refl ps = ps := by
  cases ps with
  | nil => rfl
  | cons p ps => rw [renumberAll, p.renumber_refl, renumberAll_refl]

end

theorem Content.renumber_refl (content : Content) : content.renumber .refl = content := by
  cases content with
  | empty | simple => rfl
  | particle p => rw [renumber, p.renumber_refl]

theorem TypeKind.renumber_refl (kind : TypeKind) : kind.renumber .refl = kind := by
  cases kind with
  | simple s =>
    obtain ⟨variety, facets⟩ := s
    cases variety with
    | atomic | list => rfl
    | union members => simp [renumber, Variety.renumber, List.map_id'' TypeId.renumber_refl]
  | complex c =>
    have hcontent : Content.renumber .refl = id := funext Content.renumber_refl
    have hscope : ElementId.renumber .refl = id := rfl
    have huse : AttributeUse.renumber .refl = id := rfl
    simp [renumber, ComplexType.renumber, hcontent, hscope, huse]

theorem TypeDefinition.renumber_refl (t : TypeDefinition) : t.renumber .refl = t := by
  rw [renumber, TypeId.renumber_refl, TypeKind.renumber_refl]

@[simp] theorem ElementDeclaration.renumber_refl (e : ElementDeclaration) : e.renumber .refl = e :=
  rfl

@[simp] theorem AttributeDeclaration.renumber_refl (a : AttributeDeclaration) :
    a.renumber .refl = a := rfl

end Refl

/-! ## One renumbering after another -/

/-- The places that the second renumbering gives to those of the first one. -/
def Renumbering.trans (ρ σ : Renumbering) : Renumbering where
  type := ρ.type.trans σ.type
  element := ρ.element.trans σ.element
  attr := ρ.attr.trans σ.attr
  type_zero := (congrArg σ.type ρ.type_zero).trans σ.type_zero
  type_one := (congrArg σ.type ρ.type_one).trans σ.type_one

section Trans

variable (σ : Renumbering)

@[simp] theorem TypeId.renumber_trans (id : TypeId) :
    id.renumber (ρ.trans σ) = (id.renumber ρ).renumber σ := rfl

@[simp] theorem ElementId.renumber_trans (id : ElementId) :
    id.renumber (ρ.trans σ) = (id.renumber ρ).renumber σ := rfl

@[simp] theorem AttributeId.renumber_trans (id : AttributeId) :
    id.renumber (ρ.trans σ) = (id.renumber ρ).renumber σ := rfl

mutual

theorem Particle.renumber_trans (p : Particle) :
    p.renumber (ρ.trans σ) = (p.renumber ρ).renumber σ := by
  cases p with
  | element occurs id => rfl
  | group occurs compositor children =>
    rw [renumber, renumberAll_trans, renumber, renumber]
  | wildcard occurs => rfl

theorem Particle.renumberAll_trans (ps : List Particle) :
    Particle.renumberAll (ρ.trans σ) ps = Particle.renumberAll σ (Particle.renumberAll ρ ps) := by
  cases ps with
  | nil => rfl
  | cons p ps => rw [renumberAll, p.renumber_trans, renumberAll_trans, renumberAll, renumberAll]

end

theorem Content.renumber_trans (content : Content) :
    content.renumber (ρ.trans σ) = (content.renumber ρ).renumber σ := by
  cases content with
  | empty | simple => rfl
  | particle p => exact congrArg Content.particle (p.renumber_trans ρ σ)

theorem TypeKind.renumber_trans (kind : TypeKind) :
    kind.renumber (ρ.trans σ) = (kind.renumber ρ).renumber σ := by
  cases kind with
  | simple s =>
    obtain ⟨variety, facets⟩ := s
    cases variety with
    | atomic | list => rfl
    | union members => simp [renumber, Variety.renumber]
  | complex c =>
    have hcontent : Content.renumber (ρ.trans σ) = Content.renumber σ ∘ Content.renumber ρ :=
      funext (Content.renumber_trans ρ σ)
    have hscope : ElementId.renumber (ρ.trans σ) = ElementId.renumber σ ∘ ElementId.renumber ρ :=
      rfl
    have huse : AttributeUse.renumber (ρ.trans σ) =
        AttributeUse.renumber σ ∘ AttributeUse.renumber ρ := rfl
    simp [renumber, ComplexType.renumber, hcontent, hscope, huse]

theorem TypeDefinition.renumber_trans (t : TypeDefinition) :
    t.renumber (ρ.trans σ) = (t.renumber ρ).renumber σ := by
  simp only [renumber, TypeId.renumber_trans, TypeKind.renumber_trans]

@[simp] theorem ElementDeclaration.renumber_trans (e : ElementDeclaration) :
    e.renumber (ρ.trans σ) = (e.renumber ρ).renumber σ := rfl

@[simp] theorem AttributeDeclaration.renumber_trans (a : AttributeDeclaration) :
    a.renumber (ρ.trans σ) = (a.renumber ρ).renumber σ := rfl

end Trans

/-! ## Arrays -/

/-- What stands at the tracked places of an array stands in another one at the places that `f`
gives, changed by `g`. -/
def Tracks {α β : Type} (tracked : Nat → Prop) (f : Nat → Nat) (g : α → β) (xs : Array α)
    (ys : Array β) : Prop :=
  ∀ i x, tracked i → xs[i]? = some x → ys[f i]? = some (g x)

namespace Tracks

variable {α β : Type} {tracked : Nat → Prop} {f : Nat → Nat} {g : α → β} {xs : Array α}
  {ys : Array β}

/-- The same is added to both arrays. -/
theorem push (h : Tracks tracked f g xs ys) (hf : f xs.size = ys.size) (x : α) :
    Tracks tracked f g (xs.push x) (ys.push (g x)) := by
  intro i y hi hy
  rw [Array.getElem?_push] at hy ⊢
  by_cases hlast : i = xs.size
  · subst hlast
    rw [if_pos rfl] at hy
    rw [if_pos hf, Option.some.inj hy]
  · rw [if_neg hlast] at hy
    have hget := h i y hi hy
    have hlt : f i < ys.size := (Array.getElem?_eq_some_iff.mp hget).1
    rw [if_neg (Nat.ne_of_lt hlt), hget]

/-- The same is changed in both arrays. -/
theorem modify (h : Tracks tracked f g xs ys) (hf : Function.Injective f) (i : Nat) {u : α → α}
    {u' : β → β} (hu : ∀ x, u' (g x) = g (u x)) :
    Tracks tracked f g (xs.modify i u) (ys.modify (f i) u') := by
  intro j y hj hy
  rw [Array.getElem?_modify] at hy ⊢
  by_cases hij : i = j
  · subst hij
    rw [if_pos rfl] at hy ⊢
    obtain ⟨x, hx, rfl⟩ := Option.map_eq_some_iff.mp hy
    rw [h i x hj hx, Option.map_some, hu]
  · rw [if_neg hij] at hy
    rw [if_neg fun heq => hij (hf heq)]
    exact h j y hj hy

end Tracks

end SchemaBinding.Xsd
