import Mathlib.Tactic.SplitIfs
import SchemaBinding.Proofs.Xsd.Renumbering
import SchemaBinding.Proofs.Xsd.Rereading

/-!
# Components that change places

Components that are added in two steps come to stand in the other order when the steps are taken the
other way round. The components that have been there before keep their places, and so do those that
are added later. A component that refers only to such as keep their places says the same.

## Main definitions

* `exchange`: two blocks of places one after the other, in the other order
* `Renumbering.exchange`: the components that are added in two steps, in the other order
* `Renumbering.Fixes`: all components of a set keep their places
* `TypeDefinition.Closed`: a type that refers to components of a set

## Main results

* `exchange_of_lt`, `exchange_of_left`, …: the other places
* `TypeDefinition.Closed.renumber_eq`: a type whose references keep their places
-/

namespace SchemaBinding.Xsd

/-! ## Blocks of places -/

/-- The `p` places from `n` come after the `q` places that have come after them. -/
def exchange (n p q : Nat) : Equiv.Perm Nat where
  toFun i := if i < n then i else if i < n + p then i + q else if i < n + p + q then i - p else i
  invFun i := if i < n then i else if i < n + q then i + p else if i < n + q + p then i - q else i
  left_inv i := by
    dsimp only
    split_ifs <;> omega
  right_inv i := by
    dsimp only
    split_ifs <;> omega

section Exchange

variable {n p q i : Nat}

/-- Places before both blocks stay, those of the first block are moved up by the length of the
second one, and those of the second one down by that of the first one. -/
theorem exchange_apply : exchange n p q i =
    if i < n then i else if i < n + p then i + q else if i < n + p + q then i - p else i :=
  rfl

/-- What comes before both blocks keeps its place. -/
theorem exchange_of_lt (h : i < n) : exchange n p q i = i := by
  rw [exchange_apply, if_pos h]

/-- The first block comes after the second one. -/
theorem exchange_of_left (h : n ≤ i) (h' : i < n + p) : exchange n p q i = i + q := by
  rw [exchange_apply, if_neg (by omega), if_pos h']

/-- The second block comes before the first one. -/
theorem exchange_of_right (h : n + p ≤ i) (h' : i < n + p + q) : exchange n p q i + p = i := by
  rw [exchange_apply, if_neg (by omega), if_neg (by omega), if_pos h']
  omega

/-- What comes after both blocks keeps its place. -/
theorem exchange_of_le (h : n + p + q ≤ i) : exchange n p q i = i := by
  rw [exchange_apply, if_neg (by omega), if_neg (by omega), if_neg (by omega)]

end Exchange

namespace Renumbering

/-- The components that `second` has and `first` has not come before those that `first` has and
`set` has not. -/
def exchange (set first second : SchemaSet) (h : 2 ≤ set.types.size) : Renumbering where
  type := Xsd.exchange set.types.size (first.types.size - set.types.size)
    (second.types.size - first.types.size)
  element := Xsd.exchange set.elements.size (first.elements.size - set.elements.size)
    (second.elements.size - first.elements.size)
  attr := Xsd.exchange set.attributes.size (first.attributes.size - set.attributes.size)
    (second.attributes.size - first.attributes.size)
  type_zero := exchange_of_lt (by omega)
  type_one := exchange_of_lt (by omega)

/-- All components of a set keep their places. -/
structure Fixes (ρ : Renumbering) (set : SchemaSet) : Prop where
  type : ∀ id, set.HasType id → id.renumber ρ = id
  element : ∀ id, set.HasElement id → id.renumber ρ = id
  attr : ∀ id, set.HasAttribute id → id.renumber ρ = id

/-- All places at which a set has no components stay as they are. -/
structure FixesBeyond (ρ : Renumbering) (set : SchemaSet) : Prop where
  type : ∀ i, set.types.size ≤ i → ρ.type i = i
  element : ∀ i, set.elements.size ≤ i → ρ.element i = i
  attr : ∀ i, set.attributes.size ≤ i → ρ.attr i = i

variable {ρ : Renumbering} {set set' first second : SchemaSet}

theorem FixesBeyond.of_within (h : ρ.FixesBeyond set) (hset : set.Within set') :
    ρ.FixesBeyond set' where
  type i hi := h.type i (Nat.le_trans hset.types hi)
  element i hi := h.element i (Nat.le_trans hset.elements hi)
  attr i hi := h.attr i (Nat.le_trans hset.attributes hi)

/-- What has been there before both blocks keeps its place. -/
theorem fixes_exchange (h : 2 ≤ set.types.size) :
    (exchange set first second h).Fixes set where
  type _ hid := congrArg TypeId.mk (exchange_of_lt hid)
  element _ hid := congrArg ElementId.mk (exchange_of_lt hid)
  attr _ hid := congrArg AttributeId.mk (exchange_of_lt hid)

/-- What comes after both blocks keeps its place. -/
theorem fixesBeyond_exchange (h : 2 ≤ set.types.size) (hfirst : set.Within first)
    (hsecond : first.Within second) : (exchange set first second h).FixesBeyond second where
  type i hi := exchange_of_le (by have := hfirst.types; have := hsecond.types; omega)
  element i hi := exchange_of_le (by have := hfirst.elements; have := hsecond.elements; omega)
  attr i hi := exchange_of_le (by have := hfirst.attributes; have := hsecond.attributes; omega)

end Renumbering

/-! ## References that stay -/

/-- A type that refers to components of a set. -/
structure TypeDefinition.Closed (set : SchemaSet) (t : TypeDefinition) : Prop where
  base : set.HasType t.base
  simple : ∀ definition, t.kind = .simple definition → definition.Closed set
  complex : ∀ definition, t.kind = .complex definition → definition.Closed set

theorem TypeDefinition.Closed.mono {set set' : SchemaSet} (h : set.Grows set') {t : TypeDefinition}
    (ht : t.Closed set) : t.Closed set' where
  base := h.hasType _ ht.base
  simple definition hk := (ht.simple definition hk).mono h
  complex definition hk := (ht.complex definition hk).mono h

section Closed

variable {ρ : Renumbering} {set : SchemaSet}

mutual

/-- A particle is not changed if the elements in it keep their places. -/
theorem Particle.renumber_eq (h : ρ.Fixes set) (p : Particle)
    (hp : ∀ occurs e, (occurs, e) ∈ p.elements → set.HasElement e) : p.renumber ρ = p := by
  cases p with
  | element occurs id =>
    rw [renumber, h.element id (hp occurs id List.mem_cons_self)]
  | group occurs compositor children =>
    rw [renumber, Particle.renumberAll_eq h children hp]
  | wildcard occurs => rfl

theorem Particle.renumberAll_eq (h : ρ.Fixes set) (ps : List Particle)
    (hps : ∀ occurs e, (occurs, e) ∈ elementsAmong ps → set.HasElement e) :
    renumberAll ρ ps = ps := by
  cases ps with
  | nil => rfl
  | cons p ps =>
    rw [renumberAll, Particle.renumber_eq h p fun occurs e he => hps occurs e ?_,
      Particle.renumberAll_eq h ps fun occurs e he => hps occurs e ?_]
    · exact List.mem_append.mpr (.inr he)
    · exact List.mem_append.mpr (.inl he)

end

variable (h : ρ.Fixes set)
include h

/-- Content is not changed if the components that it refers to keep their places. -/
theorem Content.Closed.renumber_eq {content : Content} (hc : content.Closed set) :
    content.renumber ρ = content := by
  cases content with
  | empty => rfl
  | simple type =>
    have htype : set.IsSimple type := hc
    rw [renumber, h.type type htype.hasType]
  | particle p => rw [renumber, Particle.renumber_eq h p hc.2]

theorem SimpleType.Closed.renumber_eq {definition : SimpleType} (hd : definition.Closed set) :
    definition.variety.renumber ρ = definition.variety := by
  obtain ⟨variety, facets⟩ := definition
  cases variety with
  | atomic => rfl
  | list item =>
    have hitem : set.IsSimple item := hd
    exact congrArg Variety.list (h.type item hitem.hasType)
  | union members =>
    have hmembers : ∀ member ∈ members, set.IsSimple member := hd
    exact congrArg Variety.union <| List.map_congr_left
      (fun member hm => h.type member (hmembers member hm).hasType) |>.trans (List.map_id _)

theorem ComplexType.Closed.renumber_eq {definition : ComplexType} (hd : definition.Closed set) :
    definition.renumber ρ = definition := by
  obtain ⟨hscope, hcontent, hexplicit, huses⟩ := hd
  obtain ⟨scope, derivation, explicitContent, content, uses, mixed⟩ := definition
  dsimp only at hscope hcontent hexplicit huses
  have hscope : scope.map (ElementId.renumber ρ) = scope := by
    cases scope with
    | none => rfl
    | some e => exact congrArg some (h.element e (hscope e rfl))
  have hexplicit : explicitContent.map (Content.renumber ρ) = explicitContent := by
    cases explicitContent with
    | none => rfl
    | some content => exact congrArg some (Content.Closed.renumber_eq h (hexplicit content rfl))
  have huses : uses.map (AttributeUse.renumber ρ) = uses := by
    refine (List.map_congr_left fun use huse => ?_).trans (List.map_id uses)
    show { use with declaration := use.declaration.renumber ρ } = use
    rw [h.attr _ (huses use huse)]
  simp only [renumber, hscope, hexplicit, huses, Content.Closed.renumber_eq h hcontent]

/-- A definition is not changed if the components that it refers to keep their places. -/
theorem TypeDefinition.Closed.renumber_eq {t : TypeDefinition} (ht : t.Closed set) :
    t.renumber ρ = t := by
  obtain ⟨hbase, hsimple, hcomplex⟩ := ht
  obtain ⟨name, namespaceUri, base, kind⟩ := t
  dsimp only at hbase hsimple hcomplex
  cases kind with
  | simple definition =>
    simp only [renumber, TypeKind.renumber, h.type base hbase,
      SimpleType.Closed.renumber_eq h (hsimple definition rfl)]
  | complex definition =>
    simp only [renumber, TypeKind.renumber, h.type base hbase,
      ComplexType.Closed.renumber_eq h (hcomplex definition rfl)]

end Closed

end SchemaBinding.Xsd
