import SchemaBinding.Binding.Loading

/-!
# What definitions mention

The definitions that are bound while the content and the attributes of a complex type are made, each
with the name of the field that it is bound for.

## Main definitions

* `Xsd.Particle.Contains`: the elements among particles
* `particlesOf`: the particles of which the content of a complex type is made
* `Mentions`: the definitions that a definition mentions
-/

namespace SchemaBinding

open Xsd (AttributeUse ElementId Occurs Particle SchemaSet TypeId)

namespace Xsd.Particle

/-- An element is among particles, at any depth. -/
inductive Contains : List Particle → ElementId → Prop
  | element {ps : List Particle} {occurs : Occurs} {e : ElementId} :
      .element occurs e ∈ ps → Contains ps e
  | group {ps children : List Particle} {occurs : Occurs} {compositor : Compositor}
      {e : ElementId} : .group occurs compositor children ∈ ps → Contains children e → Contains ps e

theorem Contains.mono {ps ps' : List Particle} {e : ElementId} (h : Contains ps e)
    (hps : ps ⊆ ps') : Contains ps' e := by
  cases h with
  | element hm => exact .element (hps hm)
  | group hm h => exact .group (hps hm) h

end Xsd.Particle

namespace Binding

open Xsd.Particle (Contains)

/-- The particles of which the content of a complex type is made. -/
def particlesOf (definition : Xsd.ComplexType) : List Particle :=
  match definition.explicitContent.getD definition.content with
  | .particle (.group _ _ children) => children
  | _ => []

/-- A complex type mentions the types of the elements among its particles, and of its attributes,
each under the name of the field. -/
inductive Mentions (set : SchemaSet) (id : TypeId) : TypeId → String → Prop
  | element {definition : Xsd.ComplexType} {e : ElementId} :
      (set.type id).kind = .complex definition → Contains (particlesOf definition) e →
      Mentions set id (set.element e).type (set.element e).name
  | use {definition : Xsd.ComplexType} {hasSuper : Bool} {use : AttributeUse} :
      (set.type id).kind = .complex definition → use ∈ attributesToAdd set id hasSuper →
      Mentions set id (set.attr use.declaration).type (set.attr use.declaration).name

/-- Content is one repeated element just if this is its only particle and may occur more than once.
-/
theorem soleRepeated?_eq_some_iff {children : List Particle} {occurs : Occurs} {e : ElementId} :
    soleRepeated? children = some (occurs, e) ↔
      children = [.element occurs e] ∧ occurs.isMultiple = true := by
  constructor
  · intro h
    unfold soleRepeated? at h
    split at h
    · split at h
      · next hm =>
        cases h
        exact ⟨rfl, hm⟩
      · cases h
    · cases h
  · rintro ⟨rfl, hm⟩
    exact if_pos hm

/-- The one repeated element is among the particles. -/
theorem contains_of_soleRepeated? {children : List Particle} {occurs : Occurs} {e : ElementId}
    (h : soleRepeated? children = some (occurs, e)) : Contains children e := by
  obtain ⟨rfl, -⟩ := soleRepeated?_eq_some_iff.mp h
  exact .element List.mem_cons_self

end Binding

end SchemaBinding
