import SchemaBinding.Proofs.Repository.Publication

/-!
# What published types reach

A published type mentions types that were made before it was published, and these do the same. So
nothing that is made later is ever reached from it.

## Main definitions

* `Store.Encloses`: a type from which nothing is reached that is not in the store
* `Repository.Closed`: the invariant

## Main results

* `Binding.Sound.encloses_of_held`: what may be mentioned in a build
* `Closed.build`, `Reachable.closed`: the invariant at each compilation, and at all times
-/

namespace SchemaBinding

open Repository (Registry Scope Store TypeRef)

/-- All that is reached from a type is in the store. -/
def Repository.Store.Encloses (store : Store) (t : TypeRef) : Prop :=
  ∀ u, store.Reaches t u → store.Has u

/-- What is enclosed in a store is enclosed in one that has grown from it. -/
theorem Repository.Store.Encloses.grow {store store' : Store} {t : TypeRef}
    (h : store.Encloses t) (hg : store.Grows none store') : store'.Encloses t :=
  fun u hu => hg.has u (h u (hg.reaches h hu))

namespace Binding

variable {registry : Registry} {store : Store} {scope : Scope} {t u : TypeRef}

/-- What may be mentioned is in the store. -/
theorem Held.has (h : Held registry store scope t) : store.Has t := by
  cases h with
  | wrapped hhas _ _ => exact hhas
  | settled hs =>
    cases hs with
    | primitive p => trivial
    | known hhas _ => exact hhas
    | superseded hhas _ _ _ => exact hhas

/-- What is reached in a build may be mentioned, or is reached from a published type. -/
theorem Sound.held_or_published (h : Sound registry store scope)
    (ht : Held registry store scope t) (hu : store.Reaches t u) :
    Held registry store scope u ∨ ∃ n p, registry.type? n = some p ∧ store.Reaches p u := by
  induction hu with
  | refl => exact .inl ht
  | @step u v _ hv ih =>
    rcases ih with hheld | ⟨n, p, hp, hpu⟩
    · cases hheld with
      | wrapped _ _ hitem =>
        cases hv
        exact .inl (.settled hitem)
      | settled hs =>
        cases hs with
        | primitive p => cases hv
        | known _ hl =>
          rcases lookup?_eq_some_iff.mp hl with hg | ⟨-, hl⟩
          · -- From here on, all is reached from a published type.
            have hp := (Registry.visible?_eq_some_iff.mp hg).1
            exact .inr ⟨_, u, hp, .step .refl hv⟩
          · exact .inl (h.closed _ u v hl hv)
        | superseded _ hf hsuper _ =>
          rcases hv with _ | hs | hm | _
          · rw [hsuper] at hs
            cases hs
          · rw [hf] at hm
            cases hm
    · exact .inr ⟨n, p, hp, .step hpu hv⟩

/-- If published types are enclosed in the store, so is all that may be mentioned. -/
theorem Sound.encloses_of_held (h : Sound registry store scope)
    (hr : ∀ n p, registry.type? n = some p → store.Encloses p)
    (ht : Held registry store scope t) : store.Encloses t := by
  intro u hu
  rcases h.held_or_published ht hu with hheld | ⟨n, p, hp, hpu⟩
  · exact hheld.has
  · exact hr n p hp u hpu

end Binding

namespace Repository

open Binding (Request bindSchema)
open Xsd (SchemaSet)

/-- Published types are enclosed in the store. -/
def Closed (r : Repository) : Prop := ∀ n t, r.registry.type? n = some t → r.store.Encloses t

namespace Closed

variable {r : Repository}

/-- What stays published is enclosed as before. -/
theorem remove (h : Closed r) (name : String) : Closed (r.remove name).2 := by
  unfold Repository.remove Registry.remove
  cases r.registry.schema? name with
  | none => exact h
  | some removed => exact fun n t ht => h n t (Consistent.get?_withoutTypesOf.mp ht).1

theorem build (h : Closed r) (hr : Consistent r) {set : SchemaSet} (hset : set.Accepted)
    {request : Request}
    (hnew : r.registry.schema? request.name = none ∨ request.override = true)
    (source : Xsd.Schema) (log : Log) : Closed (Binding.build r request set source log).2.1 := by
  let log' := log.add .debug s!"compiling schema {request.name} from {source.namespaceUri}"
  obtain ⟨hadv, -⟩ := hr.binds_bindSchema hset request source log'
  have hs := hr.sound_bindSchema hset request source log'
  let schema := (bindSchema ⟨set, r.registry⟩ r.store request source log').1
  let grown : Repository :=
    { r with store := (bindSchema ⟨set, r.registry⟩ r.store request source log').2.store }
  have hgrown : ∀ n t, r.registry.type? n = some t → grown.store.Encloses t :=
    fun n t ht => (h n t ht).grow hadv.grows.store
  have hreg : ∀ log, (grown.register schema request.override log).2.1 = _ :=
    (hr.grow hadv.grows.store).register_eq hs hnew
  show Closed (grown.register schema request.override _).2.1
  rw [hreg]
  intro n t ht
  rw [Registry.type?, OrderedMap.get?_foldl_insert] at ht
  rcases Option.or_eq_some_iff.mp ht with ht | ⟨-, ht⟩
  · exact hs.encloses_of_held hgrown (.settled (hs.settled_of_lookupLocal? ht))
  · exact hgrown n t ((hr.grow hadv.grows.store).get?_remaining.mp ht).1

end Closed

/-- Nothing that is made later is reached from a published type. -/
theorem Reachable.closed {r : Repository} (h : Reachable r) : Closed r := by
  induction h with
  | empty => exact nofun
  | compile limits request log hr hset ih =>
    exact compile_of_build ih fun source hnew => ih.build hr.consistent hset hnew source log
  | remove name _ ih => exact ih.remove name
  | clear _ _ => exact nofun

end Repository

end SchemaBinding
