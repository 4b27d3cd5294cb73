import Mathlib.Data.List.Perm.Subperm
import SchemaBinding.Proofs.Binding.Origins
import SchemaBinding.Proofs.Binding.Succession

/-!
# Accounts of complex types

What has become of the declarations of each complex type that is made while a schema is built, also
of those that are dropped again: each of them is the name of at most one field or of at most one
diagnostic. A ledger says which type has left out which declaration. With the account of a type
comes what is known of its super type.

## Main definitions

* `Xsd.Particle.labels`: the fields that particles stand for
* `Ledger`, `omitted`: which types have left out which declarations
* `Titled`: the names that complex types are opened under
* `Account`: what a complex type has been opened for, and what has become of its declarations
* `Books`: what every part of a build promises of complex types and of diagnostics
* `Settles`, `Charges`: the same for steps between types, and for steps that fill a type

## Main results

* `Account.later`: what is made later makes no difference
* `Books.trans`, `Books.ofKept`, `Books.ofDropped`: one step after the other, a type that has been
  opened, and one that has been dropped
* `Charges.trans`, `Charges.addField`, `Charges.skip`: fields and diagnostics
-/

namespace SchemaBinding

open Repository (ComplexId ComplexType Field ListType Scope SimpleType Store TypeRef)
open Xsd (AttributeUse ElementId Occurs Particle SchemaSet TypeId)

/-! ## The fields that particles stand for -/

namespace Xsd.Particle

mutual

/-- The fields that a particle stands for in the type that it belongs to: one for each element,
under its name, and one without a name for each repeated group. -/
def labels (set : SchemaSet) : Particle → List (Option String)
  | .element _ e => [some (set.element e).name]
  | .group occurs _ children => if occurs.isMultiple then [none] else labelsAmong set children
  | .wildcard _ => []

/-- The fields that particles stand for, in order. -/
def labelsAmong (set : SchemaSet) : List Particle → List (Option String)
  | [] => []
  | p :: ps => p.labels set ++ labelsAmong set ps

end

mutual

/-- The repeated groups in a particle at any depth, each with its particles. -/
def repeatedGroups : Particle → List (List Particle)
  | .element _ _ | .wildcard _ => []
  | .group occurs _ children =>
    (if occurs.isMultiple then [children] else []) ++ repeatedGroupsAmong children

/-- The repeated groups among particles. -/
def repeatedGroupsAmong : List Particle → List (List Particle)
  | [] => []
  | p :: ps => p.repeatedGroups ++ repeatedGroupsAmong ps

end

end Xsd.Particle

namespace Binding

open Xsd.Particle (labelsAmong repeatedGroupsAmong)

/-- The labels of attributes. -/
def useLabels (set : SchemaSet) (uses : List AttributeUse) : List (Option String) :=
  uses.map fun use => some (set.attr use.declaration).name

/-- The name of the field for a label in a type. -/
def partName (owner : String) : Option String → String
  | some name => name
  | none => Naming.anonymousList owner

/-! ## Ledgers -/

/-- Which types have left out which declarations, in order. -/
abbrev Ledger := List (ComplexId × Option String)

/-- What a type has left out. -/
def omitted (ledger : Ledger) (c : ComplexId) : List (Option String) :=
  (ledger.filter fun e => decide (e.1 = c)).map Prod.snd

/-- The declaration that a diagnostic names for an entry. -/
def pathOf (store : Store) (e : ComplexId × Option String) : String :=
  s!"{(store.complex e.1).name}/{partName (store.complex e.1).name e.2}"

section Ledgers

variable {ledger : Ledger} {c : ComplexId}

theorem omitted_append (ledger ledger' : Ledger) (c : ComplexId) :
    omitted (ledger ++ ledger') c = omitted ledger c ++ omitted ledger' c := by
  unfold omitted
  rw [List.filter_append, List.map_append]

theorem omitted_eq_nil (h : ∀ e ∈ ledger, e.1 ≠ c) : omitted ledger c = [] := by
  unfold omitted
  rw [List.map_eq_nil_iff, List.filter_eq_nil_iff]
  exact fun e he => by simpa using h e he

/-- What has been sorted in two ways. -/
theorem perm_append_append_comm {α : Type} (l₁ l₂ l₃ l₄ : List α) :
    List.Perm (l₁ ++ l₂ ++ (l₃ ++ l₄)) (l₁ ++ l₃ ++ (l₂ ++ l₄)) := by
  rw [List.append_assoc, List.append_assoc]
  refine List.Perm.append_left l₁ ?_
  rw [← List.append_assoc, ← List.append_assoc]
  exact List.perm_append_comm.append_right l₄

theorem mem_omitted {label : Option String} : label ∈ omitted ledger c ↔ (c, label) ∈ ledger := by
  unfold omitted
  simp only [List.mem_map, List.mem_filter, decide_eq_true_eq]
  constructor
  · rintro ⟨⟨_, _⟩, ⟨he, rfl⟩, rfl⟩
    exact he
  · exact fun he => ⟨_, ⟨he, rfl⟩, rfl⟩

end Ledgers

/-! ## Accounts -/

/-- The declarations of a type, given by their labels, have become fields of the type or are
omitted, each once at most. -/
def Charged (v : View) (ledger : Ledger) (c : ComplexId) (labels : List (Option String)) : Prop :=
  ∃ used, (v.store.complex c).fields.map Field.name =
      used.map (partName (v.store.complex c).name) ∧
    List.Subperm (used ++ omitted ledger c) labels

/-- The names that complex types are opened under: those under which definitions are bound, and
those of the items of repeated groups. -/
inductive Titled (set : SchemaSet) (source : Xsd.Schema) : String → Prop
  | definition {id : TypeId} {fieldName n : String} : Asked set source id fieldName →
      typeName set (set.type id) fieldName = .ok n → Titled set source n
  | items {owner : String} : Titled set source owner →
      Titled set source (Naming.anonymousListItem owner)

/-- What is known of a complex type that has been made while a schema is built. It has been opened
for a definition that is bound under its name, after its super type, which is what the base is bound
to; if it is under its name in the scope, it has been made of the definition. Or it has been opened
for the items of a repeated group. -/
inductive Account (set : SchemaSet) (source : Xsd.Schema) (v : View) (scope : Scope)
    (ledger : Ledger) (c : ComplexId) : Prop
  | definition {id : TypeId} {fieldName : String} {definition : Xsd.ComplexType} :
      Asked set source id fieldName →
      typeName set (set.type id) fieldName = .ok (v.store.complex c).name →
      (set.type id).kind = .complex definition →
      (∀ above, (v.store.complex c).super = some above → above.index < c.index ∧
        set.baseOf id ≠ id ∧
        Named set v.store (set.baseOf id) (v.store.complex c).name (.complex above)) →
      (scope.lookupLocal? (v.store.complex c).name = some (.complex c) →
        Made set v id (.complex c)) →
      Charged v ledger c (labelsAmong set (particlesOf definition) ++
        useLabels set (attributesToAdd set id (v.store.complex c).super.isSome)) →
      Account set source v scope ledger c
  | items {owner : String} {id : TypeId} {definition : Xsd.ComplexType} {children : List Particle} :
      Titled set source owner → (v.store.complex c).name = Naming.anonymousListItem owner →
      (set.type id).kind = .complex definition →
      children ∈ repeatedGroupsAmong (particlesOf definition) →
      Charged v ledger c (labelsAmong set children) → Account set source v scope ledger c

section Accounts

variable {set : SchemaSet} {source : Xsd.Schema} {v v' : View} {ledger ledger' : Ledger}
  {c : ComplexId}

theorem Charged.later {labels : List (Option String)} (h : Charged v ledger c labels)
    (hc : v'.store.complex c = v.store.complex c) (hledger : omitted ledger' c = omitted ledger c) :
    Charged v' ledger' c labels := by
  unfold Charged
  rw [hc, hledger]
  exact h

/-- An account stays true as long as the type leaves out nothing more, and does not come into the
scope again. -/
theorem Account.later {scope scope' : Scope} (hv : v.Later v') (hnew : v.New c)
    (hscope : ∀ n, scope'.lookupLocal? n = some (.complex c) →
      scope.lookupLocal? n = some (.complex c))
    (hledger : omitted ledger' c = omitted ledger c) (h : Account set source v scope ledger c) :
    Account set source v' scope' ledger' c := by
  have hc := hnew.complex_eq hv
  cases h with
  | definition hasked hname hkind hsuper hmade hcharged =>
    rw [← hc] at hname hsuper hmade hcharged
    refine .definition hasked hname hkind (fun above habove => ?_) (fun hl => ?_)
      (hcharged.later hc hledger)
    · obtain ⟨hlt, hne, hnamed⟩ := hsuper above habove
      exact ⟨hlt, hne, hnamed.later hv⟩
    · exact (hmade (hscope _ hl)).later hv
  | items howner hname hkind hmem hcharged =>
    exact .items howner (hc ▸ hname) hkind hmem (hcharged.later hc hledger)

/-- A type with an account goes by a name that has been asked for. -/
theorem Account.titled {scope : Scope} (h : Account set source v scope ledger c) :
    Titled set source (v.store.complex c).name := by
  cases h with
  | definition hasked hname => exact .definition hasked hname
  | items howner hname =>
    rw [hname]
    exact .items howner

end Accounts

/-! ## Books -/

/-- A complex type that is there after a type has been opened was there, or is that type. -/
theorem has_opened {b : Build} {name : String} {super : Option ComplexId} {c : ComplexId}
    (h : (b.opened name super).store.Has (.complex c)) :
    b.store.Has (.complex c) ∨ c = b.nextComplex name super := by
  obtain ⟨i⟩ := c
  have hi : i < (b.store.complexes.push (b.stub name super)).size := h
  rw [Array.size_push] at hi
  rcases Nat.lt_succ_iff_lt_or_eq.mp hi with hlt | rfl
  · exact .inl hlt
  · exact .inr rfl

/-- Opening a complex type takes nothing away. -/
theorem precedes_opened (b : Build) (name : String) (super : Option ComplexId) :
    b.Precedes (b.opened name super) := by
  have hmade : b.Precedes (b.withStub name super) :=
    (Build.Precedes.refl b).made (Store.grows_addComplex _).has rfl
  exact hmade.put (b.not_has_nextComplex name super)

/-- What every part of a build promises of complex types and of diagnostics. The diagnostics are
those of global declarations, which are given by their names, and of the declarations in the ledger,
each of which is one of `target` or of a type that has been made; and each type that has been made
has its account. -/
structure Books (set : SchemaSet) (source : Xsd.Schema) (target : Option ComplexId) (b b' : Build)
    (ledger : Ledger) (globals : List String) : Prop where
  precedes : b.Precedes b'
  diagnostics : ∃ ds, b'.diagnostics = b.diagnostics ++ ds ∧
    List.Perm (ds.map Diagnostic.declaration) (ledger.map (pathOf b'.store) ++ globals)
  author : ∀ e ∈ ledger, some e.1 = target ∨ (b.view b').New e.1
  account : ∀ c, (b.view b').New c → Account set source (b.view b') b'.scope ledger c

namespace Books

variable {set : SchemaSet} {source : Xsd.Schema} {target : Option ComplexId} {b b' b'' : Build}
  {ledger ledger' : Ledger} {globals globals' : List String}

/-- No diagnostic is taken back. -/
theorem diagnostics_subset (h : Books set source target b b' ledger globals) :
    b.diagnostics ⊆ b'.diagnostics := by
  obtain ⟨ds, hds, -⟩ := h.diagnostics
  rw [hds]
  exact List.subset_append_left _ _

/-- No complex type need be made, and nothing be left out. -/
theorem ofNone (hp : b.Precedes b')
    (hcomplex : ∀ c, b'.store.Has (.complex c) → b.store.Has (.complex c))
    (hd : b'.diagnostics = b.diagnostics) : Books set source target b b' [] [] where
  precedes := hp
  diagnostics := ⟨[], hd.trans (List.append_nil _).symm, .nil⟩
  author := nofun
  account c hc := absurd (hcomplex c hc.has) hc.not_old

theorem refl (target : Option ComplexId) (b : Build) : Books set source target b b [] [] :=
  ofNone (.refl b) (fun _ h => h) rfl

theorem weaken (target : Option ComplexId) (h : Books set source none b b' ledger globals) :
    Books set source target b b' ledger globals :=
  ⟨h.precedes, h.diagnostics, fun e he => .inr ((h.author e he).resolve_left nofun), h.account⟩

/-- A type that was there leaves out nothing but what `target` does. -/
theorem omitted_of_has (h : Books set source target b b' ledger globals) {c : ComplexId}
    (hhas : b.store.Has (.complex c)) (hne : some c ≠ target) : omitted ledger c = [] := by
  apply omitted_eq_nil
  rintro e he rfl
  exact (h.author e he).elim hne fun hnew => hnew.not_old hhas

/-- Whatever type leaves something out is there. -/
theorem has_of_mem (h : Books set source target b b' ledger globals)
    (ht : ∀ c, target = some c → b.store.Has (.complex c)) {e : ComplexId × Option String}
    (he : e ∈ ledger) : b'.store.Has (.complex e.1) :=
  (h.author e he).elim (fun heq => h.precedes.has _ (ht _ heq.symm)) fun hnew => hnew.has

/-- The names of types do not change, and so the declarations that diagnostics name. -/
theorem map_pathOf (h : Books set source target b b' ledger globals)
    (ht : ∀ c, target = some c → b.store.Has (.complex c)) {other : Option ComplexId}
    (hg : b'.store.Grows other b''.store) :
    ledger.map (pathOf b''.store) = ledger.map (pathOf b'.store) := by
  refine List.map_congr_left fun e he => ?_
  unfold pathOf
  rw [(hg.extends_complex e.1 (h.has_of_mem ht he)).name_eq]

/-- One step after the other. -/
theorem trans (h : Books set source target b b' ledger globals)
    (h' : Books set source target b' b'' ledger' globals')
    (hg : b'.store.Grows target b''.store)
    (ht : ∀ c, target = some c → b.store.Has (.complex c)) :
    Books set source target b b'' (ledger ++ ledger') (globals ++ globals') := by
  have hlater : (b.view b').Later (b.view b'') := Build.later_view hg ht h'.diagnostics_subset
  have hsince : (b'.view b'').Later (b.view b'') := Build.later_since h.precedes.has
  refine ⟨h.precedes.trans h'.precedes, ?_, fun e he => ?_, fun c hc => ?_⟩
  · obtain ⟨ds, hds, hpaths⟩ := h.diagnostics
    obtain ⟨ds', hds', hpaths'⟩ := h'.diagnostics
    refine ⟨ds ++ ds', by rw [hds', hds, List.append_assoc], ?_⟩
    rw [List.map_append, List.map_append, h.map_pathOf ht hg]
    exact (hpaths.append hpaths').trans (perm_append_append_comm _ _ _ _)
  · rcases List.mem_append.mp he with he | he
    · exact (h.author e he).imp_right fun hnew => hnew.later hlater
    · exact (h'.author e he).imp_right fun hnew => hnew.later hsince
  · by_cases hhas : b'.store.Has (.complex c)
    · -- The type was made first, and is neither changed nor put into the scope afterwards.
      have hnew : (b.view b').New c := ⟨hhas, hc.not_old⟩
      refine (h.account c hnew).later hlater hnew (fun n hl => ?_) ?_
      · exact (h'.precedes.new n _ hl).resolve_right fun hnot => hnot hhas
      · have hne : some c ≠ target := fun heq => hc.not_old (ht c heq.symm)
        rw [omitted_append, h'.omitted_of_has hhas hne, List.append_nil]
    · have hnew : (b'.view b'').New c := ⟨hc.has, hhas⟩
      refine (h'.account c hnew).later hsince hnew (fun _ hl => hl) ?_
      have hnone : omitted ledger c = [] :=
        omitted_eq_nil fun e he heq => hhas (heq ▸ h.has_of_mem ht he)
      rw [omitted_append, hnone, List.nil_append]

/-- What has been made since a complex type was opened has been made with the type, if nothing else
comes into the scope. -/
theorem ofOpened {name : String} {super : Option ComplexId}
    (h : Books set source (some (b.nextComplex name super)) (b.opened name super) b' ledger globals)
    (hp : b.Precedes b'') (hstore : b''.store = b'.store) (hd : b''.diagnostics = b'.diagnostics)
    (hscope : ∀ n t, ¬ b.store.Has t → b''.scope.lookupLocal? n = some t →
      b'.scope.lookupLocal? n = some t)
    (hc : Account set source (b.view b'') b''.scope ledger (b.nextComplex name super)) :
    Books set source none b b'' ledger globals := by
  have hsince : ((b.opened name super).view b').Later (b.view b'') := by
    rw [Build.view, Build.view, hstore, hd]
    exact Build.later_since (precedes_opened b name super).has
  refine ⟨hp, ?_, fun e he => .inr ?_, fun c hnew => ?_⟩
  · rw [hd, hstore]
    exact h.diagnostics
  · rcases h.author e he with heq | hnew
    · rw [Option.some.inj heq]
      have hhas : b''.store.Has (.complex (b.nextComplex name super)) := by
        rw [hstore]
        exact h.precedes.has _ (b.has_nextComplex name super)
      exact ⟨hhas, b.not_has_nextComplex name super⟩
    · exact hnew.later hsince
  · by_cases heq : c = b.nextComplex name super
    · rwa [heq]
    · have hhas : b'.store.Has (.complex c) := hstore ▸ (show b''.store.Has _ from hnew.has)
      have hnew' : ((b.opened name super).view b').New c :=
        ⟨hhas, fun hold => (has_opened hold).elim hnew.not_old heq⟩
      exact (h.account c hnew').later hsince hnew' (fun n hl => hscope n _ hnew.not_old hl) rfl

/-- A type that has been opened keeps what has been made with it. -/
theorem ofKept {name : String} {super : Option ComplexId}
    (h : Books set source (some (b.nextComplex name super)) (b.opened name super) b' ledger globals)
    (hc : Account set source (b.view b') b'.scope ledger (b.nextComplex name super)) :
    Books set source none b b' ledger globals := by
  exact h.ofOpened ((precedes_opened b name super).trans h.precedes) rfl rfl (fun _ _ _ hl => hl) hc

/-- When the scope is put back to what it was, a type that has been opened, and what has been made
with it, is in it no more. -/
theorem ofDropped {name : String} {super : Option ComplexId}
    (h : Books set source (some (b.nextComplex name super)) (b.opened name super) b' ledger globals)
    (hhas : ∀ n t, b.scope.lookupLocal? n = some t → b.store.Has t) (hstore : b''.store = b'.store)
    (hscope : b''.scope = b.scope) (hd : b''.diagnostics = b'.diagnostics)
    (hc : Account set source (b.view b'') b.scope ledger (b.nextComplex name super)) :
    Books set source none b b'' ledger globals := by
  have hp : b.Precedes b'' := by
    refine (Build.Precedes.refl b).made (fun t ht => hstore ▸ h.precedes.has t ?_) hscope
    exact (Store.grows_addComplex (b.stub name super)).has t ht
  refine h.ofOpened hp hstore hd (fun n t ht hl => ?_) (hscope.symm ▸ hc)
  exact absurd (hhas n t (hscope ▸ hl)) ht

/-- A type that cannot be opened is in no scope. -/
theorem ofStub {name : String} {super : Option ComplexId}
    (hc : Account set source (b.view (b.withStub name super)) b.scope []
      (b.nextComplex name super)) : Books set source none b (b.withStub name super) [] [] where
  precedes := (Build.Precedes.refl b).made (Store.grows_addComplex _).has rfl
  diagnostics := ⟨[], (List.append_nil _).symm, .nil⟩
  author := nofun
  account c hnew := by
    obtain rfl := (has_opened hnew.has).resolve_left hnew.not_old
    exact hc

/-- A new type that is no complex type may be put under its name. -/
theorem put (h : Books set source none b b' ledger globals) {t : TypeRef} (ht : ¬ b.store.Has t)
    (hc : ∀ c, t ≠ .complex c) : Books set source none b (b'.replace t) ledger globals := by
  refine ⟨h.precedes.put ht, h.diagnostics, h.author, fun c hnew => ?_⟩
  refine (h.account c hnew).later (Build.later_since fun _ ht => ht) hnew (fun n hl => ?_) rfl
  have hlookup := Scope.lookupLocal?_replace b'.store b'.scope t n
  rw [show (b'.replace t).scope = b'.scope.replace b'.store t from rfl, hlookup] at hl
  split at hl
  · exact absurd (Option.some.inj hl) (hc c)
  · exact hl

/-- A global declaration may be left out. -/
theorem skip (b : Build) (declared : String) (failure : Failure) :
    Books set source none b (b.skip declared failure) [] [declared] where
  precedes := (Build.Precedes.refl b).quiet rfl rfl
  diagnostics := ⟨_, rfl, .refl _⟩
  author := nofun
  account _ hnew := absurd hnew.has hnew.not_old

end Books

/-! ## Steps between types, and steps that fill a type -/

/-- What a step promises that fills no type. -/
def Settles (set : SchemaSet) (source : Xsd.Schema) (b b' : Build) : Prop :=
  ∃ ledger, Books set source none b b' ledger []

namespace Settles

variable {set : SchemaSet} {source : Xsd.Schema} {b b' b'' : Build}

theorem refl (b : Build) : Settles set source b b := ⟨[], .refl none b⟩

theorem trans (h : Settles set source b b') (h' : Settles set source b' b'')
    (hg : b'.store.Grows none b''.store) : Settles set source b b'' := by
  obtain ⟨ledger, h⟩ := h
  obtain ⟨ledger', h'⟩ := h'
  exact ⟨ledger ++ ledger', h.trans h' hg some_of_none⟩

/-- No complex type need be made. -/
theorem next (h : Settles set source b b') (hp : b'.Precedes b'')
    (hg : b'.store.Grows none b''.store) (hcomplex : b''.store.complexes = b'.store.complexes)
    (hd : b''.diagnostics = b'.diagnostics) : Settles set source b b'' := by
  refine h.trans ⟨[], .ofNone hp (fun c hc => ?_) hd⟩ hg
  have hc : c.index < b''.store.complexes.size := hc
  rwa [hcomplex] at hc

/-- Messages make no difference. -/
theorem quiet (h : Settles set source b b') (hstore : b''.store = b'.store)
    (hscope : b''.scope = b'.scope) (hd : b''.diagnostics = b'.diagnostics) :
    Settles set source b b'' := by
  have hg : b'.store.Grows none b''.store := by rw [hstore]
  exact h.next ((Build.Precedes.refl b').quiet hstore hscope) hg (by rw [hstore]) hd

end Settles

/-- What a step promises that fills `target`: it adds fields, and leaves declarations out, for some
declarations that are given by their labels. -/
def Charges (set : SchemaSet) (source : Xsd.Schema) (target : ComplexId)
    (labels : List (Option String)) (b b' : Build) : Prop :=
  ∃ ledger fs used, Books set source (some target) b b' ledger [] ∧
    (b'.store.complex target).fields = (b.store.complex target).fields ++ fs ∧
    fs.map Field.name = used.map (partName (b.store.complex target).name) ∧
    List.Subperm (used ++ omitted ledger target) labels

namespace Charges

variable {set : SchemaSet} {source : Xsd.Schema} {target : ComplexId} {b b' b'' : Build}
  {labels labels' : List (Option String)}

theorem mono (h : Charges set source target labels b b') (hl : List.Subperm labels labels') :
    Charges set source target labels' b b' := by
  obtain ⟨ledger, fs, used, hbooks, hfields, hnames, hsub⟩ := h
  exact ⟨ledger, fs, used, hbooks, hfields, hnames, hsub.trans hl⟩

/-- A step that fills no type has no part in it. -/
theorem ofSettles (h : Settles set source b b') (hg : b.store.Grows none b'.store)
    (hhas : b.store.Has (.complex target)) : Charges set source target [] b b' := by
  obtain ⟨ledger, h⟩ := h
  refine ⟨ledger, [], [], h.weaken _, ?_, rfl, ?_⟩
  · rw [hg.complex_eq target hhas (Option.some_ne_none target), List.append_nil]
  · rw [h.omitted_of_has hhas (Option.some_ne_none target)]
    exact .refl []

theorem refl (hhas : b.store.Has (.complex target)) : Charges set source target [] b b :=
  ofSettles (.refl b) (.refl none _) hhas

theorem trans (h : Charges set source target labels b b')
    (h' : Charges set source target labels' b' b'')
    (hg : b.store.Grows (some target) b'.store) (hg' : b'.store.Grows (some target) b''.store)
    (hhas : b.store.Has (.complex target)) :
    Charges set source target (labels ++ labels') b b'' := by
  obtain ⟨ledger, fs, used, hbooks, hfields, hnames, hsub⟩ := h
  obtain ⟨ledger', fs', used', hbooks', hfields', hnames', hsub'⟩ := h'
  have htarget : ∀ c, some target = some c → b.store.Has (.complex c) := some_of_some hhas
  refine ⟨ledger ++ ledger', fs ++ fs', used ++ used', hbooks.trans hbooks' hg' htarget, ?_, ?_, ?_⟩
  · rw [hfields', hfields, List.append_assoc]
  · rw [(hg.extends_complex target hhas).name_eq] at hnames'
    rw [List.map_append, List.map_append, hnames, hnames']
  · rw [omitted_append]
    exact (perm_append_append_comm _ _ _ _).subperm.trans (hsub.append hsub')

/-- Messages make no difference. -/
theorem quiet (h : Charges set source target labels b b') (hstore : b''.store = b'.store)
    (hscope : b''.scope = b'.scope) (hd : b''.diagnostics = b'.diagnostics) :
    Charges set source target labels b b'' := by
  obtain ⟨ledger, fs, used, ⟨hprecedes, hdiagnostics, hauthor, haccount⟩, hfields⟩ := h
  cases b'
  cases b''
  cases hstore
  cases hscope
  cases hd
  exact ⟨ledger, fs, used, ⟨hprecedes.quiet rfl rfl, hdiagnostics, hauthor, haccount⟩, hfields⟩

/-- A field is added under the name of a label. -/
theorem addField (field : Field) {label : Option String}
    (hname : field.name = partName (b.store.complex target).name label)
    (hhas : b.store.Has (.complex target)) :
    Charges set source target [label] b (b.addField target field) := by
  have hcomplex : ∀ c, (b.addField target field).store.Has (.complex c) →
      b.store.Has (.complex c) := fun c => (has_addField b.store target field (.complex c)).mp
  refine ⟨[], [field], [label], .ofNone ((Build.Precedes.refl b).addField target field) hcomplex rfl,
    ?_, ?_, .refl _⟩
  · have hfields := Store.complex_addField b.store target target field hhas
    rw [if_pos rfl] at hfields
    exact congrArg ComplexType.fields hfields
  · rw [List.map_singleton, List.map_singleton, hname]

/-- A declaration is left out under the name of a label. -/
theorem skip (failure : Failure) (label : Option String) :
    Charges set source target [label] b (b.skip
      s!"{(b.store.complex target).name}/{partName (b.store.complex target).name label}" failure) := by
  refine ⟨[(target, label)], [], [],
    ⟨(Build.Precedes.refl b).quiet rfl rfl, ⟨_, rfl, .refl _⟩, ?_, ?_⟩,
    (List.append_nil _).symm, rfl, ?_⟩
  · rintro _ (_ | ⟨_, ⟨⟩⟩)
    exact .inl rfl
  · exact fun c hc => absurd hc.has hc.not_old
  · simp [omitted]

/-- A type that had no fields has become the account of the labels. -/
theorem charged (h : Charges set source target labels b b')
    (hfields : (b.store.complex target).fields = []) (hg : b.store.Grows (some target) b'.store)
    (hhas : b.store.Has (.complex target)) :
    ∃ ledger, Books set source (some target) b b' ledger [] ∧
      ∀ first : Build, Charged (first.view b') ledger target labels := by
  obtain ⟨ledger, fs, used, hbooks, hadded, hnames, hsub⟩ := h
  refine ⟨ledger, hbooks, fun first => ⟨used, ?_, hsub⟩⟩
  show (b'.store.complex target).fields.map Field.name =
    used.map (partName (b'.store.complex target).name)
  rw [hadded, hfields, List.nil_append, hnames, (hg.extends_complex target hhas).name_eq]

end Charges

end Binding

end SchemaBinding
