import SchemaBinding.Proofs.Binding.Isolation
import SchemaBinding.Proofs.Binding.Remarks

/-!
# Entries of a complex type

The entries of a complex type are what it has fields for: the elements of its content, also those in
groups that occur once, the repeated groups, and the attributes. Each becomes a field, or is left
out if it could not be bound, and then there is one diagnostic of the type. Types that are bound for
an entry, and these may well refer to the type, add no fields to it, and are not spoken of as parts
of it.

## Main definitions

* `Entry`, `Xsd.Particle.entries`: what a complex type has fields for
* `Posting`: what has become of an entry
* `Arises`: how it has come about
* `Tabulates`: what filling a complex type promises

## Main results

* `Tabulates.append`, `Tabulates.field`, `Tabulates.skip`: fields one after the other
* `posts_elementEntry`, `posts_groupEntry`: single entries
* `tabulates_addFieldOrSkip`: an entry becomes a field, or is left out
-/

namespace SchemaBinding

open Repository (ComplexId ComplexType Field ListId ListType Store TypeRef)
open Xsd (AttributeId AttributeUse ElementId Occurs Particle SchemaSet TypeId)

/-! ## Entries -/

/-- What a complex type has a field for: an element, a repeated group with its particles, or an
attribute. -/
inductive Xsd.Entry where
  | element (occurs : Occurs) (e : ElementId)
  | items (occurs : Occurs) (children : List Particle)
  | use (a : AttributeId)

namespace Xsd.Particle

mutual

/-- The entries of a particle. A group that occurs once has those of what is in it, and a wildcard
has none. -/
def entries : Particle → List Entry
  | .element occurs e => [.element occurs e]
  | .group occurs _ children =>
    if occurs.isMultiple then [.items occurs children] else entriesAmong children
  | .wildcard _ => []

/-- The entries of some particles, in order. -/
def entriesAmong : List Particle → List Entry
  | [] => []
  | p :: ps => p.entries ++ entriesAmong ps

end

end Xsd.Particle

namespace Binding

open Xsd (Entry)
open Xsd.Particle (entriesAmong)

/-- The name of the field for an entry in a type. -/
def entryName (set : SchemaSet) (owner : String) : Entry → String
  | .element _ e => (set.element e).name
  | .items _ _ => Naming.anonymousList owner
  | .use a => (set.attr a).name

/-- An entry of a complex type, with what has become of it, and the diagnostics that have come from
the types that were bound for it. -/
structure Posting where
  entry : Entry
  nested : List Diagnostic
  result : Except Failure Field

namespace Posting

/-- The field, if there is one. -/
def field? (p : Posting) : Option Field := p.result.toOption

/-- The diagnostic of the type itself, if the entry is left out. -/
def omission (set : SchemaSet) (owner : String) (p : Posting) : List Diagnostic :=
  match p.result with
  | .ok _ => []
  | .error failure => [⟨s!"{owner}/{entryName set owner p.entry}", failure⟩]

/-- All diagnostics that have come while the entry was bound. -/
def diagnostics (set : SchemaSet) (owner : String) (p : Posting) : List Diagnostic :=
  p.nested ++ p.omission set owner

end Posting

section Tables

variable (setting : Setting) (first : Build) (load : Loader) (target : ComplexId)

/-- How an entry of `target` becomes a field, or why it does not, from a build `b` on. The last one
is the build in which the types are bound that it needs. An element needs its type. A repeated group
needs a type for its items, of which there may be one already, and the content of that type. What
has been made is looked at in `store`. -/
inductive Arises (b : Build) (store : Store) : Entry → Except Failure Field → Build → Prop
  | single {occurs : Occurs} {e : ElementId} {t : TypeRef} : occurs.isMultiple = false →
      b.resultOf (load (setting.set.element e).type (setting.set.element e).name) = .ok t →
      store.Has t →
      Arises b store (.element occurs e) (.ok (elementField store (setting.set.element e) t))
        (b.after (load (setting.set.element e).type (setting.set.element e).name))
  | repeated {occurs : Occurs} {e : ElementId} {t : TypeRef} {l : ListId} :
      occurs.isMultiple = true →
      b.resultOf (load (setting.set.element e).type (setting.set.element e).name) = .ok t →
      store.Has (.list l) →
      store.list l = ⟨Naming.anonymousListType (setting.set.element e).name, b.scope.schemaName, t,
        (setting.set.element e).name, none, 0, occurs.max⟩ →
      Arises b store (.element occurs e) (.ok (.plain (setting.set.element e).name (.list l)))
        (b.after (load (setting.set.element e).type (setting.set.element e).name))
  | unbound {occurs : Occurs} {e : ElementId} {failure : Failure} :
      b.resultOf (load (setting.set.element e).type (setting.set.element e).name) =
        .error failure →
      Arises b store (.element occurs e) (.error failure)
        (b.after (load (setting.set.element e).type (setting.set.element e).name))
  | items {occurs : Occurs} {children : List Particle} {item : ComplexId} {t : TypeRef}
      {l : ListId} : b.resultOf (openItem target) = .ok item →
      (b.after (openItem target)).resultOf (addContent setting load item children) = .ok t →
      store.Has t → store.nameOf t = Naming.anonymousListItem (store.complex target).name →
      store.Has (.list l) →
      store.list l = { ListType.ofItem (Naming.anonymousListType (store.complex target).name)
        b.scope.schemaName t with maxOccurs := occurs.max } →
      Arises b store (.items occurs children)
        (.ok (.plain (Naming.anonymousList (store.complex target).name) (.list l)))
        ((b.after (openItem target)).after (addContent setting load item children))
  | taken {occurs : Occurs} {children : List Particle} {failure : Failure} :
      b.resultOf (openItem target) = .error failure →
      Arises b store (.items occurs children) (.error failure) b
  | unfilled {occurs : Occurs} {children : List Particle} {item : ComplexId} {failure : Failure} :
      b.resultOf (openItem target) = .ok item →
      (b.after (openItem target)).resultOf (addContent setting load item children) =
        .error failure →
      Arises b store (.items occurs children) (.error failure)
        ((b.after (openItem target)).after (addContent setting load item children))
  | use {a : AttributeId} {t : TypeRef} :
      b.resultOf (load (setting.set.attr a).type (setting.set.attr a).name) = .ok t →
      Arises b store (.use a) (.ok (attributeField (setting.set.attr a) t))
        (b.after (load (setting.set.attr a).type (setting.set.attr a).name))

/-- A posting is true: from some moment on when `target` is filled, the entry has become what it
says, and the diagnostics in between are of other types. -/
def Posting.Holds (store : Store) (p : Posting) : Prop :=
  ∃ b b', Reached setting first b ∧ IsOpen b.store b.scope target ∧
    Arises setting load target b store p.entry p.result b' ∧
    b'.diagnostics = b.diagnostics ++ p.nested ∧
    ∀ d ∈ p.nested, ∃ c, c ≠ target ∧ store.Has (.complex c) ∧ Remark store c d

/-- What filling `target` promises: the fields and the diagnostics that come are those of the
postings of some entries, in order. -/
structure Tabulates (entries : List Entry) (b b' : Build) (postings : List Posting) : Prop where
  entries_eq : postings.map Posting.entry = entries
  fields_eq : (b'.store.complex target).fields =
    (b.store.complex target).fields ++ postings.filterMap Posting.field?
  diagnostics_eq : b'.diagnostics = b.diagnostics ++
    postings.flatMap (Posting.diagnostics setting.set (b.store.complex target).name)
  holds : ∀ p ∈ postings, p.Holds setting first load target b'.store

end Tables

/-! ## Further types -/

section Later

variable {setting : Setting} {first : Build} {load : Loader} {target : ComplexId}
  {b b' b'' : Build} {store store' : Store}

theorem Settled.has {registry : Repository.Registry} {scope : Repository.Scope} {t : TypeRef}
    (h : Settled registry store scope t) : store.Has t := by
  cases h with
  | primitive p => trivial
  | known hhas => exact hhas
  | superseded hhas => exact hhas

/-- The greatest length of a type does not change. -/
theorem elementField_of_grows {other : Option ComplexId} (hg : store.Grows other store')
    (e : Xsd.ElementDeclaration) {t : TypeRef} (ht : store.Has t) :
    elementField store' e t = elementField store e t := by
  have hmax : store'.maxLengthOf t = store.maxLengthOf t := by
    cases t with
    | simple s => exact congrArg Repository.SimpleType.maxLength (hg.simple_eq s ht)
    | primitive | complex | list => rfl
  unfold elementField
  rw [hmax]

theorem Arises.later {other : Option ComplexId} (hg : store.Grows other store')
    (htarget : store.Has (.complex target)) {entry : Entry} {r : Except Failure Field}
    (h : Arises setting load target b store entry r b') :
    Arises setting load target b store' entry r b' := by
  have hname := (hg.extends_complex target htarget).name_eq
  cases h with
  | single hm ht hhas =>
    rw [← elementField_of_grows hg _ hhas]
    exact .single hm ht (hg.has _ hhas)
  | repeated hm ht hhas hl => exact .repeated hm ht (hg.has _ hhas) ((hg.list_eq _ hhas).trans hl)
  | unbound ht => exact .unbound ht
  | items hopen hfill hhas hitem hlist hl =>
    rw [← hname] at hitem hl ⊢
    exact .items hopen hfill (hg.has _ hhas) ((hg.nameOf_eq hhas).trans hitem) (hg.has _ hlist)
      ((hg.list_eq _ hlist).trans hl)
  | taken hopen => exact .taken hopen
  | unfilled hopen hfill => exact .unfilled hopen hfill
  | use ht => exact .use ht

theorem Posting.Holds.later {other : Option ComplexId} (hg : store.Grows other store')
    (htarget : store.Has (.complex target)) {p : Posting}
    (h : p.Holds setting first load target store) : p.Holds setting first load target store' := by
  obtain ⟨b, b', hb, ho, harises, hnested, hauthor⟩ := h
  refine ⟨b, b', hb, ho, harises.later hg htarget, hnested, fun d hd => ?_⟩
  obtain ⟨c, hne, hc, part, hpart⟩ := hauthor d hd
  refine ⟨c, hne, hg.has _ hc, part, ?_⟩
  rw [(hg.extends_complex c hc).name_eq, hpart]

namespace Tabulates

/-- Nothing need be added. -/
theorem nil (hstore : b'.store = b.store) (hd : b'.diagnostics = b.diagnostics) :
    Tabulates setting first load target [] b b' [] where
  entries_eq := rfl
  fields_eq := by rw [hstore, List.filterMap_nil, List.append_nil]
  diagnostics_eq := by rw [hd, List.flatMap_nil, List.append_nil]
  holds := List.forall_mem_nil _

/-- One after the other. -/
theorem append {entries entries' : List Entry} {postings postings' : List Posting}
    (h : Tabulates setting first load target entries b b' postings)
    (h' : Tabulates setting first load target entries' b' b'' postings')
    (hhas : b.store.Has (.complex target)) (hg : b.store.Grows (some target) b'.store)
    (hg' : b'.store.Grows (some target) b''.store) :
    Tabulates setting first load target (entries ++ entries') b b'' (postings ++ postings') where
  entries_eq := by rw [List.map_append, h.entries_eq, h'.entries_eq]
  fields_eq := by rw [h'.fields_eq, h.fields_eq, List.filterMap_append, List.append_assoc]
  diagnostics_eq := by
    rw [h'.diagnostics_eq, h.diagnostics_eq, (hg.extends_complex target hhas).name_eq,
      List.flatMap_append, List.append_assoc]
  holds p hp := by
    rcases List.mem_append.mp hp with hp | hp
    · exact (h.holds p hp).later hg' (hg.has _ hhas)
    · exact h'.holds p hp

/-- A field is added to what other types have been bound for. -/
theorem field {entry : Entry} {f : Field} {ds : List Diagnostic}
    (hg : b.store.Grows none b'.store) (hhas : b.store.Has (.complex target))
    (h : b.Remarks none b' ds)
    (hholds : Posting.Holds setting first load target b'.store ⟨entry, ds, .ok f⟩) :
    Tabulates setting first load target [entry] b (b'.addField target f)
      [⟨entry, ds, .ok f⟩] := by
  have hhas' := hg.has _ hhas
  have hfields := Store.complex_addField b'.store target target f hhas'
  rw [if_pos rfl, hg.complex_eq target hhas (Option.some_ne_none target)] at hfields
  refine ⟨rfl, congrArg ComplexType.fields hfields, ?_, ?_⟩
  · show b'.diagnostics = b.diagnostics ++ ((ds ++ []) ++ [])
    rw [h.diagnostics, List.append_nil, List.append_nil]
  · rintro _ (_ | ⟨_, ⟨⟩⟩)
    exact hholds.later (Store.grows_addField hhas' f) hhas'

/-- An entry is left out after other types have been bound for it. -/
theorem skip {entry : Entry} {failure : Failure} {ds : List Diagnostic} {owner part : String}
    (hg : b.store.Grows none b'.store) (hhas : b.store.Has (.complex target))
    (h : b.Remarks none b' ds) (howner : (b'.store.complex target).name = owner)
    (hpart : entryName setting.set (b.store.complex target).name entry = part)
    (hholds : Posting.Holds setting first load target b'.store ⟨entry, ds, .error failure⟩) :
    Tabulates setting first load target [entry] b (b'.skip s!"{owner}/{part}" failure)
      [⟨entry, ds, .error failure⟩] := by
  subst howner hpart
  have heq := hg.complex_eq target hhas (Option.some_ne_none target)
  refine ⟨rfl, ?_, ?_, ?_⟩
  · show (b'.store.complex target).fields = _
    rw [heq]
    exact (List.append_nil _).symm
  · show b'.diagnostics ++ [⟨_, failure⟩] = b.diagnostics ++ ((ds ++ [⟨_, failure⟩]) ++ [])
    rw [h.diagnostics, heq, List.append_nil, List.append_assoc]
  · rintro _ (_ | ⟨_, ⟨⟩⟩)
    exact hholds

end Tabulates

end Later

section Filling

variable {setting : Setting} {first : Build} {depth : Nat} {b b' : Build} {target : ComplexId}

/-! ## Single entries -/

/-- What binding an entry promises. -/
def Posts (setting : Setting) (load : Loader) (target : ComplexId) (entry : Entry) (b : Build)
    (r : Except Failure Field) (b' : Build) : Prop :=
  ∃ bound ds, Arises setting load target b b'.store entry r bound ∧
    bound.diagnostics = b'.diagnostics ∧ b.Remarks none b' ds

/-- While other types are bound, `target` is not spoken of. -/
theorem holds_of_arises {load : Loader} (hb : Reached setting first b)
    (ho : IsOpen b.store b.scope target) {bound : Build} {ds : List Diagnostic} {entry : Entry}
    {r : Except Failure Field} (harises : Arises setting load target b b'.store entry r bound)
    (hbound : bound.diagnostics = b'.diagnostics) (h : b.Remarks none b' ds) :
    Posting.Holds setting first load target b'.store ⟨entry, ds, r⟩ := by
  refine ⟨b, bound, hb, ho, harises, hbound.trans h.diagnostics, fun d hd => ?_⟩
  obtain ⟨c, hc, hremark, hauthor⟩ := h.author d hd
  refine ⟨c, ?_, hc, hremark⟩
  rintro rfl
  exact hauthor.resolve_left nofun ho.has

theorem tabulates_addFieldOrSkip {load : Loader} (hb : Reached setting first b)
    (ho : IsOpen b.store b.scope target) {entry : Entry} {name : String} {field : BuildM Field}
    (hgives : Gives setting b field) (hposts : Ends b field (Posts setting load target entry b))
    (hname : name = entryName setting.set (b.store.complex target).name entry) :
    Passes b (addFieldOrSkip target name field) fun _ b' =>
      ∃ postings, Tabulates setting first load target [entry] b b' postings := by
  subst hname
  unfold addFieldOrSkip
  rw [passes_bind, passes_run]
  apply (Ends.and hgives hposts).mono
  rintro r b₁ ⟨⟨hadv, -⟩, bound, ds, harises, hbound, hremarks⟩
  have hholds := holds_of_arises hb ho harises hbound hremarks
  cases r with
  | error failure => exact ⟨_, .skip hadv.grows.store ho.has hremarks rfl rfl hholds⟩
  | ok f => exact ⟨_, .field hadv.grows.store ho.has hremarks hholds⟩

theorem posts_elementEntry {load : Loader} (hload : Loads setting load)
    (hremarks : RemarksOnly load) (h : setting.Sound b) (occurs : Occurs) (e : ElementId) :
    Ends b (elementEntry load occurs (setting.set.element e))
      (Posts setting load target (.element occurs e) b) := by
  refine ends_elementEntry ((((hload b _ _ h).and (hremarks b _ _)).and (ends_self b _)).mono ?_)
  rintro r b₁ ⟨⟨⟨hadv, ht⟩, ds, hds⟩, rfl, rfl⟩
  refine ⟨fun failure hr => ⟨_, ds, .unbound hr, rfl, hds⟩,
    fun item hr => ⟨fun hm => ?_, fun hm => ?_⟩⟩
  · refine ⟨_, ds, .repeated hm hr (Store.has_addList _) ?_, rfl,
      hds.next (.ofGrows none (Store.grows_addList _) rfl)⟩
    rw [← hadv.grows.schemaName_eq]
    exact Store.list_addList _ _
  · exact ⟨_, ds, .single hm hr (ht item hr).has, rfl, hds⟩

/-- The items of a group are opened if the type has none yet. -/
theorem openItem_of_none {name : String} {super : Option ComplexId}
    (hname : Naming.anonymousListItem (b.store.complex target).name = name)
    (hsuper : (b.store.complex target).super = super)
    (hn : b.scope.lookupLocal? name = none) :
    b.resultOf (openItem target) = .ok (b.nextComplex name super) ∧
      b.after (openItem target) = b.opened name super := by
  subst hname hsuper
  have hopen : Ends b (BuildM.openComplex (Naming.anonymousListItem (b.store.complex target).name)
      (b.store.complex target).super) fun r b' => r = .ok (b.nextComplex _ _) ∧
        b' = b.opened _ _ :=
    (ends_openComplex_of_none hn).mpr ⟨rfl, rfl⟩
  unfold openItem
  rw [resultOf_get, after_get]
  exact hopen

/-- If it has, they are not. -/
theorem openItem_of_some (h : setting.Sound b) {other : TypeRef}
    (hn : b.scope.lookupLocal? (Naming.anonymousListItem (b.store.complex target).name) =
      some other) :
    b.resultOf (openItem target) =
      .error (.typeCollision (Naming.anonymousListItem (b.store.complex target).name)) := by
  have hopen : Ends b (BuildM.openComplex (Naming.anonymousListItem (b.store.complex target).name)
      (b.store.complex target).super) fun r _ => r = .error (.typeCollision _) :=
    (ends_openComplex_of_some hn (h.has _ _ hn)).mpr rfl
  unfold openItem
  rw [resultOf_get]
  exact hopen

theorem posts_groupEntry {load : Loader} (hload : Loads setting load)
    (hremarks : RemarksOnly load) (h : setting.Sound b) (ho : IsOpen b.store b.scope target)
    (occurs : Occurs) (children : List Particle) :
    Ends b (groupEntry target occurs fun item => addContent setting load item children)
      (Posts setting load target (.items occurs children) b) := by
  let name := Naming.anonymousListItem (b.store.complex target).name
  let super := (b.store.complex target).super
  refine ends_groupEntry_of_isOpen name super h ho rfl rfl
    (fun other hn => ?_) fun hn hadv => ?_
  · exact ⟨b, [], .taken (openItem_of_some h hn), rfl, .ofGrows none (Store.grows_addComplex _) rfl⟩
  · obtain ⟨hitem, hopened⟩ := openItem_of_none rfl rfl hn
    have hhas := b.has_nextComplex name super
    have hfill := fills_addContent hload children hadv.sound (isOpen_opened name super b)
      (congrArg ComplexType.fields (b.complex_opened name super))
    have hadding : Ends (b.opened name super) (addContent setting load _ children) fun _ b' =>
        Adding (some _) (b.opened name super) b' :=
      remarks_addContent hremarks hhas children
    apply ((Ends.and hfill hadding).and (ends_self _ _)).mono
    rintro r b₁ ⟨⟨hf, ds, hds⟩, hr, hb₁⟩
    have hopen : b.Remarks none (b.opened name super) [] :=
      .ofGrows none (Store.grows_addComplex _) rfl
    have hnew := hopen.ofNew (b.not_has_nextComplex name super) hds
    have hafter : b₁ = (b.after (openItem target)).after
        (addContent setting load (b.nextComplex name super) children) := by
      rw [hopened, hb₁]
    have hbound := congrArg Build.diagnostics hafter.symm
    rw [← hopened] at hr
    subst hr
    refine ⟨fun failure hr => ?_, fun t hr => ?_⟩
    · exact ⟨_, ds, .unfilled hitem hr, hbound, hnew.next (.quiet none rfl rfl)⟩
    · have ht : b₁.store.Has t ∧ b₁.store.nameOf t = name := by
        have hlookup := hf.lookup_eq t hr
        rw [b.complex_opened name super] at hlookup
        exact ⟨hf.sound.has _ t hlookup, hf.sound.nameOf_eq _ t hlookup⟩
      let l := b.groupList occurs t target
      have hgrows : b₁.store.Grows none (b₁.withList l).store := Store.grows_addList l
      have hname : ((b₁.withList l).store.complex target).name = (b.store.complex target).name :=
        hnew.name_eq target ho.has
      refine ⟨_, ds, ?_, hbound, hnew.next (.ofGrows none hgrows rfl)⟩
      rw [← hname]
      refine .items hitem hr (hgrows.has t ht.1) ?_ (Store.has_addList l) ?_
      · rw [hgrows.nameOf_eq ht.1, ht.2, hname]
      · rw [hname]
        exact Store.list_addList _ l

end Filling

end Binding

end SchemaBinding
