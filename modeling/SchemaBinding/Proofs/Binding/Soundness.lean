import SchemaBinding.Proofs.Binding.Naming
import SchemaBinding.Proofs.Repository.Growth

/-!
# Sound scopes

What holds of the types of a schema at every moment of its build. Each of them is under its own
name, which is no name of another schema, and mentions only types that their names mean: itself or
others that are in the scope or published, primitives, and lists that are made for repeated content
and are in no scope. There is one exception. When a complex type gives way to the list that takes
its place, the types that were built for the items may mention it already; such a type stays
without fields for ever.

## Main definitions

* `Fits`: what the published types of a registry are like
* `Settled`: a type that its name means, or that has given way to a list
* `Held`: a type that may be mentioned
* `Sound`: the invariant
* `IsOpen`: a complex type that is in the scope, and may be filled

## Main results

* `Settled.grow`, `Held.grow`: what is settled stays so
* `Sound.grow`, `Sound.addField`, `Sound.enter`, `Sound.promote`: the invariant at each change
* `Sound.schemaOf?_of_lookup?`, `Sound.nameOf_of_lookup?`: what a name means
-/

namespace SchemaBinding.Binding

open Repository (ComplexId ComplexType Field ListId Registry Scope Store TypeRef)

/-- The types that are published are under their names and belong to schemas. With the items of a
group, the type that has the group is published too. -/
structure Fits (registry : Registry) (store : Store) : Prop where
  has : ∀ n t, registry.type? n = some t → store.Has t
  nameOf_eq : ∀ n t, registry.type? n = some t → store.nameOf t = n
  owner : ∀ n t, registry.type? n = some t → ∃ s, store.schemaOf? t = some s
  item : ∀ k t, registry.type? (Naming.anonymousListItem k) = some t →
    ∃ u, registry.type? k = some u ∧ store.schemaOf? u = store.schemaOf? t

/-- A type is settled: it is a primitive, or what its name means, or a complex type without fields
that has given way to a list. -/
inductive Settled (registry : Registry) (store : Store) (scope : Scope) : TypeRef → Prop
  | primitive (p : Repository.Primitive) : Settled registry store scope (.primitive p)
  | known {t : TypeRef} : store.Has t → scope.lookup? store registry (store.nameOf t) = some t →
      Settled registry store scope t
  | superseded {c : ComplexId} {l : ListId} : store.Has (.complex c) →
      (store.complex c).fields = [] → (store.complex c).super = none →
      scope.lookupLocal? (store.complex c).name = some (.list l) →
      Settled registry store scope (.complex c)

/-- A type may be mentioned: it is settled, or a list of a settled type that is made for repeated
content. -/
inductive Held (registry : Registry) (store : Store) (scope : Scope) : TypeRef → Prop
  | settled {t : TypeRef} : Settled registry store scope t → Held registry store scope t
  | wrapped {l : ListId} : store.Has (.list l) → Naming.IsList (store.list l).name →
      Settled registry store scope (store.list l).item → Held registry store scope (.list l)

/-- A complex type is in the scope under its name. -/
structure IsOpen (store : Store) (scope : Scope) (c : ComplexId) : Prop where
  has : store.Has (.complex c)
  lookup_eq : scope.lookupLocal? (store.complex c).name = some (.complex c)

/-- The invariant of a build. -/
structure Sound (registry : Registry) (store : Store) (scope : Scope) : Prop where
  fits : Fits registry store
  has : ∀ n t, scope.lookupLocal? n = some t → store.Has t
  nameOf_eq : ∀ n t, scope.lookupLocal? n = some t → store.nameOf t = n
  schemaOf?_eq : ∀ n t, scope.lookupLocal? n = some t →
    store.schemaOf? t = some scope.schemaName
  hidden : ∀ n t, scope.lookupLocal? n = some t → scope.lookupGlobal? store registry n = none
  item : ∀ k t, scope.lookupLocal? (Naming.anonymousListItem k) = some t →
    scope.lookupLocal? k ≠ none
  not_isList : ∀ n t, scope.lookupLocal? n = some t → ¬ Naming.IsList n
  closed : ∀ n t u, scope.lookupLocal? n = some t → store.RefersTo t u →
    Held registry store scope u

variable {registry : Registry} {store store' : Store} {scope scope' : Scope}

/-! ## What names mean -/

theorem lookup?_eq_some_iff {n : String} {t : TypeRef} :
    scope.lookup? store registry n = some t ↔
      scope.lookupGlobal? store registry n = some t ∨
        scope.lookupGlobal? store registry n = none ∧ scope.lookupLocal? n = some t := by
  unfold Scope.lookup?
  exact Option.or_eq_some_iff

theorem lookup?_eq_none_iff {n : String} :
    scope.lookup? store registry n = none ↔
      scope.lookupGlobal? store registry n = none ∧ scope.lookupLocal? n = none := by
  unfold Scope.lookup?
  exact Option.or_eq_none_iff

theorem Fits.grow (h : Fits registry store) {target : Option ComplexId}
    (hg : store.Grows target store') : Fits registry store' where
  has n t ht := hg.has t (h.has n t ht)
  nameOf_eq n t ht := (hg.nameOf_eq (h.has n t ht)).trans (h.nameOf_eq n t ht)
  owner n t ht := (hg.schemaOf?_eq (h.has n t ht)).symm ▸ h.owner n t ht
  item k t ht := by
    obtain ⟨u, hu, heq⟩ := h.item k t ht
    refine ⟨u, hu, ?_⟩
    rw [hg.schemaOf?_eq (h.has _ u hu), hg.schemaOf?_eq (h.has _ t ht), heq]

/-- Published types are seen as they were. -/
theorem Fits.lookupGlobal?_eq (h : Fits registry store) {target : Option ComplexId}
    (hg : store.Grows target store') (hs : scope'.schemaName = scope.schemaName) (n : String) :
    scope'.lookupGlobal? store' registry n = scope.lookupGlobal? store registry n := by
  unfold Scope.lookupGlobal?
  rw [hs]
  exact hg.visible?_eq (h.has n)

/-- With the items of a group, the type that has the group is seen too. -/
theorem Fits.lookupGlobal?_item (h : Fits registry store) {k : String} {t : TypeRef}
    (ht : scope.lookupGlobal? store registry (Naming.anonymousListItem k) = some t) :
    scope.lookupGlobal? store registry k ≠ none := by
  obtain ⟨hp, hs⟩ := Registry.visible?_eq_some_iff.mp ht
  obtain ⟨u, hu, heq⟩ := h.item k t hp
  intro hnone
  have hv : scope.lookupGlobal? store registry k = some u :=
    Registry.visible?_eq_some_iff.mpr ⟨hu, heq ▸ hs⟩
  rw [hnone] at hv
  cases hv

namespace Sound

/-- What a name means has that name. -/
theorem has_of_lookup? (h : Sound registry store scope) {n : String} {t : TypeRef}
    (ht : scope.lookup? store registry n = some t) : store.Has t := by
  rcases lookup?_eq_some_iff.mp ht with hg | ⟨-, hl⟩
  · exact h.fits.has n t (Registry.visible?_eq_some_iff.mp hg).1
  · exact h.has n t hl

theorem nameOf_of_lookup? (h : Sound registry store scope) {n : String} {t : TypeRef}
    (ht : scope.lookup? store registry n = some t) : store.nameOf t = n := by
  rcases lookup?_eq_some_iff.mp ht with hg | ⟨-, hl⟩
  · exact h.fits.nameOf_eq n t (Registry.visible?_eq_some_iff.mp hg).1
  · exact h.nameOf_eq n t hl

/-- What a name means belongs to a schema, and so is no primitive. -/
theorem schemaOf?_of_lookup? (h : Sound registry store scope) {n : String} {t : TypeRef}
    (ht : scope.lookup? store registry n = some t) : ∃ s, store.schemaOf? t = some s := by
  rcases lookup?_eq_some_iff.mp ht with hg | ⟨-, hl⟩
  · exact h.fits.owner n t (Registry.visible?_eq_some_iff.mp hg).1
  · exact ⟨_, h.schemaOf?_eq n t hl⟩

theorem settled_of_lookup? (h : Sound registry store scope) {n : String} {t : TypeRef}
    (ht : scope.lookup? store registry n = some t) : Settled registry store scope t :=
  .known (h.has_of_lookup? ht) ((h.nameOf_of_lookup? ht).symm ▸ ht)

/-- A type in the scope is what its name means. -/
theorem lookup?_of_lookupLocal? (h : Sound registry store scope) {n : String} {t : TypeRef}
    (ht : scope.lookupLocal? n = some t) : scope.lookup? store registry n = some t :=
  lookup?_eq_some_iff.mpr (.inr ⟨h.hidden n t ht, ht⟩)

theorem settled_of_lookupLocal? (h : Sound registry store scope) {n : String} {t : TypeRef}
    (ht : scope.lookupLocal? n = some t) : Settled registry store scope t :=
  h.settled_of_lookup? (h.lookup?_of_lookupLocal? ht)

end Sound

/-! ## Growth -/

/-- What a build leaves as it was: a schema keeps its name, the types in its scope keep their
places, and no type changes but for further fields of `target`. -/
structure Build.Grows (target : Option ComplexId) (b b' : Build) : Prop where
  store : b.store.Grows target b'.store
  schemaName_eq : b'.scope.schemaName = b.scope.schemaName
  locals_prefix : b.scope.locals.entries <+: b'.scope.locals.entries

namespace Build.Grows

variable {target : Option ComplexId} {b b' b'' : Build}

@[refl] theorem refl (target : Option ComplexId) (b : Build) : Build.Grows target b b :=
  ⟨.refl _ _, rfl, List.prefix_rfl⟩

theorem trans (h : Build.Grows target b b') (h' : Build.Grows target b' b'') :
    Build.Grows target b b'' :=
  ⟨h.store.trans h'.store, h'.schemaName_eq.trans h.schemaName_eq,
    h.locals_prefix.trans h'.locals_prefix⟩

theorem weaken (target : Option ComplexId) (h : Build.Grows none b b') :
    Build.Grows target b b' :=
  ⟨h.store.weaken target, h.schemaName_eq, h.locals_prefix⟩

theorem lookupLocal? (h : Build.Grows target b b') {n : String} {t : TypeRef}
    (ht : b.scope.lookupLocal? n = some t) : b'.scope.lookupLocal? n = some t :=
  OrderedMap.get?_of_prefix h.locals_prefix ht

/-- A type that is open stays open while further types are built. -/
theorem isOpen (h : Build.Grows target b b') {c : ComplexId} (hc : IsOpen b.store b.scope c) :
    IsOpen b'.store b'.scope c where
  has := h.store.has _ hc.has
  lookup_eq := by
    rw [(h.store.extends_complex c hc.has).name_eq]
    exact h.lookupLocal? hc.lookup_eq

/-- Names keep what they mean. -/
theorem lookup? (h : Build.Grows target b b') (hf : Fits registry b.store) {n : String}
    {t : TypeRef} (ht : b.scope.lookup? b.store registry n = some t) :
    b'.scope.lookup? b'.store registry n = some t := by
  rw [lookup?_eq_some_iff, hf.lookupGlobal?_eq h.store h.schemaName_eq]
  exact (lookup?_eq_some_iff.mp ht).imp_right fun ⟨hg, hl⟩ => ⟨hg, h.lookupLocal? hl⟩

end Build.Grows

section Growth

variable {target : Option ComplexId} {b b' : Build}

/-- What is settled stays settled, if no other type than an open one gets fields. -/
theorem Settled.grow {t : TypeRef} (h : Settled registry b.store b.scope t)
    (hf : Fits registry b.store) (hg : Build.Grows target b b')
    (ht : ∀ c, target = some c → IsOpen b.store b.scope c) :
    Settled registry b'.store b'.scope t := by
  cases h with
  | primitive p => exact .primitive p
  | known hhas hl =>
    refine .known (hg.store.has t hhas) ?_
    rw [hg.store.nameOf_eq hhas]
    exact hg.lookup? hf hl
  | @superseded c l hhas hfields hsuper hl =>
    -- An open type has not given way to a list, so it is not this one that gets fields.
    have hc : some c ≠ target := fun heq => by
      have hopen := (ht c heq.symm).lookup_eq
      rw [hl] at hopen
      cases hopen
    have heq := hg.store.complex_eq c hhas hc
    refine .superseded (l := l) (hg.store.has _ hhas) ?_ ?_ ?_
    · rw [heq, hfields]
    · rw [heq, hsuper]
    · rw [heq]
      exact hg.lookupLocal? hl

/-- What may be mentioned may be mentioned later on. -/
theorem Held.grow {t : TypeRef} (h : Held registry b.store b.scope t)
    (hf : Fits registry b.store) (hg : Build.Grows target b b')
    (ht : ∀ c, target = some c → IsOpen b.store b.scope c) :
    Held registry b'.store b'.scope t := by
  cases h with
  | settled hs => exact .settled (hs.grow hf hg ht)
  | @wrapped l hhas hn hs =>
    have heq := hg.store.list_eq l hhas
    refine .wrapped (hg.store.has _ hhas) ?_ ?_
    · rw [heq]
      exact hn
    · rw [heq]
      exact hs.grow hf hg ht

end Growth

/-! ## The invariant at each change -/

section Changes

variable {b b' : Build}

/-- The invariant does not depend on types that are in no scope. -/
theorem Sound.grow (h : Sound registry b.store b.scope) (hg : b.store.Grows none b'.store)
    (hs : b'.scope = b.scope) : Sound registry b'.store b'.scope := by
  have hgrows : Build.Grows none b b' := ⟨hg, congrArg _ hs, hs ▸ List.prefix_rfl⟩
  refine ⟨h.fits.grow hg, ?_, ?_, ?_, ?_, ?_, ?_, ?_⟩
  all_goals rw [hs]
  · exact fun n t ht => hg.has t (h.has n t ht)
  · exact fun n t ht => (hg.nameOf_eq (h.has n t ht)).trans (h.nameOf_eq n t ht)
  · exact fun n t ht => (hg.schemaOf?_eq (h.has n t ht)).trans (h.schemaOf?_eq n t ht)
  · exact fun n t ht => (h.fits.lookupGlobal?_eq hg rfl n).trans (h.hidden n t ht)
  · exact h.item
  · exact h.not_isList
  · intro n t u ht hu
    rw [← hs]
    refine (h.closed n t u ht ?_).grow h.fits hgrows nofun
    exact (hg.refersTo_iff (h.has n t ht) nofun).mp hu

/-- A type in the scope may get a field of a type that may be mentioned. -/
theorem Sound.addField (h : Sound registry b.store b.scope) {target : ComplexId}
    (ho : IsOpen b.store b.scope target) {field : Field}
    (hf : Held registry b.store b.scope field.type) :
    Sound registry (b.addField target field).store (b.addField target field).scope := by
  have hg : b.store.Grows (some target) (b.addField target field).store :=
    Store.grows_addField ho.has field
  have hgrows : Build.Grows (some target) b (b.addField target field) :=
    ⟨hg, rfl, List.prefix_rfl⟩
  have hheld : ∀ u, Held registry b.store b.scope u →
      Held registry (b.addField target field).store (b.addField target field).scope u := by
    intro u hu
    apply hu.grow h.fits hgrows
    intro c hc
    cases hc
    exact ho
  refine ⟨h.fits.grow hg, ?_, ?_, ?_, ?_, h.item, h.not_isList, ?_⟩
  · exact fun n t ht => hg.has t (h.has n t ht)
  · exact fun n t ht => (hg.nameOf_eq (h.has n t ht)).trans (h.nameOf_eq n t ht)
  · exact fun n t ht => (hg.schemaOf?_eq (h.has n t ht)).trans (h.schemaOf?_eq n t ht)
  · exact fun n t ht => (h.fits.lookupGlobal?_eq hg rfl n).trans (h.hidden n t ht)
  · intro n t u ht hu
    by_cases htarget : t = .complex target
    · subst htarget
      have heq : (b.addField target field).store.complex target = { b.store.complex target with
          fields := (b.store.complex target).fields ++ [field] } :=
        (Store.complex_addField _ _ _ _ ho.has).trans (if_pos rfl)
      rcases hu with _ | hs | hm | _
      · exact hheld _ (h.closed n _ _ ht (.super (by rwa [heq] at hs)))
      · rw [heq] at hm
        rcases List.mem_append.mp hm with hm | hm
        · exact hheld _ (h.closed n _ _ ht (.field hm))
        · cases List.mem_singleton.mp hm
          exact hheld _ hf
    · refine hheld _ (h.closed n t u ht ((hg.refersTo_iff (h.has n t ht) ?_).mp hu))
      intro c hc
      cases hc
      exact htarget

/-- A type may be put under its name, if all that may be mentioned may still be mentioned then. -/
theorem Sound.put (h : Sound registry b.store b.scope) {t : TypeRef} (hhas : b.store.Has t)
    (hschema : b.store.schemaOf? t = some b.scope.schemaName)
    (hhidden : b.scope.lookupGlobal? b.store registry (b.store.nameOf t) = none)
    (hitem : ∀ k, b.store.nameOf t = Naming.anonymousListItem k → b.scope.lookupLocal? k ≠ none)
    (hlist : ¬ Naming.IsList (b.store.nameOf t))
    (hheld : ∀ u, Held registry b.store b.scope u →
      Held registry (b.replace t).store (b.replace t).scope u)
    (hclosed : ∀ u, b.store.RefersTo t u →
      Held registry (b.replace t).store (b.replace t).scope u) :
    Sound registry (b.replace t).store (b.replace t).scope := by
  have hlookup := Scope.lookupLocal?_replace b.store b.scope t
  have hcases : ∀ n u, (b.replace t).scope.lookupLocal? n = some u →
      (n = b.store.nameOf t ∧ u = t) ∨ b.scope.lookupLocal? n = some u := by
    intro n u hu
    rw [Build.replace, hlookup] at hu
    split at hu
    · next heq => exact .inl ⟨heq, (Option.some.inj hu).symm⟩
    · exact .inr hu
  have hkept : ∀ k, b.scope.lookupLocal? k ≠ none →
      (b.replace t).scope.lookupLocal? k ≠ none := by
    intro k hk
    rw [Build.replace, hlookup]
    split
    · exact Option.some_ne_none _
    · exact hk
  refine ⟨h.fits, ?_, ?_, ?_, ?_, ?_, ?_, ?_⟩
  · intro n u hu
    rcases hcases n u hu with ⟨-, rfl⟩ | hu
    · exact hhas
    · exact h.has n u hu
  · intro n u hu
    rcases hcases n u hu with ⟨rfl, rfl⟩ | hu
    · rfl
    · exact h.nameOf_eq n u hu
  · intro n u hu
    rcases hcases n u hu with ⟨-, rfl⟩ | hu
    · exact hschema
    · exact h.schemaOf?_eq n u hu
  · intro n u hu
    rcases hcases n u hu with ⟨rfl, -⟩ | hu
    · exact hhidden
    · exact h.hidden n u hu
  · intro k u hu
    rcases hcases _ u hu with ⟨heq, -⟩ | hu
    · exact hkept k (hitem k heq.symm)
    · exact hkept k (h.item k u hu)
  · intro n u hu
    rcases hcases n u hu with ⟨rfl, -⟩ | hu
    · exact hlist
    · exact h.not_isList n u hu
  · intro n u v hu hv
    rcases hcases n u hu with ⟨-, rfl⟩ | hu
    · exact hclosed v hv
    · exact hheld v (h.closed n u v hu hv)

/-- A type that is new in its scope changes nothing before it. -/
theorem grows_replace {t : TypeRef} (hn : b.scope.lookupLocal? (b.store.nameOf t) = none) :
    Build.Grows none b (b.replace t) := by
  refine ⟨.refl _ _, rfl, ?_⟩
  exact OrderedMap.prefix_insertEntry t List.prefix_rfl (OrderedMap.get?_eq_none_iff.mp hn)

/-- A new type may come into the scope under a name that means nothing yet. -/
theorem Sound.enter (h : Sound registry b.store b.scope) {t : TypeRef} (hhas : b.store.Has t)
    (hschema : b.store.schemaOf? t = some b.scope.schemaName)
    (hn : b.scope.lookup? b.store registry (b.store.nameOf t) = none)
    (hitem : ∀ k, b.store.nameOf t = Naming.anonymousListItem k → b.scope.lookupLocal? k ≠ none)
    (hlist : ¬ Naming.IsList (b.store.nameOf t))
    (hclosed : ∀ u, b.store.RefersTo t u → Held registry b.store b.scope u) :
    Sound registry (b.replace t).store (b.replace t).scope := by
  obtain ⟨hglobal, hlocal⟩ := lookup?_eq_none_iff.mp hn
  have hgrows := grows_replace hlocal
  have hheld : ∀ u, Held registry b.store b.scope u →
      Held registry (b.replace t).store (b.replace t).scope u :=
    fun u hu => hu.grow h.fits hgrows nofun
  exact h.put hhas hschema hglobal hitem hlist hheld fun u hu => hheld u (hclosed u hu)

/-- A list may take the place of a complex type that has no fields and no super type. -/
theorem Sound.promote (h : Sound registry b.store b.scope) {target : ComplexId} {l : ListId}
    (ho : IsOpen b.store b.scope target) (hfields : (b.store.complex target).fields = [])
    (hsuper : (b.store.complex target).super = none) (hhas : b.store.Has (.list l))
    (hname : (b.store.list l).name = (b.store.complex target).name)
    (hschema : (b.store.list l).schema = b.scope.schemaName)
    (hitem : Settled registry b.store b.scope (b.store.list l).item) :
    Sound registry (b.replace (.list l)).store (b.replace (.list l)).scope := by
  have hlookup : ∀ n, (b.replace (.list l)).scope.lookupLocal? n =
      if n = (b.store.complex target).name then some (.list l) else b.scope.lookupLocal? n :=
    fun n => hname ▸ Scope.lookupLocal?_replace _ _ _ _
  -- Whatever mentions the type that gives way mentions a type without fields from now on.
  have hsettled : ∀ u, Settled registry b.store b.scope u →
      Settled registry (b.replace (.list l)).store (b.replace (.list l)).scope u := by
    intro u hu
    cases hu with
    | primitive p => exact .primitive p
    | known hu hl =>
      by_cases heq : b.store.nameOf u = (b.store.complex target).name
      · -- The one type under that name is the one that gives way.
        have hu' : u = .complex target := by
          rw [heq, h.lookup?_of_lookupLocal? ho.lookup_eq] at hl
          exact (Option.some.inj hl).symm
        subst hu'
        exact .superseded hu hfields hsuper ((hlookup _).trans (if_pos rfl))
      · refine .known hu (lookup?_eq_some_iff.mpr ?_)
        exact (lookup?_eq_some_iff.mp hl).imp_right fun ⟨hg, hl⟩ =>
          ⟨hg, (hlookup _).trans ((if_neg heq).trans hl)⟩
    | @superseded c l' hu hf hs hl =>
      -- The name of a type that gave way earlier is not that of an open type.
      have hne : (b.store.complex c).name ≠ (b.store.complex target).name := by
        intro heq
        rw [heq, ho.lookup_eq] at hl
        cases hl
      exact .superseded (l := l') hu hf hs ((hlookup _).trans ((if_neg hne).trans hl))
  have hheld : ∀ u, Held registry b.store b.scope u →
      Held registry (b.replace (.list l)).store (b.replace (.list l)).scope u := by
    intro u hu
    cases hu with
    | settled hs => exact .settled (hsettled u hs)
    | wrapped hhas hn hs => exact .wrapped hhas hn (hsettled _ hs)
  refine h.put hhas (congrArg some hschema) ?_ ?_ ?_ hheld ?_
  · show b.scope.lookupGlobal? b.store registry (b.store.list l).name = none
    exact hname ▸ h.hidden _ _ ho.lookup_eq
  · intro k hk
    apply h.item k (.complex target)
    rw [← hk]
    show b.scope.lookupLocal? (b.store.list l).name = some (.complex target)
    exact hname ▸ ho.lookup_eq
  · show ¬ Naming.IsList (b.store.list l).name
    exact hname ▸ h.not_isList _ _ ho.lookup_eq
  · intro u hu
    cases hu
    exact .settled (hsettled _ hitem)

end Changes

end SchemaBinding.Binding
