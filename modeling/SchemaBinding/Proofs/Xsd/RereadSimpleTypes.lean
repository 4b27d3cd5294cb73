import SchemaBinding.Proofs.Xsd.Rereading
import SchemaBinding.Proofs.Xsd.Stable

/-!
# Reading simple types and attributes twice

Simple types and attributes that are read twice, with references written out the second time. No
reference to a group may stand in a simple type; attribute groups are read with the children of
their definitions in place of the reference.

## Main definitions

* `gather`: what comes of each of some elements, one after the other
* `DraftM.readSimpleDerivation`: a simple type by the child that says how it is derived
* `DraftM.usesOf`: the attributes that a child of a complex type stands for

## Main results

* `Rereading.follows_gather`: elements in which references are written out
* `Rereading.follows_typeNamed`, `Rereading.follows_simpleTypeNamed`, …: references to components
* `Rereading.follows_readSimpleType`: simple types
* `Rereading.follows_readAttributeUses`: the attributes of a complex type
-/

namespace SchemaBinding.Xsd

open Xml (Element QName)

/-! ## Forms for single children -/

section Gather

variable {α β : Type}

/-- What comes of each of some things, one after the other. -/
def gather (f : α → DraftM (List β)) (xs : List α) : DraftM (List β) := List.flatten <$> xs.mapM f

@[simp] theorem gather_nil (f : α → DraftM (List β)) : gather f [] = pure [] := rfl

/-- What is read of a list is read of its first element and then of the others. -/
theorem gather_cons (f : α → DraftM (List β)) (x : α) (xs : List α) :
    gather f (x :: xs) = (do
      let ys ← f x
      let zs ← gather f xs
      return ys ++ zs) := by
  simp only [gather, List.mapM_cons, map_bind, bind_map_left, map_pure, List.flatten_cons]

/-- What is read of two lists is read of the one and then of the other. -/
theorem gather_append (f : α → DraftM (List β)) (xs ys : List α) :
    gather f (xs ++ ys) = (do
      let as ← gather f xs
      let bs ← gather f ys
      return as ++ bs) := by
  simp only [gather, List.mapM_append, map_bind, bind_map_left, map_pure, List.flatten_append]

/-- What nothing comes of may be left out. -/
theorem gather_eq_nil {f : α → DraftM (List β)} {xs : List α} (h : ∀ x ∈ xs, f x = pure []) :
    gather f xs = pure [] := by
  induction xs with
  | nil => rfl
  | cons x xs ih =>
    rw [gather_cons, h x List.mem_cons_self, pure_bind,
      ih fun y hy => h y (List.mem_cons_of_mem x hy), pure_bind, List.append_nil]

theorem mapM_attach (f : α → DraftM β) (xs : List α) :
    xs.attach.mapM (fun x => f x.1) = xs.mapM f := by
  simp

end Gather

namespace DraftM

/-- The simple type that is written in place in a derivation. -/
def inlineSimpleType (context : Context) (derivation : Element) (missing : Fault) :
    DraftM TypeId :=
  match derivation.child? "simpleType" with
  | some c => readAnonymousSimpleType context c
  | none => throw (context.fault missing)

/-- Reads a restriction of a simple type. -/
def readRestriction (context : Context) (derivation : Element) (id : TypeId) : DraftM Unit := do
  let base ← match derivation.attribute? "base" with
    | some reference => simpleTypeNamed context derivation reference
    | none => inlineSimpleType context derivation .restrictionWithoutBase
  let facets ← context.facets derivation
  defineType id base (.simple (.restriction facets))

/-- Reads a list of simple types. -/
def readList (context : Context) (derivation : Element) (id : TypeId) : DraftM Unit := do
  let item ← match derivation.attribute? "itemType" with
    | some reference => simpleTypeNamed context derivation reference
    | none => inlineSimpleType context derivation .listWithoutItemType
  defineType id SchemaSet.anySimpleType (.simple ⟨.list item, .empty⟩)

/-- The member of a union that a child stands for, if it stands for one. -/
def readMember (context : Context) (c : Element) : DraftM (List TypeId) :=
  if c.localName = "simpleType" then do
    let member ← readAnonymousSimpleType context c
    return [member]
  else return []

/-- Reads a union of simple types. -/
def readUnion (context : Context) (derivation : Element) (id : TypeId) : DraftM Unit := do
  let named ← (((derivation.attribute? "memberTypes").map Text.words).getD []).mapM
    (simpleTypeNamed context derivation)
  let inline ← gather (readMember context) derivation.children
  if (named ++ inline).isEmpty then throw (context.fault .unionWithoutMembers)
  defineType id SchemaSet.anySimpleType (.simple ⟨.union (named ++ inline), .empty⟩)

/-- Reads a simple type by the child that says how it is derived. -/
def readSimpleDerivation (context : Context) (derivation : Element) (id : TypeId) : DraftM Unit :=
  if derivation.localName = "restriction" then readRestriction context derivation id
  else if derivation.localName = "list" then readList context derivation id
  else if derivation.localName = "union" then readUnion context derivation id
  else throw (context.fault (.unexpected derivation.localName "simpleType"))

/-- A simple type is read by the first child that says something. -/
theorem readSimpleType_eq (context : Context) {e derivation : Element}
    (h : firstComponent? e = some derivation) (id : TypeId) :
    readSimpleType context e id = readSimpleDerivation context derivation id := by
  rw [readSimpleType, readSimpleDerivation]
  split
  · next h' => cases h.symm.trans h'
  · next found h' =>
    obtain rfl : derivation = found := Option.some.inj (h.symm.trans h')
    dsimp only
    split
    · next hname =>
      rw [if_pos hname, readRestriction, inlineSimpleType]
      cases derivation.attribute? "base" with
      | some reference => rfl
      | none =>
        dsimp only
        split
        · next hc =>
          rw [hc]
          rfl
        · next hc => rw [hc]
    · next hname =>
      rw [if_neg (by simp [hname]), if_pos hname, readList, inlineSimpleType]
      cases derivation.attribute? "itemType" with
      | some reference => rfl
      | none =>
        dsimp only
        split
        · next hc =>
          rw [hc]
          rfl
        · next hc => rw [hc]
    · next hname =>
      rw [if_neg (by simp [hname]), if_neg (by simp [hname]), if_pos hname, readUnion, gather,
        ← mapM_attach (readMember context)]
      simp only [bind_map_left]
      rfl
    · next h₁ h₂ h₃ => rw [if_neg h₁, if_neg h₂, if_neg h₃]

/-- Elements with one tag have the same default and fixed values. -/
theorem readValues_of_ok {context context' : Context} {e e' : Element} (h : e.SameTag e')
    {values : Option String × Option String} {both both' : Fault}
    (hvalues : readValues context e both = .ok values) :
    readValues context' e' both' = .ok values := by
  unfold readValues at hvalues ⊢
  dsimp only at hvalues ⊢
  split at hvalues
  · cases hvalues
  · next hboth => rw [h.attribute?, h.attribute?, if_neg hboth, hvalues]

theorem readUse_of_ok {context context' : Context} {e e' : Element} (h : e.SameTag e')
    {use : Option Bool} (huse : readUse context e = .ok use) :
    readUse context' e' = .ok use := by
  unfold readUse at huse ⊢
  rw [h.attribute?]
  split at huse
  all_goals first | exact huse | cases huse

/-- What remains of an attribute once its type is known. -/
def defineAttribute (context : Context) (e : Element) (id : AttributeId) (type : TypeId) :
    DraftM Unit := do
  let name := ((← getSet).attr id).name
  let (defaultValue, fixedValue) ← readValues context e (.attributeDefaultAndFixed name)
  modifySet fun set => set.modifyAttribute id fun a =>
    { a with type := type, defaultValue := defaultValue, fixedValue := fixedValue }

/-- The attributes that a child of a complex type stands for. -/
def usesOf (depth : Nat) (expanding : List QName) (context : Context) (c : Element) :
    DraftM (List AttributeUse) :=
  match c.localName with
  | "attribute" => readAttributeUse context c
  | "attributeGroup" => do
    let (name, definition) ← expandGroup .attrGroup "attributeGroup" .circularAttributeGroup
      (·.attributeGroups) expanding context c
    match depth with
    | 0 => throw (context.fault (.circularAttributeGroup name))
    | depth + 1 =>
      readAttributeUsesWithin depth (name :: expanding) definition.context definition.element
  | "anyAttribute" => do
    report .trace "ignoring xs:anyAttribute"
    return []
  | _ => return []

/-- The uses of attributes are gathered from the children of an element. -/
theorem readAttributeUsesWithin_eq (depth : Nat) (expanding : List QName) (context : Context)
    (e : Element) : readAttributeUsesWithin depth expanding context e =
      gather (usesOf depth expanding context) e.children := by
  rw [readAttributeUsesWithin.eq_def, gather, map_eq_pure_bind]
  rfl

/-! ## References -/

section References

variable {d d' : Draft} {context : Context} {e : Element} {reference : String}

/-- A component is found if the reference can be resolved and the name means one, and nothing else
is done. -/
theorem run_componentNamed_eq_ok_iff {α : Type} {symbol : Symbol}
    {find? : Draft → QName → Option α} {a : α} :
    (componentNamed symbol find? context e reference).run.run d = (.ok a, d') ↔
      (∃ name, context.resolve e reference = .ok name ∧ find? d name = some a) ∧ d' = d := by
  unfold componentNamed
  rw [run_bind_eq_ok_iff]
  constructor
  · rintro ⟨name, d₁, hname, h⟩
    obtain ⟨d₂, _, hget, h⟩ := run_bind_eq_ok_iff.mp h
    cases hget
    cases hresolve : context.resolve e reference with
    | error failure =>
      rw [hresolve] at hname
      cases hname
    | ok found =>
      rw [hresolve] at hname
      cases hname
      split at h
      · next hfind =>
        cases h
        exact ⟨⟨name, rfl, hfind⟩, rfl⟩
      · cases h
  · rintro ⟨⟨name, hname, hfind⟩, rfl⟩
    refine ⟨name, d', by rw [hname]; rfl, ?_⟩
    refine run_bind_eq_ok_iff.mpr ⟨d', d', rfl, ?_⟩
    rw [hfind]
    rfl

/-- A simple type is found if the reference means a type, and this is simple. -/
theorem run_simpleTypeNamed_eq_ok_iff {id : TypeId} :
    (simpleTypeNamed context e reference).run.run d = (.ok id, d') ↔
      (∃ name, context.resolve e reference = .ok name ∧ d.set.findType? name = some id) ∧
        (d.set.type id).isSimple = true ∧ d' = d := by
  unfold simpleTypeNamed typeNamed
  rw [run_bind_eq_ok_iff]
  constructor
  · rintro ⟨found, d₁, hfound, h⟩
    obtain ⟨hname, rfl⟩ := run_componentNamed_eq_ok_iff.mp hfound
    obtain ⟨set, _, hget, h⟩ := run_bind_eq_ok_iff.mp h
    cases hget
    split at h
    · next hsimple =>
      cases h
      exact ⟨hname, hsimple, rfl⟩
    · cases h
  · rintro ⟨hname, hsimple, rfl⟩
    refine ⟨id, d', run_componentNamed_eq_ok_iff.mpr ⟨hname, rfl⟩, ?_⟩
    refine run_bind_eq_ok_iff.mpr ⟨d'.set, d', rfl, ?_⟩
    rw [if_pos hsimple]
    rfl

/-- A group can be used if its name means a group that is not being used already. -/
theorem run_expandGroup_eq_ok_iff {symbol : Symbol} {tag : String} {circular : QName → Fault}
    {groups : Draft → OrderedMap QName GroupDefinition} {expanding : List QName} {name : QName}
    {definition : GroupDefinition} :
    (expandGroup symbol tag circular groups expanding context e).run.run d =
        (.ok (name, definition), d') ↔
      (∃ reference, e.attribute? "ref" = some reference ∧
        context.resolve e reference = .ok name) ∧ name ∉ expanding ∧
        (groups d).get? name = some definition ∧ d' = d := by
  unfold expandGroup
  constructor
  · intro h
    obtain ⟨reference, hreference, h⟩ := run_liftExcept_bind_eq_ok_iff.mp h
    obtain ⟨resolved, hresolve, h⟩ := run_liftExcept_bind_eq_ok_iff.mp h
    split at h
    · cases h
    · next hnot =>
      obtain ⟨_, _, hget, h⟩ := run_bind_eq_ok_iff.mp h
      cases hget
      split at h
      · next hdefinition =>
        cases h
        exact ⟨⟨reference, Context.required_eq_ok_iff.mp hreference, hresolve⟩, hnot, hdefinition,
          rfl⟩
      · cases h
  · rintro ⟨⟨reference, hattribute, hresolve⟩, hnot, hdefinition, rfl⟩
    refine run_liftExcept_bind_eq_ok_iff.mpr
      ⟨reference, Context.required_eq_ok_iff.mpr hattribute, ?_⟩
    refine run_liftExcept_bind_eq_ok_iff.mpr ⟨name, hresolve, ?_⟩
    rw [if_neg hnot]
    refine run_bind_eq_ok_iff.mpr ⟨d', d', rfl, ?_⟩
    rw [hdefinition]
    rfl

end References

end DraftM

namespace Rereading

open DraftM

variable {v : Rereading} {context context' : Context}

/-- That a set has not become smaller is kept whatever is read. -/
theorem stable_within (set : SchemaSet) : Draft.Stable fun d => set.Within d.set where
  log _ _ h := h
  waiting _ _ h := h
  addType _ _ _ _ h := h.trans (.addType _ _)
  addElement _ _ _ h := h.trans (.addElement _ _)
  addAttribute _ _ _ h := h.trans (.addAttribute _ _)
  defineType _ _ _ _ h := h.trans (.modifyType _ _ _)
  modifyElement _ _ _ _ h := h.trans (.modifyElement _ _ _)
  modifyAttribute _ _ _ _ h := h.trans (.modifyAttribute _ _ _)

/-- What goes on with the set may not depend on it. -/
theorem follows_getSet {γ δ : Type} {g : γ → δ} {k : SchemaSet → DraftM γ}
    {k' : SchemaSet → DraftM δ} (hgrows : Grows (getSet >>= k))
    (hk : ∀ set set', v.Follows g (k set) (k' set')) :
    v.Follows g (getSet >>= k) (getSet >>= k') :=
  follows_look (R := fun _ _ => True) hgrows (fun d d' _ _ _ hrun => by
    cases hrun
    exact ⟨rfl, d'.set, rfl, trivial⟩) fun set set' _ => hk set set'

/-! ## Elements in which references are written out -/

/-- Elements are read one after the other; what stands for a reference is read in its place. -/
theorem follows_gather {α β : Type} {g : α → β} {P : Element → List Element → Prop}
    {f : Element → DraftM (List α)} {f' : Element → DraftM (List β)} {es es' : List Element}
    (h : Expands P es es')
    (hnode : ∀ e ∈ es, ∀ children, Expands P e.children children →
      v.Follows (List.map g) (f e) (f' (e.withChildren children)))
    (hreplaced : ∀ e ∈ es, ∀ new, P e new → v.Follows (List.map g) (f e) (gather f' new)) :
    v.Follows (List.map g) (gather f es) (gather f' es') := by
  induction h with
  | nil => exact follows_pure rfl
  | node e hc _ _ ih =>
    rw [gather_cons, gather_cons]
    refine follows_bind (hnode e List.mem_cons_self _ hc) fun as => ?_
    refine follows_bind (ih (fun c hc => hnode c (List.mem_cons_of_mem e hc))
      fun c hc => hreplaced c (List.mem_cons_of_mem e hc)) fun bs => ?_
    exact follows_pure List.map_append.symm
  | @replaced e _ _ _ hp _ ih =>
    rw [gather_cons, gather_append]
    refine follows_bind (hreplaced e List.mem_cons_self _ hp) fun as => ?_
    refine follows_bind (ih (fun c hc => hnode c (List.mem_cons_of_mem e hc))
      fun c hc => hreplaced c (List.mem_cons_of_mem e hc)) fun bs => ?_
    exact follows_pure List.map_append.symm

section Alike

variable (hcontext : context.Alike context')
include hcontext

/-! ## References -/

section Named

variable (e : Element) (children : List Element) (reference : String)

/-- What a reference means in the first draft, it means in the second one. -/
theorem follows_componentNamed {α : Type} (symbol : Symbol) {find? : Draft → QName → Option α}
    {g : α → α} (hfind : ∀ d d', v.Mirrors d d' → ∀ name a, find? d name = some a →
      find? d' name = some (g a)) :
    v.Follows g (componentNamed symbol find? context e reference)
      (componentNamed symbol find? context' (e.withChildren children) reference) where
  grows _ := keeps_componentNamed _ _ _ _ _
  follows d d' a _ hd hrun _ := by
    obtain ⟨⟨name, hname, ha⟩, rfl⟩ := run_componentNamed_eq_ok_iff.mp hrun
    have hname' := (hcontext.resolve_eq e reference).trans hname
    exact ⟨d', run_componentNamed_eq_ok_iff.mpr ⟨⟨name, hname', hfind _ _ hd name a ha⟩, rfl⟩, hd⟩

/-- A reference means the type at its other place. -/
theorem follows_typeNamed : v.Follows (TypeId.renumber v.renumbering)
    (typeNamed context e reference) (typeNamed context' (e.withChildren children) reference) :=
  follows_componentNamed hcontext e children reference .type fun _ _ hd _ _ h => hd.findType? h

theorem follows_elementNamed : v.Follows (ElementId.renumber v.renumbering)
    (elementNamed context e reference)
    (elementNamed context' (e.withChildren children) reference) :=
  follows_componentNamed hcontext e children reference .element
    fun _ _ hd _ _ h => hd.findElement? h

theorem follows_attributeNamed : v.Follows (AttributeId.renumber v.renumbering)
    (attributeNamed context e reference)
    (attributeNamed context' (e.withChildren children) reference) :=
  follows_componentNamed hcontext e children reference .attr
    fun _ _ hd _ _ h => hd.findAttribute? h

theorem follows_simpleTypeNamed : v.Follows (TypeId.renumber v.renumbering)
    (simpleTypeNamed context e reference)
    (simpleTypeNamed context' (e.withChildren children) reference) where
  grows _ := keeps_simpleTypeNamed _ _ _
  follows d d' id _ hd hrun _ := by
    obtain ⟨⟨name, hname, hid⟩, hsimple, rfl⟩ := run_simpleTypeNamed_eq_ok_iff.mp hrun
    have hname' := (hcontext.resolve_eq e reference).trans hname
    have hsimple' := (hd.isSimple_eq hid).trans hsimple
    exact ⟨d', run_simpleTypeNamed_eq_ok_iff.mpr ⟨⟨name, hname', hd.findType? hid⟩, hsimple', rfl⟩,
      hd⟩

end Named

/-! ## Simple types -/

/-- A type that is read into a new component. -/
theorem follows_readAnonymous {c c' : Element}
    (h : ∀ id : TypeId, v.Follows (fun u => u) (readSimpleType context c id)
      (readSimpleType context' c' (id.renumber v.renumbering))) :
    v.Follows (TypeId.renumber v.renumbering) (readAnonymousSimpleType context c)
      (readAnonymousSimpleType context' c') := by
  unfold readAnonymousSimpleType
  refine follows_bind (follows_newType none hcontext _) fun id => ?_
  exact follows_bind (h id) fun _ => follows_pure rfl

section Derivation

variable {derivation : Element} {children : List Element}
  (hexpands : Expands (v.first.Replaces context) derivation.children children)
  (hread : ∀ c ∈ derivation.children, ∀ children,
    Expands (v.first.Replaces context) c.children children → ∀ id : TypeId,
    v.Follows (fun u => u) (readSimpleType context c id)
      (readSimpleType context' (c.withChildren children) (id.renumber v.renumbering)))
include hexpands hread

/-- A simple type that stands inside another one is read alike. -/
theorem follows_inlineSimpleType (missing : Fault) : v.Follows (TypeId.renumber v.renumbering)
    (inlineSimpleType context derivation missing)
    (inlineSimpleType context' (derivation.withChildren children) missing) := by
  have hrel := hexpands.find? (p := fun tag => tag == "simpleType") (by decide)
  unfold inlineSimpleType Element.child?
  rw [Element.withChildren_children]
  cases hc : derivation.children.find? (fun c => c.localName == "simpleType") with
  | none => exact follows_throw
  | some c =>
    rw [hc] at hrel
    generalize children.find? (fun c => c.localName == "simpleType") = found at hrel
    cases hrel with
    | some hto =>
      obtain ⟨grandchildren, hexp, rfl⟩ := hto
      exact follows_readAnonymous hcontext (hread c (List.mem_of_find?_eq_some hc) _ hexp)

/-- A restriction is read alike, with its facets. -/
theorem follows_readRestriction (id : TypeId) : v.Follows (fun u => u)
    (readRestriction context derivation id)
    (readRestriction context' (derivation.withChildren children) (id.renumber v.renumbering)) := by
  have rest : ∀ base : TypeId, v.Follows (fun u => u) (do
        let facets ← context.facets derivation
        defineType id base (.simple (.restriction facets)) : DraftM Unit) (do
        let facets ← context'.facets (derivation.withChildren children)
        defineType (id.renumber v.renumbering) (base.renumber v.renumbering)
          (.simple (.restriction facets))) := fun base =>
    follows_bind (follows_lift (f := fun facets => facets) fun _ h => hexpands.facets h) fun _ =>
      follows_defineType id base _
  unfold readRestriction
  rw [Element.attribute?_withChildren]
  cases derivation.attribute? "base" with
  | some reference => exact follows_bind (follows_simpleTypeNamed hcontext _ _ _) rest
  | none => exact follows_bind (follows_inlineSimpleType hcontext hexpands hread _) rest

theorem follows_readList (id : TypeId) : v.Follows (fun u => u) (readList context derivation id)
    (readList context' (derivation.withChildren children) (id.renumber v.renumbering)) := by
  have rest : ∀ item : TypeId, v.Follows (fun u => u)
      (defineType id SchemaSet.anySimpleType (.simple ⟨.list item, .empty⟩))
      (defineType (id.renumber v.renumbering) SchemaSet.anySimpleType
        (.simple ⟨.list (item.renumber v.renumbering), .empty⟩)) := by
    intro item
    have h := follows_defineType (v := v) id SchemaSet.anySimpleType
      (.simple ⟨.list item, .empty⟩)
    rwa [renumber_anySimpleType] at h
  unfold readList
  rw [Element.attribute?_withChildren]
  cases derivation.attribute? "itemType" with
  | some reference => exact follows_bind (follows_simpleTypeNamed hcontext _ _ _) rest
  | none => exact follows_bind (follows_inlineSimpleType hcontext hexpands hread _) rest

/-- A union is read alike: no group can be used among the members. -/
theorem follows_readUnion (id : TypeId) : v.Follows (fun u => u) (readUnion context derivation id)
    (readUnion context' (derivation.withChildren children) (id.renumber v.renumbering)) := by
  unfold readUnion
  rw [Element.attribute?_withChildren, Element.withChildren_children]
  refine follows_bind (follows_mapM _ fun reference _ =>
    follows_simpleTypeNamed hcontext _ _ reference) fun named => ?_
  have hmembers : v.Follows (List.map (TypeId.renumber v.renumbering))
      (gather (readMember context) derivation.children)
      (gather (readMember context') children) := by
    refine follows_gather hexpands (fun c hc grandchildren hexp => ?_) fun c _ new hr => ?_
    · refine follows_ite Iff.rfl (fun _ => ?_) fun _ => follows_pure rfl
      exact follows_bind (follows_readAnonymous hcontext (hread c hc _ hexp))
        fun _ => follows_pure rfl
    · have hnone : ∀ e : Element, e.localName ∈ groupTags → ∀ context,
          readMember context e = pure [] := fun e he context =>
        if_neg fun heq => absurd (heq ▸ he) (by decide)
      rw [hnone c hr.mem_groupTags,
        gather_eq_nil fun e he => hnone e (hr.forall_mem_groupTags e he) _]
      exact follows_pure rfl
  refine follows_bind hmembers fun inline => ?_
  rw [← List.map_append]
  have hdefine := follows_defineType (v := v) id SchemaSet.anySimpleType
    (.simple ⟨.union (named ++ inline), .empty⟩)
  rw [renumber_anySimpleType] at hdefine
  exact follows_ite (by simp) (fun _ => follows_throw_bind) fun _ => hdefine

theorem follows_readSimpleDerivation (id : TypeId) : v.Follows (fun u => u)
    (readSimpleDerivation context derivation id)
    (readSimpleDerivation context' (derivation.withChildren children)
      (id.renumber v.renumbering)) := by
  unfold readSimpleDerivation
  refine follows_ite Iff.rfl (fun _ => follows_readRestriction hcontext hexpands hread id)
    fun _ => ?_
  refine follows_ite Iff.rfl (fun _ => follows_readList hcontext hexpands hread id) fun _ => ?_
  refine follows_ite Iff.rfl (fun _ => follows_readUnion hcontext hexpands hread id) fun _ => ?_
  exact follows_throw

end Derivation

/-- Simple types are read alike, with all simple types inside them. -/
theorem follows_readSimpleType (e : Element) {children : List Element}
    (h : Expands (v.first.Replaces context) e.children children) (id : TypeId) :
    v.Follows (fun u => u) (readSimpleType context e id)
      (readSimpleType context' (e.withChildren children) (id.renumber v.renumbering)) := by
  rcases h.firstComponent? with ⟨c, hc, hname⟩ | hrel
  · rw [readSimpleType_eq context hc, readSimpleDerivation]
    have hne : ∀ tag, tag ≠ "group" → tag ≠ "attributeGroup" → c.localName ≠ tag := by
      rintro tag hg ha rfl
      exact hname.elim hg ha
    rw [if_neg (hne _ (by decide) (by decide)), if_neg (hne _ (by decide) (by decide)),
      if_neg (hne _ (by decide) (by decide))]
    exact follows_throw
  · cases hc : firstComponent? e with
    | none =>
      rw [readSimpleType]
      split
      · exact follows_throw
      · next h' => cases hc.symm.trans h'
    | some c =>
      rw [hc] at hrel
      cases hc' : firstComponent? (e.withChildren children) with
      | none =>
        rw [hc'] at hrel
        cases hrel
      | some c' =>
        rw [hc'] at hrel
        cases hrel with
        | some hto =>
          obtain ⟨grandchildren, hexp, rfl⟩ := hto
          rw [readSimpleType_eq context hc, readSimpleType_eq context' hc']
          refine follows_readSimpleDerivation hcontext hexp (fun g hg ch hexp' i => ?_) id
          -- A type inside the derivation is smaller than the element.
          have hgc : sizeOf g < sizeOf e := Nat.lt_trans (sizeOf_lt_of_mem_children hg)
            (sizeOf_lt_of_find?_children hc)
          exact follows_readSimpleType g hexp' i
termination_by sizeOf e

theorem follows_readAnonymousSimpleType (e : Element) {children : List Element}
    (h : Expands (v.first.Replaces context) e.children children) :
    v.Follows (TypeId.renumber v.renumbering) (readAnonymousSimpleType context e)
      (readAnonymousSimpleType context' (e.withChildren children)) :=
  follows_readAnonymous hcontext fun id => follows_readSimpleType hcontext e h id

/-! ## Attributes -/

omit hcontext in
theorem follows_readValues (e : Element) (children : List Element) (both both' : Fault) :
    v.Follows (fun values => values) (liftM (readValues context e both) : DraftM _)
      (liftM (readValues context' (e.withChildren children) both')) :=
  follows_lift fun _ hvalues => readValues_of_ok (.withChildren _ _) hvalues

section Attribute

variable {e : Element} {children : List Element}
  (hexpands : Expands (v.first.Replaces context) e.children children)
include hexpands

/-- Attributes are read alike, with the simple types inside them. -/
theorem follows_readAttribute (id : AttributeId) : v.Follows (fun u => u)
    (readAttribute context e id)
    (readAttribute context' (e.withChildren children) (id.renumber v.renumbering)) := by
  have rest : ∀ type : TypeId, v.Follows (fun u => u) (defineAttribute context e id type)
      (defineAttribute context' (e.withChildren children) (id.renumber v.renumbering)
        (type.renumber v.renumbering)) := by
    intro type
    refine follows_getSet (fun set => keeps_defineAttribute (stable_within set) _ _ _ _)
      fun _ _ => ?_
    refine follows_bind (follows_readValues e children _ _) fun values => ?_
    exact follows_modify (fun _ => .modifyAttribute _ _ _)
      fun _ _ hd => hd.modifyAttribute id fun _ => rfl
  unfold readAttribute
  rw [Element.attribute?_withChildren]
  cases e.attribute? "type" with
  | some reference => exact follows_bind (follows_simpleTypeNamed hcontext _ _ _) rest
  | none =>
    have hrel := hexpands.find? (p := fun tag => tag == "simpleType") (by decide)
    unfold Element.child?
    rw [Element.withChildren_children]
    generalize e.children.find? (fun c => c.localName == "simpleType") = found at hrel
    generalize children.find? (fun c => c.localName == "simpleType") = found' at hrel
    cases hrel with
    | none =>
      have h := rest SchemaSet.anySimpleType
      rw [renumber_anySimpleType] at h
      exact h
    | some hto =>
      obtain ⟨grandchildren, hexp, rfl⟩ := hto
      exact follows_bind (follows_readAnonymousSimpleType hcontext _ hexp) rest

/-- The use of an attribute is read alike. -/
theorem follows_readAttributeUse : v.Follows (List.map (AttributeUse.renumber v.renumbering))
    (readAttributeUse context e) (readAttributeUse context' (e.withChildren children)) := by
  unfold readAttributeUse
  have huse : v.Follows (fun use => use) (liftM (readUse context e) : DraftM _)
      (liftM (readUse context' (e.withChildren children))) :=
    follows_lift fun _ huse => readUse_of_ok (.withChildren _ _) huse
  refine follows_bind huse fun use => ?_
  cases use with
  | none => exact follows_pure rfl
  | some required =>
    have hused : v.Follows (AttributeId.renumber v.renumbering) (readUsedAttribute context e)
        (readUsedAttribute context' (e.withChildren children)) := by
      unfold readUsedAttribute
      rw [Element.attribute?_withChildren]
      cases e.attribute? "ref" with
      | some reference => exact follows_attributeNamed hcontext _ _ _
      | none =>
        refine follows_bind (f := fun name => name)
          (follows_lift fun _ h => Context.requiredName_of_ok (.withChildren _ _) h) fun name => ?_
        rw [Context.localNamespace_withChildren, hcontext.localNamespace_eq,
          hcontext.attributesQualified]
        refine follows_bind (follows_newAttribute _ _ _) fun id => ?_
        exact follows_bind (follows_readAttribute hcontext hexpands id) fun _ => follows_pure rfl
    exact follows_bind hused fun id => follows_pure rfl

end Attribute

/-! ## Uses of groups -/

/-- A group that is found for the first reading is found for the second one, within fewer groups. -/
theorem look_expandGroup {Q : GroupDefinition → GroupDefinition → Prop} {symbol : Symbol}
    {tag : String} {circular : QName → Fault} {groups : Draft → OrderedMap QName GroupDefinition}
    {expanding expanding' : List QName} {e : Element} (children : List Element)
    (hexpanding : expanding' ⊆ expanding)
    (hgroups : ∀ d d', v.Mirrors d d' → ∀ name definition,
      (groups d).get? name = some definition →
        ∃ definition', (groups d').get? name = some definition' ∧ Q definition definition')
    (d d' : Draft) (a : QName × GroupDefinition) (d₁ : Draft) (hd : v.Mirrors d d')
    (hrun : (expandGroup symbol tag circular groups expanding context e).run.run d =
      (.ok a, d₁)) : d₁ = d ∧ ∃ b,
      (expandGroup symbol tag circular groups expanding' context'
        (e.withChildren children)).run.run d' = (.ok b, d') ∧ b.1 = a.1 ∧ Q a.2 b.2 := by
  obtain ⟨name, definition⟩ := a
  obtain ⟨⟨reference, href, hname⟩, hnot, hfound, rfl⟩ := run_expandGroup_eq_ok_iff.mp hrun
  obtain ⟨definition', hfound', hQ⟩ := hgroups _ _ hd name definition hfound
  have hname' := (hcontext.resolve_eq e reference).trans hname
  exact ⟨rfl, (name, definition'), run_expandGroup_eq_ok_iff.mpr
    ⟨⟨reference, href, hname'⟩, fun hm => hnot (hexpanding hm), hfound', rfl⟩, rfl, hQ⟩

omit hcontext in
/-- An attribute group is defined in both drafts, with its uses of other groups replaced or not. -/
theorem Mirrors.attributeGroup {d d' : Draft} (hd : v.Mirrors d d') (name : QName)
    (definition : GroupDefinition) (h : d.attributeGroups.get? name = some definition) :
    ∃ definition', d'.attributeGroups.get? name = some definition' ∧
      v.first.Rewrites definition definition' := by
  rw [hd.attributeGroups] at h
  rw [hd.attributeGroups']
  exact v.defines.attributeGroups name definition h

/-- A group that attributes stand for, at a depth at which it may be used. -/
def UsesAlike (v : Rereading) (depth : Nat) : Prop :=
  ∀ {depth' : Nat} {expanding expanding' : List QName} {context context' : Context}
    {es es' : List Element}, depth ≤ depth' → expanding' ⊆ expanding → context.Alike context' →
    Expands (v.first.Replaces context) es es' →
    v.Follows (List.map (AttributeUse.renumber v.renumbering))
      (gather (usesOf depth expanding context) es)
      (gather (usesOf depth' expanding' context') es')

omit hcontext in
theorem grows_expandAttributes (depth : Nat) (expanding : List QName) (context : Context)
    (e : Element) : Grows (do
      let (name, definition) ← expandGroup .attrGroup "attributeGroup" .circularAttributeGroup
        (·.attributeGroups) expanding context e
      match depth with
      | 0 => throw (context.fault (.circularAttributeGroup name))
      | depth + 1 =>
        readAttributeUsesWithin depth (name :: expanding) definition.context
          definition.element) := by
  refine fun set => (keeps_expandGroup _ _ _ _ _ _ _).bind fun _ => ?_
  cases depth with
  | zero => exact keeps_throw _
  | succ depth => exact keeps_readAttributeUsesWithin (stable_within set) _ _ _ _

section Uses

variable {depth depth' : Nat} (hnext : ∀ k, depth = k + 1 → v.UsesAlike k) (hdepth : depth ≤ depth')
  {expanding expanding' : List QName} (hexpanding : expanding' ⊆ expanding) {c : Element}
include hnext hdepth hexpanding

/-- A child is read alike. -/
theorem follows_useOf {children : List Element}
    (hc : Expands (v.first.Replaces context) c.children children) :
    v.Follows (List.map (AttributeUse.renumber v.renumbering)) (usesOf depth expanding context c)
      (usesOf depth' expanding' context' (c.withChildren children)) := by
  rw [usesOf, usesOf, Element.localName_withChildren]
  split
  · exact follows_readAttributeUse hcontext hc
  · refine follows_look (grows_expandAttributes _ _ _ _)
      (look_expandGroup hcontext children hexpanding fun _ _ hd => hd.attributeGroup) ?_
    rintro ⟨name, definition⟩ ⟨_, definition'⟩ ⟨rfl, halike, inner, hinner, heq⟩
    dsimp only at halike hinner heq ⊢
    cases depth with
    | zero => exact follows_throw
    | succ depth =>
      obtain ⟨depth', rfl⟩ : ∃ n, depth' = n + 1 := ⟨depth' - 1, by omega⟩
      dsimp only
      rw [readAttributeUsesWithin_eq, readAttributeUsesWithin_eq, heq]
      exact hnext depth rfl (Nat.le_of_succ_le_succ hdepth) (List.cons_subset_cons _ hexpanding)
        halike hinner
  · exact follows_bind (follows_report _ _ _ _) fun _ => follows_pure rfl
  · exact follows_pure rfl

/-- What stands for a reference is read like the reference. -/
theorem follows_useOf_replaced {new : List Element} (hr : v.first.Replaces context c new) :
    v.Follows (List.map (AttributeUse.renumber v.renumbering)) (usesOf depth expanding context c)
      (gather (usesOf depth' expanding' context') new) := by
  cases hr with
  | @group _ _ _ m m' hname _ _ _ _ hm hcarries =>
    have hnone : usesOf depth' expanding' context' m' = pure [] := by
      unfold usesOf
      rw [hcarries.localName]
      rcases localName_of_modelGroup? hm with hname | hname | hname <;> rw [hname] <;> rfl
    rw [usesOf, hname, gather_eq_nil (by simpa using hnone)]
    exact follows_pure rfl
  | @attributeGroup reference name definition hname href hresolve hfound halike _ =>
    rw [usesOf, hname]
    refine follows_look_left (R := fun p => p.2 = definition) (grows_expandAttributes _ _ _ _) ?_ ?_
    · rintro d d' ⟨found, foundDefinition⟩ e hd hrun
      obtain ⟨⟨ref, href', hresolve'⟩, -, hget, rfl⟩ := run_expandGroup_eq_ok_iff.mp hrun
      cases href.symm.trans href'
      cases hresolve.symm.trans hresolve'
      rw [hd.attributeGroups] at hget
      exact ⟨rfl, Option.some.inj (hget.symm.trans hfound)⟩
    · rintro ⟨found, _⟩ rfl
      cases depth with
      | zero => exact follows_throw
      | succ depth =>
        dsimp only
        rw [readAttributeUsesWithin_eq]
        exact hnext depth rfl (Nat.le_of_succ_le hdepth)
          (List.subset_cons_of_subset _ hexpanding) (halike.trans hcontext) (.refl _)

end Uses

omit hcontext in
/-- Attributes are read alike when attribute groups may be used within each other as deeply, or
deeper, and have been used within the same groups, or fewer. -/
theorem usesAlike (depth : Nat) : v.UsesAlike depth := by
  induction depth with
  | zero =>
    intro depth' expanding expanding' context context' es es' hdepth hexpanding hcontext h
    have hnext : ∀ k, 0 = k + 1 → v.UsesAlike k := fun k hk => absurd hk.symm (Nat.succ_ne_zero k)
    exact follows_gather h (fun c _ _ hc => follows_useOf hcontext hnext hdepth hexpanding hc)
      fun c _ _ hr => follows_useOf_replaced hcontext hnext hdepth hexpanding hr
  | succ depth ih =>
    intro depth' expanding expanding' context context' es es' hdepth hexpanding hcontext h
    have hnext : ∀ k, depth + 1 = k + 1 → v.UsesAlike k := fun k hk => Nat.succ.inj hk ▸ ih
    exact follows_gather h (fun c _ _ hc => follows_useOf hcontext hnext hdepth hexpanding hc)
      fun c _ _ hr => follows_useOf_replaced hcontext hnext hdepth hexpanding hr

/-- The uses of attributes are read alike, whether they stand in an element or in groups that it
uses. -/
theorem follows_readAttributeUses {expanding expanding' : List QName}
    (hexpanding : expanding' ⊆ expanding) (e : Element) {children : List Element}
    (h : Expands (v.first.Replaces context) e.children children) :
    v.Follows (List.map (AttributeUse.renumber v.renumbering))
      (readAttributeUses expanding context e)
      (readAttributeUses expanding' context' (e.withChildren children)) := by
  refine follows_get (fun d d' hd => ?_)
    fun set => keeps_readAttributeUses (stable_within set) _ _ _
  rw [readAttributeUsesWithin_eq, readAttributeUsesWithin_eq, hd.attributeGroups,
    hd.attributeGroups']
  exact usesAlike _ v.defines.attributeGroups_size hexpanding hcontext h

end Alike

end Rereading

end SchemaBinding.Xsd
