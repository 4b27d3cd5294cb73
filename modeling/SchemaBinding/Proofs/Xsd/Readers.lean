import SchemaBinding.Proofs.Xsd.Advance
import SchemaBinding.Proofs.Xsd.Expansion

/-!
# What is read into components

Each reader leaves the component that it reads into settled, and so are the anonymous types and the
local attributes that it adds. A type gets the base that its definition refers to. By induction on
the elements that are read, and on how deep groups are used within each other.

## Main definitions

* `simpleBaseReference?`, `complexBaseReference?`: the reference to the base in a definition
* `SchemaSet.Refers`: what such a reference says about the base of a type
* `GroupReader.Sound`: what is asked of the way in which groups are expanded

## Main results

* `DraftM.returns_readSimpleType`, `returns_readAttribute`: simple types and attributes
* `ContentReader.returns_readComplexType`, `returns_readElement`: complex types and elements
* `DraftM.sound_readGroup`: groups
-/

namespace SchemaBinding.Xsd

open Xml (Element QName)
open Draft (Advances)

/-! ## References to bases -/

/-- The reference to the base in a simple type, and the element that holds it. -/
def simpleBaseReference? (e : Element) : Option (Element × String) := do
  let derivation ← firstComponent? e
  if derivation.localName = "restriction" then
    let reference ← derivation.attribute? "base"
    return (derivation, reference)
  else none

/-- The reference to the base in a complex type, and the element that holds it. -/
def complexBaseReference? (e : Element) : Option (Element × String) := do
  let content ← e.children.find? ContentReader.isDerivedContent
  let derivation ← firstComponent? content
  let reference ← derivation.attribute? "base"
  return (derivation, reference)

/-- A reference means a type. -/
def SchemaSet.Means (set : SchemaSet) (context : Context) (e : Element) (reference : String)
    (id : TypeId) : Prop :=
  ∃ name, context.resolve e reference = .ok name ∧ set.findType? name = some id

/-- The base of a type is what its definition refers to; without a reference it is another type. -/
def SchemaSet.Refers (set : SchemaSet) (context : Context) (reference? : Option (Element × String))
    (id base : TypeId) : Prop :=
  match reference? with
  | some (e, reference) => set.Means context e reference base
  | none => base ≠ id

/-- A type that has been read from a definition with a reference to its base. -/
structure Draft.ReadFrom (d : Draft) (context : Context) (reference? : Option (Element × String))
    (id : TypeId) : Prop where
  settled : d.Settled id
  refers : d.set.Refers context reference? id (d.set.baseOf id)

section

variable {d d' : Draft} {parts : List Part} {context : Context}
  {reference? : Option (Element × String)} {id base : TypeId}

/-- What a reference means does not change while something is read. -/
theorem Draft.Advances.refers (h : Advances parts d d')
    (hr : d.set.Refers context reference? id base) : d'.set.Refers context reference? id base := by
  unfold SchemaSet.Refers SchemaSet.Means at hr ⊢
  rwa [h.findType?_eq]

theorem Draft.Advances.readFrom (h : Advances parts d d') (hid : d.set.HasType id)
    (hp : .type id ∉ parts) (hr : d.ReadFrom context reference? id) :
    d'.ReadFrom context reference? id where
  settled := h.settled hid hp hr.settled
  refers := by
    rw [h.baseOf_eq hid hp]
    exact h.refers hr.refers

/-- A type without a name is not its own base. -/
theorem Draft.ReadFrom.baseOf_ne (hd : d.Sound) (h : d.ReadFrom context reference? id)
    (hid : (d.set.type id).name = none) : d.set.baseOf id ≠ id := by
  have hrefers := h.refers
  unfold SchemaSet.Refers at hrefers
  split at hrefers
  · obtain ⟨name, -, hfound⟩ := hrefers
    intro heq
    have hname := (hd.listed.findType? hfound).2.1
    rw [heq, hid] at hname
    cases hname
  · exact hrefers

end

namespace DraftM

variable {d : Draft}

/-! ## References -/

/-- A reference that is resolved means a component that is there. -/
theorem returns_componentNamed {α : Type} (symbol : Symbol) (find? : Draft → QName → Option α)
    (context : Context) (e : Element) (reference : String) :
    Returns d (componentNamed symbol find? context e reference) fun a d' =>
      d' = d ∧ ∃ name, context.resolve e reference = .ok name ∧ find? d name = some a := by
  unfold componentNamed
  rw [returns_bind, returns_liftExcept]
  intro name hname
  rw [returns_bind, returns_get]
  split
  · next found hfound => exact returns_pure.mpr ⟨rfl, name, hname, hfound⟩
  · exact returns_throw

theorem returns_typeNamed (context : Context) (e : Element) (reference : String) :
    Returns d (typeNamed context e reference) fun id d' =>
      d' = d ∧ d.set.Means context e reference id :=
  returns_componentNamed _ _ _ _ _

/-- A reference to a simple type means a type that is simple. -/
theorem returns_simpleTypeNamed (context : Context) (e : Element) (reference : String) :
    Returns d (simpleTypeNamed context e reference) fun id d' =>
      d' = d ∧ d.set.IsSimple id ∧ d.set.Means context e reference id := by
  unfold simpleTypeNamed
  rw [returns_bind]
  refine (returns_typeNamed context e reference).mono ?_
  rintro id _ ⟨rfl, hmeans⟩
  simp only [getSet, returns_bind, returns_get, returns_pure]
  split
  · next hsimple => exact returns_pure.mpr ⟨rfl, hsimple, hmeans⟩
  · exact returns_throw

/-- The use of a group gives the definition of the group that it names, and changes nothing. -/
theorem returns_expandGroup (symbol : Symbol) (tag : String) (circular : QName → Fault)
    (groups : Draft → OrderedMap QName GroupDefinition) (expanding : List QName)
    (context : Context) (e : Element) :
    Returns d (expandGroup symbol tag circular groups expanding context e) fun _ d' => d' = d := by
  unfold expandGroup
  rw [returns_bind, returns_liftExcept]
  intro reference _
  rw [returns_bind, returns_liftExcept]
  intro name _
  split
  · exact returns_throw
  · rw [returns_bind, returns_get]
    split
    · exact returns_pure.mpr rfl
    · exact returns_throw

/-- What holds of the result of each step holds of the results of steps taken one after the other,
if it stays true. -/
theorem returns_mapM_advances {α β : Type} {Q : β → SchemaSet → Prop} {f : α → DraftM β}
    {xs : List α} (hQ : ∀ b set set', SchemaSet.Grows set set' → Q b set → Q b set')
    (hf : ∀ a ∈ xs, ∀ d : Draft, d.Sound → Returns d (f a) fun b d' =>
      Advances [] d d' ∧ Q b d'.set) (hd : d.Sound) :
    Returns d (xs.mapM f) fun bs d' => Advances [] d d' ∧ ∀ b ∈ bs, Q b d'.set := by
  refine (returns_mapM (I := Draft.Sound) (P := fun _ b d d' => Advances [] d d' ∧ Q b d'.set)
    (Q := fun _ bs d d' => Advances [] d d' ∧ ∀ b ∈ bs, Q b d'.set) ?_ ?_ ?_ hd).mono
    fun _ _ h => h.2
  · exact fun d hd => ⟨.refl _ hd, nofun⟩
  · rintro _ _ b bs d d₁ d₂ ⟨ha, hb⟩ ⟨ha', hbs⟩
    refine ⟨ha.trans ha', fun b' hb' => ?_⟩
    rcases List.mem_cons.mp hb' with rfl | hb'
    · exact hQ _ _ _ ha'.grows hb
    · exact hbs b' hb'
  · exact fun a ha d hd => (hf a ha d hd).mono fun b d' h => ⟨h.1.sound, h⟩

/-! ## Simple types -/

/-- A type has been read once what it says has been set. -/
theorem returns_defineType_read {d₁ : Draft} {context : Context}
    {reference? : Option (Element × String)} {id base : TypeId} {kind : TypeKind}
    (ha : Advances [.type id] d d₁) (hid : d.Pending id kind.isSimple)
    (hsettled : d₁.set.Says base kind (d₁.waitingOf id))
    (hrefers : d₁.set.Refers context reference? id base) :
    Returns d₁ (defineType id base kind) fun _ d' =>
      Advances [.type id] d d' ∧ d'.ReadFrom context reference? id := by
  have hkind := (ha.grows.isSimple_eq hid.has).trans hid.isSimple_eq
  refine (returns_defineType ha.sound (ha.grows.hasType id hid.has) hkind).mono ?_
  rintro _ d' ⟨ha', hb, hkind, hwaiting⟩
  refine ⟨ha.trans ha', ?_, ?_⟩
  · unfold Draft.Settled
    rw [hb, hkind, hwaiting]
    exact hsettled.mono ha'.grows
  · rw [hb]
    exact ha'.refers hrefers

section Derivations

variable {d₁ : Draft} {context : Context} {reference? : Option (Element × String)} {id : TypeId}
  (ha : Advances [] d d₁) (hid : d.Pending id true)
include ha hid

/-- A simple type is defined by what has been read, and does not wait any longer. -/
theorem returns_defineSimple {base : TypeId} {definition : SimpleType}
    (hbase : d₁.set.IsSimple base) (hdef : definition.Closed d₁.set)
    (hrefers : d₁.set.Refers context reference? id base) :
    Returns d₁ (defineType id base (.simple definition)) fun _ d' =>
      Advances [.type id] d d' ∧ d'.ReadFrom context reference? id := by
  refine returns_defineType_read (ha.mono (List.nil_subset _)) hid ?_ hrefers
  rw [(ha.pending List.not_mem_nil hid).waiting]
  exact .simple hbase hdef

/-- A restriction of a type. -/
theorem returns_defineRestriction (e : Element) {base : TypeId} (hbase : d₁.set.IsSimple base)
    (hrefers : d₁.set.Refers context reference? id base) :
    Returns d₁ (do
      let facets ← context.facets e
      defineType id base (.simple (.restriction facets)) : DraftM Unit) fun _ d' =>
        Advances [.type id] d d' ∧ d'.ReadFrom context reference? id := by
  rw [returns_bind, returns_liftExcept]
  exact fun facets _ => returns_defineSimple ha hid hbase trivial hrefers

/-- Lists and unions are derived from the root. -/
theorem returns_defineOfRoot {definition : SimpleType} (hdef : definition.Closed d₁.set) :
    Returns d₁ (defineType id SchemaSet.anySimpleType (.simple definition)) fun _ d' =>
      Advances [.type id] d d' ∧ d'.ReadFrom context none id := by
  refine returns_defineSimple ha hid ha.sound.anySimpleType hdef ?_
  rintro rfl
  exact Nat.lt_irrefl _ hid.not_builtin

end Derivations

/-- A type without a name that has been added and read. -/
theorem returns_newType_close (hd : d.Sound) (context : Context) (kind : TypeKind)
    (read : TypeId → DraftM Unit) {reference? : Option (Element × String)}
    (hread : ∀ id d', Advances [.type id] d d' → d'.Pending id kind.isSimple →
      Returns d' (read id) fun _ d'' => Advances [.type id] d' d'' ∧
        d''.ReadFrom context reference? id) :
    Returns d (do
      let id ← newType none context kind
      read id
      return id) fun id d' => Advances [] d d' ∧ ¬ d.set.HasType id ∧ d'.set.HasType id ∧
        (d'.set.type id).isSimple = kind.isSimple := by
  rw [returns_bind]
  refine (returns_newType hd none context kind).mono ?_
  rintro id d₁ ⟨ha, hnot, hhas, hwaiting, htype⟩
  have hpending : d₁.Pending id kind.isSimple := by
    refine ⟨hhas, ?_, ?_, ?_⟩
    · exact Nat.lt_of_lt_of_le hd.anySimpleType.hasType (Nat.not_lt.mp hnot)
    · rw [htype, TypeDefinition.isSimple_eq]
    · unfold Draft.waitingOf
      rw [hwaiting]
      exact hd.waitingOf_eq_nil hnot
  rw [returns_bind]
  refine (hread id d₁ ha hpending).mono ?_
  rintro _ d₂ ⟨ha₂, hr⟩
  have hname : (d₂.set.type id).name = none := by
    rw [show (d₂.set.type id).name = (d₁.set.type id).name from
      congrArg (·.1) (ha₂.grows.type id hhas), htype]
  rw [returns_pure]
  refine ⟨(ha.trans ha₂).close hnot hr.settled (hr.baseOf_ne ha₂.sound hname), hnot,
    ha₂.grows.hasType id hhas, ?_⟩
  rw [ha₂.grows.isSimple_eq hhas, htype, TypeDefinition.isSimple_eq]

/-- The base of a simple type is referred to in a restriction only. -/
theorem simpleBaseReference?_of_derivation {e derivation : Element}
    (h : firstComponent? e = some derivation) :
    simpleBaseReference? e = if derivation.localName = "restriction" then
      (derivation.attribute? "base").map (derivation, ·) else none := by
  unfold simpleBaseReference?
  rw [h]
  simp only [Option.bind_eq_bind, Option.bind_some]
  split
  · cases derivation.attribute? "base" <;> rfl
  · rfl

/-- The types that are written in place in a derivation can be read. -/
def ReadsInline (context : Context) (derivation : Element) : Prop :=
  ∀ c ∈ derivation.children, ∀ d : Draft, d.Sound →
    Returns d (readAnonymousSimpleType context c) fun t d' =>
      Advances [] d d' ∧ ¬ d.set.HasType t ∧ d'.set.IsSimple t

/-- The members of a union: those that are referred to and those written in place. -/
theorem returns_members {context : Context} {derivation : Element}
    (hinline : ReadsInline context derivation) (references : List String) (hd : d.Sound) :
    Returns d (references.mapM (simpleTypeNamed context derivation)) fun named d₁ =>
      Returns d₁ (derivation.children.attach.mapM fun ⟨c, _⟩ =>
        if c.localName = "simpleType" then do
          let member ← readAnonymousSimpleType context c
          return [member]
        else return []) fun inline d₂ =>
          Advances [] d d₂ ∧ ∀ t ∈ named ++ inline.flatten, d₂.set.IsSimple t := by
  refine (returns_mapM_advances (Q := fun t set => set.IsSimple t) (fun _ _ _ h => h.isSimple)
    (fun reference _ d hd => ?_) hd).mono ?_
  · refine (returns_simpleTypeNamed context derivation reference).mono ?_
    rintro t _ ⟨rfl, hsimple, -⟩
    exact ⟨.refl _ hd, hsimple⟩
  -- The members that are named are there already; those inside the union are added now.
  rintro named d₁ ⟨ha₁, hnamed⟩
  refine (returns_mapM_advances (Q := fun ts set => ∀ t ∈ ts, set.IsSimple t)
    (fun _ _ _ h hts t ht => h.isSimple (hts t ht)) (fun c _ d hd => ?_) ha₁.sound).mono ?_
  · obtain ⟨c, hc⟩ := c
    dsimp only
    split
    · rw [returns_bind]
      refine (hinline c hc d hd).mono ?_
      rintro t d' ⟨ha, -, hsimple⟩
      simpa using ⟨ha, hsimple⟩
    · simpa using Advances.refl [] hd
  rintro inline d₂ ⟨ha₂, hmembers⟩
  refine ⟨ha₁.trans ha₂, fun t ht => ?_⟩
  rcases List.mem_append.mp ht with ht | ht
  · exact ha₂.grows.isSimple (hnamed t ht)
  · obtain ⟨ts, hts, ht⟩ := List.mem_flatten.mp ht
    exact hmembers ts hts t ht

/-- A simple type is read from its definition. By induction on the definition, with one case for
each kind of derivation. -/
theorem returns_readSimpleType (context : Context) (e : Element) (id : TypeId) {d : Draft}
    (hd : d.Sound) (hid : d.Pending id true) :
    Returns d (readSimpleType context e id) fun _ d' =>
      Advances [.type id] d d' ∧ d'.ReadFrom context (simpleBaseReference? e) id := by
  rw [readSimpleType]
  split
  · exact returns_throw
  · next derivation h =>
    have hlt : sizeOf derivation < sizeOf e := sizeOf_lt_of_find?_children h
    have hinline : ReadsInline context derivation := by
      intro c hc d hd
      have hlt' : sizeOf c < sizeOf e := Nat.lt_trans (sizeOf_lt_of_mem_children hc) hlt
      refine (returns_newType_close hd context (.simple (.restriction .empty))
        (readSimpleType context c) fun id d' ha' hid' =>
          returns_readSimpleType context c id ha'.sound hid').mono ?_
      exact fun t d' h => ⟨h.1, h.2.1, h.2.2.2⟩
    rw [simpleBaseReference?_of_derivation h]
    dsimp only
    split
    · next hname =>
      rw [if_pos hname]
      split
      · next reference hreference =>
        rw [hreference, returns_bind]
        refine (returns_simpleTypeNamed context derivation reference).mono ?_
        rintro base _ ⟨rfl, hsimple, hmeans⟩
        exact returns_defineRestriction (.refl _ hd) hid derivation hsimple hmeans
      · next hreference =>
        rw [hreference]
        split
        · next c hc =>
          rw [returns_bind]
          refine (hinline c (List.mem_of_find?_eq_some hc) d hd).mono ?_
          rintro base d₁ ⟨ha, hnot, hsimple⟩
          exact returns_defineRestriction ha hid derivation hsimple
            fun heq => hnot (heq ▸ hid.has)
        · exact returns_bind.mpr returns_throw
    · next hname =>
      rw [if_neg (by simp [hname])]
      split
      · next reference hreference =>
        rw [returns_bind]
        refine (returns_simpleTypeNamed context derivation reference).mono ?_
        rintro item _ ⟨rfl, hsimple, -⟩
        exact returns_defineOfRoot (.refl _ hd) hid hsimple
      · split
        · next c hc =>
          rw [returns_bind]
          refine (hinline c (List.mem_of_find?_eq_some hc) d hd).mono ?_
          rintro item d₁ ⟨ha, -, hsimple⟩
          exact returns_defineOfRoot ha hid hsimple
        · exact returns_bind.mpr returns_throw
    · next hname =>
      rw [if_neg (by simp [hname]), returns_bind]
      refine (returns_members hinline _ hd).mono fun named d₁ hnamed => ?_
      rw [returns_bind]
      refine hnamed.mono ?_
      rintro inline d₂ ⟨ha, hmembers⟩
      split
      · exact returns_bind.mpr returns_throw
      · exact returns_defineOfRoot ha hid hmembers
    · exact returns_throw
termination_by sizeOf e

/-- A simple type without a name is added, and read at once. -/
theorem returns_readAnonymousSimpleType (context : Context) (e : Element) (hd : d.Sound) :
    Returns d (readAnonymousSimpleType context e) fun id d' =>
      Advances [] d d' ∧ d'.set.IsSimple id := by
  refine (returns_newType_close hd context (.simple (.restriction .empty))
    (readSimpleType context e) fun id _ ha hid =>
      returns_readSimpleType context e id ha.sound hid).mono ?_
  exact fun id d' ⟨ha, _, _, hs⟩ => ⟨ha, hs⟩

/-! ## Attributes -/

/-- What remains of an attribute once its type is known. -/
theorem returns_defineAttribute (context : Context) (e : Element) {id : AttributeId}
    (hid : d.set.HasAttribute id) (type : TypeId) {d₁ : Draft} (ha : Advances [] d d₁)
    (htype : d₁.set.IsSimple type) : Returns d₁ (do
      let name := ((← getSet).attr id).name
      let (defaultValue, fixedValue) ← readValues context e (.attributeDefaultAndFixed name)
      modifySet fun set => set.modifyAttribute id fun a =>
        { a with type := type, defaultValue := defaultValue, fixedValue := fixedValue } :
      DraftM Unit) fun _ d' => Advances [.attr id] d d' ∧
        d'.set.IsSimple (d'.set.attr id).type := by
  have hid₁ := ha.grows.hasAttribute id hid
  simp only [getSet, modifySet, returns_bind, returns_get, returns_pure, returns_liftExcept,
    returns_modify]
  rintro ⟨defaultValue, fixedValue⟩ -
  have hm := advances_modifyAttribute ha.sound hid₁ (f := fun a =>
    { a with type := type, defaultValue := defaultValue, fixedValue := fixedValue })
    fun _ => rfl
  refine ⟨(ha.mono (List.nil_subset _)).trans hm, hm.grows.isSimple ?_⟩
  rw [d₁.set.attr_modifyAttribute hid₁, if_pos rfl]
  exact htype

/-- An attribute that is read has a simple type. -/
theorem returns_readAttribute (context : Context) (e : Element) {id : AttributeId} (hd : d.Sound)
    (hid : d.set.HasAttribute id) :
    Returns d (readAttribute context e id) fun _ d' => Advances [.attr id] d d' ∧
      d'.set.IsSimple (d'.set.attr id).type := by
  unfold readAttribute
  split
  · rw [returns_bind]
    refine (returns_simpleTypeNamed context e _).mono ?_
    rintro type _ ⟨rfl, hsimple, -⟩
    exact returns_defineAttribute context e hid type (.refl _ hd) hsimple
  · split
    · rw [returns_bind]
      refine (returns_readAnonymousSimpleType context _ hd).mono ?_
      rintro type d₁ ⟨ha, hsimple⟩
      exact returns_defineAttribute context e hid type ha hsimple
    · exact returns_defineAttribute context e hid _ (.refl _ hd) hd.anySimpleType

/-- The attribute of a use is there. -/
theorem returns_readAttributeUse (context : Context) (e : Element) (hd : d.Sound) :
    Returns d (readAttributeUse context e) fun uses d' => Advances [] d d' ∧
      ∀ use ∈ uses, d'.set.HasAttribute use.declaration := by
  have used : Returns d (readUsedAttribute context e) fun id d' => Advances [] d d' ∧
      d'.set.HasAttribute id := by
    unfold readUsedAttribute
    split
    · refine (returns_componentNamed _ _ context e _).mono ?_
      rintro id _ ⟨rfl, name, -, hfound⟩
      exact ⟨.refl _ hd, hd.listed.findAttribute? hfound⟩
    · rw [returns_bind, returns_liftExcept]
      intro name _
      rw [returns_bind]
      refine (returns_newAttribute hd name _ false).mono ?_
      rintro id d₁ ⟨ha₁, hnot, hhas⟩
      rw [returns_bind]
      refine (returns_readAttribute context e ha₁.sound hhas).mono ?_
      rintro _ d₂ ⟨ha₂, hsimple⟩
      exact returns_pure.mpr
        ⟨(ha₁.trans ha₂).closeAttribute hnot hsimple, ha₂.grows.hasAttribute id hhas⟩
  unfold readAttributeUse
  rw [returns_bind, returns_liftExcept]
  intro use _
  cases use with
  | none => exact returns_pure.mpr ⟨.refl _ hd, List.forall_mem_nil _⟩
  | some required =>
    rw [returns_bind]
    refine used.mono ?_
    rintro id d' ⟨ha, hhas⟩
    simpa using ⟨ha, hhas⟩

/-- The uses that are read are of attributes that are there, also those in attribute groups. -/
theorem returns_readAttributeUsesWithin (depth : Nat) (expanding : List QName) (context : Context)
    (e : Element) {d : Draft} (hd : d.Sound) :
    Returns d (readAttributeUsesWithin depth expanding context e) fun uses d' => Advances [] d d' ∧
      ∀ use ∈ uses, d'.set.HasAttribute use.declaration := by
  rw [readAttributeUsesWithin.eq_def, returns_bind]
  refine (returns_mapM_advances
    (Q := fun (uses : List AttributeUse) set => ∀ use ∈ uses, set.HasAttribute use.declaration)
    (fun _ _ _ h huses use huse => h.hasAttribute _ (huses use huse))
    (fun c _ d hd => ?_) hd).mono ?_
  · split
    · exact returns_readAttributeUse context c hd
    · rw [returns_bind]
      refine (returns_expandGroup _ _ _ _ _ _ _).mono ?_
      rintro ⟨name, definition⟩ _ rfl
      cases depth with
      | zero => exact returns_throw
      | succ depth => exact returns_readAttributeUsesWithin depth _ _ _ hd
    · rw [returns_bind]
      refine (returns_report hd _ _).mono fun _ d' ha => ?_
      exact returns_pure.mpr ⟨ha, nofun⟩
    · exact returns_pure.mpr ⟨.refl _ hd, nofun⟩
  · rintro uses d' ⟨ha, huses⟩
    refine returns_pure.mpr ⟨ha, fun use huse => ?_⟩
    obtain ⟨us, hus, huse⟩ := List.mem_flatten.mp huse
    exact huses us hus use huse

theorem returns_readAttributeUses (expanding : List QName) (context : Context) (e : Element)
    (hd : d.Sound) :
    Returns d (readAttributeUses expanding context e) fun uses d' => Advances [] d d' ∧
      ∀ use ∈ uses, d'.set.HasAttribute use.declaration := by
  unfold readAttributeUses
  rw [returns_bind, returns_get]
  exact returns_readAttributeUsesWithin _ expanding context e hd

end DraftM

/-! ## Elements and complex types -/

/-- Whatever groups are used, the result is a group of elements that are there. -/
def GroupReader.Sound (group : GroupReader) : Prop :=
  ∀ expanding context e (d : Draft), d.Sound →
    Returns d (group expanding context e) fun p d' =>
      Advances [] d d' ∧ Content.Closed d'.set (.particle p)

namespace ContentReader

open DraftM

/-- The base of a derived type, and the reference to it. -/
theorem returns_readDerived (context : Context) (contentTag : String) (e : Element) {d : Draft} :
    Returns d (readDerived context contentTag e) fun derived d' => d' = d ∧
      e.attribute? "base" = some derived.reference ∧
      d.set.Means context e derived.reference derived.base ∧
      derived.isComplexBase = (d.set.type derived.base).isComplex := by
  have rest : ∀ derivation, Returns d (do
      let reference ← context.required e "base" (.missingBase e.localName)
      let base ← typeNamed context e reference
      return ⟨derivation, reference, base, ((← getSet).type base).isComplex⟩ : DraftM Derived)
      fun derived d' => d' = d ∧ e.attribute? "base" = some derived.reference ∧
        d.set.Means context e derived.reference derived.base ∧
        derived.isComplexBase = (d.set.type derived.base).isComplex := by
    intro derivation
    rw [returns_bind, returns_liftExcept]
    intro reference hreference
    have hattribute := Context.required_eq_ok_iff.mp hreference
    rw [returns_bind]
    refine (returns_typeNamed context e reference).mono ?_
    rintro base _ ⟨rfl, hmeans⟩
    simp only [getSet, returns_bind, returns_get, returns_pure]
    exact ⟨trivial, hattribute, hmeans, trivial⟩
  unfold readDerived
  split
  · exact rest _
  · exact rest _
  · exact returns_bind.mpr returns_throw

/-- The attributes of a complex type make no difference to its content. -/
theorem says_withAttributes {set : SchemaSet} {base : TypeId} {definition : ComplexType}
    {waiting : List Inheritance} (h : set.Says base (.complex definition) waiting)
    {uses : List AttributeUse} (huses : ∀ use ∈ uses, set.HasAttribute use.declaration) :
    set.Says base (.complex { definition with attributes := uses }) waiting := by
  have closed (hd : definition.Closed set) : ComplexType.Closed set
      { definition with attributes := uses } :=
    ⟨hd.scope, hd.content, hd.explicitContent, huses⟩
  cases h with
  | content hb hd hexplicit hcontent => exact .content hb (closed hd) hexplicit hcontent
  | simpleBase hb hd hexplicit hcontent => exact .simpleBase hb (closed hd) hexplicit hcontent
  | simpleContent hb hc hd hexplicit hcontent =>
    exact .simpleContent hb hc (closed hd) hexplicit hcontent
  | extension hb hc hd hexplicit hcontent => exact .extension hb hc (closed hd) hexplicit hcontent

/-- The base of a complex type is referred to in its derivation, if it has one. -/
theorem complexBaseReference?_of_derivation {e content derivation : Element} {reference : String}
    (hc : e.children.find? isDerivedContent = some content)
    (hd : firstComponent? content = some derivation)
    (hreference : derivation.attribute? "base" = some reference) :
    complexBaseReference? e = some (derivation, reference) := by
  unfold complexBaseReference?
  rw [hc, Option.bind_eq_bind, Option.bind_some, hd, Option.bind_eq_bind, Option.bind_some,
    hreference]
  rfl

section Derived

variable {context : Context} {reference? : Option (Element × String)} {e : Element} {id : TypeId}
  {scope : Option ElementId} {derived : Derived} {d : Draft} (hd : d.Sound)
  (hid : d.Pending id false) (hscope : ∀ e, scope = some e → d.set.HasElement e)
  (hbase : d.set.HasType derived.base)
  (hrefers : d.set.Refers context reference? id derived.base)

include hid hrefers in
/-- What remains of a derived type once its content is known. -/
theorem returns_defineDerived (expanding : List QName) (definition : ComplexType) {d₁ : Draft}
    (ha₁ : Advances [.type id] d d₁)
    (hsettled : d₁.set.Says derived.base (.complex definition) (d₁.waitingOf id)) :
    Returns d₁ (do
      let uses ← readAttributeUses expanding context e
      defineType id derived.base (.complex { definition with attributes := uses })) fun _ d' =>
        Advances [.type id] d d' ∧ d'.ReadFrom context reference? id := by
  rw [returns_bind]
  refine (returns_readAttributeUses expanding context e ha₁.sound).mono ?_
  rintro uses d₂ ⟨ha₂, huses⟩
  have ha := ha₁.trans (ha₂.mono (List.nil_subset _))
  refine returns_defineType_read ha hid ?_ (ha.refers hrefers)
  rw [(ha₂.type id (ha₁.grows.hasType id hid.has) List.not_mem_nil).2]
  exact says_withAttributes (hsettled.mono ha₂.grows) huses

include hscope in
/-- A definition without attributes is closed if its content is. -/
theorem closed_of_content {set : SchemaSet} {definition : ComplexType} (hgrows : d.set.Grows set)
    (hs : definition.scope = scope) (hattributes : definition.attributes = [])
    (hcontent : definition.content.Closed set)
    (hexplicit : ∀ content, definition.explicitContent = some content → content.Closed set) :
    definition.Closed set :=
  ⟨fun e he => hgrows.hasElement e (hscope e (hs ▸ he)), hcontent, hexplicit,
    hattributes ▸ nofun⟩

include hd hid hscope hbase hrefers

/-- Simple content waits for that of a complex base; a simple base is the content itself. -/
theorem returns_defineSimpleContent (expanding : List QName) (mixed : Bool)
    (hcomplex : derived.isComplexBase = (d.set.type derived.base).isComplex) :
    Returns d (do
      let definition : ComplexType :=
        { ComplexType.empty scope with derivation := derived.derivation, mixed := mixed }
      let definition ←
        if derived.isComplexBase then do
          await id .simpleContent
          pure definition
        else if derived.derivation = .extension then
          pure { definition with content := .simple derived.base }
        else throw (context.fault (.simpleContentOfSimple derived.reference))
      let uses ← readAttributeUses expanding context e
      defineType id derived.base (.complex { definition with attributes := uses })) fun _ d' =>
        Advances [.type id] d d' ∧ d'.ReadFrom context reference? id := by
  have closed {definition : ComplexType} := @closed_of_content scope d hscope d.set definition
    (.refl _)
  dsimp only
  split
  · next hcomplexBase =>
    rw [hcomplex] at hcomplexBase
    rw [returns_bind]
    refine (returns_await hd hid.has .simpleContent).mono ?_
    rintro _ d₁ ⟨ha, hset, hwaiting⟩
    rw [returns_bind, returns_pure]
    refine returns_defineDerived hid hrefers expanding _ ha ?_
    rw [hset, hwaiting, hid.waiting]
    exact .simpleContent hbase hcomplexBase (closed rfl rfl trivial some_of_none) rfl rfl
  · next hsimpleBase =>
    have hsimple : d.set.IsSimple derived.base := by
      rw [hcomplex] at hsimpleBase
      unfold SchemaSet.IsSimple
      simpa [TypeDefinition.isComplex] using hsimpleBase
    split
    · rw [returns_bind, returns_pure]
      refine returns_defineDerived hid hrefers expanding _ (.refl _ hd) ?_
      rw [hid.waiting]
      exact .simpleBase hsimple (closed rfl rfl hsimple some_of_none) rfl rfl
    · exact returns_bind.mpr returns_throw

omit hd in
/-- Content of groups is that of the type itself; an extension also waits for that of its base. -/
theorem returns_defineContent (expanding : List QName) (mixed : Bool)
    (hcomplex : (d.set.type derived.base).isComplex = true) {own : Content} {d₁ : Draft}
    (ha₁ : Advances [] d d₁) (hown : own.Closed d₁.set) (hparticles : own.isSimple = false) :
    Returns d₁ (do
      if derived.derivation = .extension then await id .extension
      let uses ← readAttributeUses expanding context e
      defineType id derived.base (.complex
        { ComplexType.empty scope with
          derivation := derived.derivation
          explicitContent := if derived.derivation = .extension then some own else none
          content := own
          attributes := uses
          mixed := mixed })) fun _ d' =>
        Advances [.type id] d d' ∧ d'.ReadFrom context reference? id := by
  have hid₁ := ha₁.pending List.not_mem_nil hid
  have hbase₁ := ha₁.grows.hasType _ hbase
  have hcomplex₁ := ha₁.grows.isComplex hbase hcomplex
  have closed {definition : ComplexType} := @closed_of_content scope d hscope d₁.set definition
    ha₁.grows
  -- An extension waits for the content of its base; the content of a restriction is all it has.
  split
  · rw [returns_bind]
    refine (returns_await ha₁.sound hid₁.has .extension).mono ?_
    rintro _ d₂ ⟨ha₂, hset, hwaiting⟩
    refine returns_defineDerived hid hrefers expanding
      { ComplexType.empty scope with
        derivation := derived.derivation
        explicitContent := some own
        content := own
        mixed := mixed } ((ha₁.mono (List.nil_subset _)).trans ha₂) ?_
    rw [hset, hwaiting, hid₁.waiting]
    refine .extension hbase₁ hcomplex₁ (closed rfl rfl hown ?_) rfl hparticles
    rintro _ ⟨⟩
    exact hown
  · refine returns_defineDerived hid hrefers expanding
      { ComplexType.empty scope with
        derivation := derived.derivation
        content := own
        mixed := mixed } (ha₁.mono (List.nil_subset _)) ?_
    rw [hid₁.waiting]
    exact .content hbase₁ (closed rfl rfl hown some_of_none) rfl hparticles

end Derived

variable {group : GroupReader}

mutual

/-- An element that is read has a type that is there, with all that has been read inside it. -/
theorem returns_readElement (hgroup : group.Sound) (expanding : List QName) (context : Context)
    (e : Element) {id : ElementId} {d : Draft} (hd : d.Sound) (hid : d.set.HasElement id) :
    Returns d (readElement group expanding context e id) fun _ d' =>
      Advances [.element id] d d' := by
  have rest : ∀ type d₁, Advances [] d d₁ → d₁.set.HasType type → Returns d₁ (do
      let name := ((← getSet).element id).name
      let (defaultValue, fixedValue) ← readValues context e (.elementDefaultAndFixed name)
      let nillable ← context.boolean e "nillable"
      modifySet fun set => set.modifyElement id fun d =>
        { d with
          type := type, defaultValue := defaultValue, fixedValue := fixedValue,
          nillable := nillable } : DraftM Unit) fun _ d' => Advances [.element id] d d' := by
    intro type d₁ ha htype
    simp only [getSet, modifySet, returns_bind, returns_get, returns_pure, returns_liftExcept,
      returns_modify]
    rintro ⟨defaultValue, fixedValue⟩ - nillable -
    exact (ha.mono (List.nil_subset _)).trans (advances_modifyElement ha.sound
      (ha.grows.hasElement id hid) (fun _ => rfl) fun _ => htype)
  rw [readElement]
  split
  · rw [returns_bind]
    refine (returns_typeNamed context e _).mono ?_
    rintro type _ ⟨rfl, name, -, hfound⟩
    exact rest type _ (.refl _ hd) (hd.listed.findType? hfound).1
  · split
    · next c h =>
      have : sizeOf c < sizeOf e := sizeOf_lt_of_find?_children h
      split
      · have hread := returns_newType_close hd context (.complex (.empty (some id)))
          (fun type => readComplexType group expanding context c type (some id))
          fun type d' ha htype => returns_readComplexType hgroup expanding context c type (some id)
            ha.sound htype fun e he => Option.some.inj he ▸ ha.grows.hasElement id hid
        simp only [returns_bind, returns_pure] at hread ⊢
        refine hread.mono fun type d₁ h => h.mono ?_
        rintro _ d₂ ⟨ha, -, hhas, -⟩
        simpa only [returns_bind] using rest type d₂ ha hhas
      · rw [returns_bind]
        refine (returns_readAnonymousSimpleType context c hd).mono ?_
        rintro type d₁ ⟨ha, hsimple⟩
        exact rest type d₁ ha hsimple.hasType
    · exact rest _ d (.refl _ hd) hd.anyType
termination_by 2 * sizeOf e

/-- A complex type that is read says what it is derived from, and nothing waits but what it
inherits. -/
theorem returns_readComplexType (hgroup : group.Sound) (expanding : List QName) (context : Context)
    (e : Element) (id : TypeId) (scope : Option ElementId) {d : Draft} (hd : d.Sound)
    (hid : d.Pending id false) (hscope : ∀ e, scope = some e → d.set.HasElement e) :
    Returns d (readComplexType group expanding context e id scope) fun _ d' =>
      Advances [.type id] d d' ∧ d'.ReadFrom context (complexBaseReference? e) id := by
  rw [readComplexType, returns_bind, returns_liftExcept]
  intro mixed _
  split
  · next h =>
    have href : complexBaseReference? e = none := by
      unfold complexBaseReference?
      rw [h]
      rfl
    have hroot : SchemaSet.anyType ≠ id := fun heq =>
      Nat.not_lt_zero _ (heq ▸ hid.not_builtin)
    rw [returns_bind]
    have := sizeOf_children_lt e
    refine (returns_readContent hgroup expanding context e.children hd).mono ?_
    rintro own d₁ ⟨ha₁, hown, hparticles⟩
    rw [returns_bind]
    refine (returns_readAttributeUses expanding context e ha₁.sound).mono ?_
    rintro uses d₂ ⟨ha₂, huses⟩
    have ha := ha₁.trans ha₂
    refine returns_defineType_read (ha.mono (List.nil_subset _)) hid ?_ (href ▸ hroot)
    rw [(ha.pending List.not_mem_nil hid).waiting]
    refine .content ha.sound.anyType ⟨?_, hown.mono ha₂.grows, some_of_none, huses⟩ rfl hparticles
    exact fun e he => ha.grows.hasElement e (hscope e he)
  · next content h =>
    have hc : sizeOf content < sizeOf e := sizeOf_lt_of_find?_children h
    split
    · exact returns_throw
    · next derivation h' =>
      have hd' : sizeOf derivation < sizeOf content := sizeOf_lt_of_find?_children h'
      have hcs : sizeOf derivation.children < sizeOf derivation := sizeOf_children_lt derivation
      rw [returns_bind]
      refine (returns_readDerived context content.localName derivation).mono ?_
      rintro derived d ⟨rfl, hattribute, hmeans, hcomplex⟩
      -- The base has been declared by now, whether it has been read or not.
      have hbase : d.set.HasType derived.base := by
        obtain ⟨_, -, hfound⟩ := hmeans
        exact (hd.listed.findType? hfound).1
      have hrefers : d.set.Refers context (complexBaseReference? e) id derived.base := by
        rw [complexBaseReference?_of_derivation h h' hattribute]
        exact hmeans
      dsimp only
      split
      · exact returns_defineSimpleContent hd hid hscope hbase hrefers expanding mixed hcomplex
      · split
        · exact returns_bind.mpr returns_throw
        · next hcomplexBase =>
          have hcomplexBase : (d.set.type derived.base).isComplex = true := by
            rw [hcomplex] at hcomplexBase
            simpa using hcomplexBase
          have own (mixed : Bool) :=
            (returns_readContent hgroup expanding context derivation.children hd).mono
              fun own d₁ h => @returns_defineContent context _ derivation _ _ _ _ hid hscope hbase
                hrefers expanding mixed hcomplexBase own d₁ h.1 h.2.1 h.2.2
          split
          · rw [returns_bind, returns_liftExcept]
            exact fun mixed _ => returns_bind.mpr (own mixed)
          · rw [returns_bind, returns_pure, returns_bind]
            exact own mixed
termination_by 2 * sizeOf e

/-- Content that is read refers to elements that are there. -/
theorem returns_readContent (hgroup : group.Sound) (expanding : List QName) (context : Context)
    (es : List Element) {d : Draft} (hd : d.Sound) :
    Returns d (readContent group expanding context es) fun content d' => Advances [] d d' ∧
      content.Closed d'.set ∧ content.isSimple = false := by
  match es with
  | [] =>
    rw [readContent]
    exact returns_pure.mpr ⟨.refl _ hd, trivial, rfl⟩
  | e :: es =>
    have model : Returns d (do
        return .particle (← readModelGroup group expanding context e) : DraftM Content)
        fun content d' => Advances [] d d' ∧ content.Closed d'.set ∧ content.isSimple = false := by
      rw [returns_bind]
      refine (returns_readModelGroup hgroup expanding context e hd).mono fun p d' h => ?_
      exact returns_pure.mpr ⟨h.1, h.2, rfl⟩
    rw [readContent]
    split
    · exact model
    · exact model
    · exact model
    · rw [returns_bind]
      refine (hgroup expanding context e d hd).mono fun p d' h => ?_
      exact returns_pure.mpr ⟨h.1, h.2, rfl⟩
    · exact returns_readContent hgroup expanding context es hd
termination_by 2 * sizeOf es

theorem returns_readModelGroup (hgroup : group.Sound) (expanding : List QName) (context : Context)
    (e : Element) {d : Draft} (hd : d.Sound) :
    Returns d (readModelGroup group expanding context e) fun p d' => Advances [] d d' ∧
      Content.Closed d'.set (.particle p) := by
  rw [readModelGroup]
  simp only [returns_bind, returns_liftExcept, returns_pure]
  intro occurs _
  have := sizeOf_children_lt e
  refine (returns_readParticles hgroup expanding context _ e.children hd).mono fun ps d' h => ?_
  exact ⟨h.1, rfl, h.2⟩
termination_by 2 * sizeOf e

/-- Particles that are read refer to elements that are there, one list after the other. -/
theorem returns_readParticles (hgroup : group.Sound) (expanding : List QName) (context : Context)
    (compositor : Compositor) (es : List Element) {d : Draft} (hd : d.Sound) :
    Returns d (readParticles group expanding context compositor es) fun ps d' =>
      Advances [] d d' ∧
      ∀ occurs e, (occurs, e) ∈ Particle.elementsAmong ps → d'.set.HasElement e := by
  match es with
  | [] =>
    rw [readParticles]
    exact returns_pure.mpr ⟨.refl _ hd, nofun⟩
  | e :: es =>
    rw [readParticles]
    -- The first child may be a particle or none; the other ones are read after it.
    have rest : ∀ (particle : Option Particle) d₁, Advances [] d d₁ →
        (∀ p, particle = some p →
          ∀ occurs e, (occurs, e) ∈ p.elements → d₁.set.HasElement e) → Returns d₁ (do
        let particles ← readParticles group expanding context compositor es
        return particle.toList ++ particles : DraftM (List Particle)) fun ps d' =>
          Advances [] d d' ∧
            ∀ occurs e, (occurs, e) ∈ Particle.elementsAmong ps → d'.set.HasElement e := by
      intro particle d₁ ha₁ hparticle
      rw [returns_bind]
      refine (returns_readParticles hgroup expanding context compositor es ha₁.sound).mono ?_
      rintro ps d₂ ⟨ha₂, hps⟩
      refine returns_pure.mpr ⟨ha₁.trans ha₂, fun occurs e he => ?_⟩
      cases particle with
      | none => exact hps occurs e he
      | some p =>
        rcases List.mem_append.mp he with he | he
        · exact ha₂.grows.hasElement e (hparticle p rfl occurs e he)
        · exact hps occurs e he
    have found : ∀ {read : DraftM Particle}, Returns d read (fun p d' => Advances [] d d' ∧
        ∀ occurs e, (occurs, e) ∈ p.elements → d'.set.HasElement e) → Returns d (do
          let particle ← some <$> read
          let particles ← readParticles group expanding context compositor es
          return particle.toList ++ particles : DraftM (List Particle)) fun ps d' =>
            Advances [] d d' ∧
              ∀ occurs e, (occurs, e) ∈ Particle.elementsAmong ps → d'.set.HasElement e := by
      intro read h
      rw [returns_bind, returns_map]
      refine h.mono fun p d₁ hp => rest (some p) d₁ hp.1 ?_
      rintro _ ⟨⟩
      exact hp.2
    have model := found ((returns_readModelGroup hgroup expanding context e hd).mono
      fun p d' h => ⟨h.1, h.2.2⟩)
    split
    · exact found (returns_readLocalElement hgroup expanding context e hd)
    · exact model
    · exact model
    · exact model
    · exact found ((hgroup expanding context e d hd).mono fun p d' h => ⟨h.1, h.2.2⟩)
    · simp only [returns_bind, returns_pure, returns_liftExcept]
      intro occurs _
      have hwildcard := rest (some (.wildcard occurs)) d (.refl _ hd) (by rintro _ ⟨⟩; exact nofun)
      simpa only [returns_bind, returns_pure] using hwildcard
    · rw [returns_bind, returns_pure]
      exact rest none d (.refl _ hd) some_of_none
    · exact returns_bind.mpr returns_throw
termination_by 2 * sizeOf es

/-- A local element that is read is there, whether it is declared in its place or referred to. -/
theorem returns_readLocalElement (hgroup : group.Sound) (expanding : List QName) (context : Context)
    (e : Element) {d : Draft} (hd : d.Sound) :
    Returns d (readLocalElement group expanding context e) fun p d' => Advances [] d d' ∧
      ∀ occurs e, (occurs, e) ∈ p.elements → d'.set.HasElement e := by
  rw [readLocalElement, returns_bind, returns_liftExcept]
  intro occurs _
  split
  · rw [returns_bind]
    refine (returns_componentNamed _ _ context e _).mono ?_
    rintro id _ ⟨rfl, name, -, hfound⟩
    refine returns_pure.mpr ⟨.refl _ hd, ?_⟩
    simpa [Particle.elements] using hd.listed.findElement? hfound
  · rw [returns_bind, returns_liftExcept]
    intro name _
    rw [returns_bind]
    refine (returns_newElement hd name _ false).mono ?_
    rintro id d₁ ⟨ha₁, hnot, hid⟩
    rw [returns_bind]
    refine (returns_readElement hgroup expanding context e ha₁.sound hid).mono fun _ d₂ ha₂ => ?_
    have ha := ((ha₁.mono (List.nil_subset _)).trans ha₂).closeElement hnot
    refine returns_pure.mpr ⟨ha, ?_⟩
    simpa [Particle.elements] using ha₂.grows.hasElement id hid
termination_by 2 * sizeOf e + 1

end

end ContentReader

/-! ## Groups -/

namespace DraftM

/-- The use of a group gives the particle of its model group, with other bounds, however deep groups
may be used within each other. -/
theorem sound_readGroupWithin (depth : Nat) : GroupReader.Sound (readGroupWithin depth) := by
  induction depth using Nat.strongRecOn with
  | ind depth ih =>
    intro expanding context e d hd
    rw [readGroupWithin.eq_def, returns_bind]
    refine (returns_expandGroup _ _ _ _ _ _ _).mono ?_
    rintro ⟨name, definition⟩ _ rfl
    simp only [returns_bind, returns_liftExcept]
    intro occurs _
    split
    · exact returns_throw
    · next content _ =>
      cases depth with
      -- At the limit every reference fails, so there is nothing to show of what is read.
      | zero => exact returns_throw
      | succ depth =>
        rw [returns_bind]
        refine (ContentReader.returns_readModelGroup (ih depth (Nat.lt_succ_self _)) _ _ content
          hd).mono fun p d' h => ?_
        refine returns_pure.mpr ⟨h.1, ?_⟩
        refine ⟨(p.isGroup_withOccurs occurs).trans h.2.1, ?_⟩
        rw [Particle.elements_withOccurs h.2.1]
        exact h.2.2

theorem sound_readGroup : GroupReader.Sound readGroup := by
  intro expanding context e d hd
  unfold readGroup
  rw [returns_bind, returns_get]
  exact sound_readGroupWithin _ expanding context e d hd

end DraftM

end SchemaBinding.Xsd
