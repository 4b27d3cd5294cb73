import SchemaBinding.Proofs.Xsd.Expansion
import SchemaBinding.Xsd.Parse

/-!
# What reading leaves alone

Once all components have been declared, reading them adds anonymous types, local elements and
attributes, and sets what declared components say. Whatever such changes keep is kept by reading as
a whole; by induction on the elements that are read, and on how deep groups are used within each
other.

## Main definitions

* `Draft.Stable`: what is true of a draft whatever is read after all declarations

## Main results

* `DraftM.keeps_readSimpleType`, `ContentReader.keeps_readElement`, …: the readers
* `DraftM.keeps_readGlobal`: reading a declared component
-/

namespace SchemaBinding.Xsd

open Xml (Element QName)

/-- What is true of a draft whatever is read after all components have been declared: the types that
are added have no names, the elements and attributes have names without colon, and what is there
keeps its name. -/
structure Draft.Stable (I : Draft → Prop) : Prop where
  log : ∀ d log, I d → I { d with log := log }
  waiting : ∀ d waiting, I d → I { d with waiting := waiting }
  addType : ∀ d namespaceUri base kind, I d →
    I { d with set := (d.set.addType ⟨none, namespaceUri, base, kind⟩).2 }
  addElement : ∀ d e, Xml.isNCName e.name = true → I d → I { d with set := (d.set.addElement e).2 }
  addAttribute : ∀ d a, Xml.isNCName a.name = true → I d →
    I { d with set := (d.set.addAttribute a).2 }
  defineType : ∀ d id base kind, I d →
    I { d with set := d.set.modifyType id fun t => { t with base := base, kind := kind } }
  modifyElement : ∀ d id f, (∀ e, (f e).name = e.name) → I d →
    I { d with set := d.set.modifyElement id f }
  modifyAttribute : ∀ d id f, (∀ a, (f a).name = a.name) → I d →
    I { d with set := d.set.modifyAttribute id f }

namespace DraftM

/-- A required name is there, and is a name without colon. -/
theorem of_requiredName {context : Context} {e : Element} {name : String}
    (h : context.requiredName e = .ok name) :
    e.attribute? "name" = some name ∧ Xml.isNCName name = true := by
  unfold Context.requiredName at h
  obtain ⟨value, hvalue, h⟩ := bind_eq_ok_iff.mp h
  split at h
  · next hn =>
    cases h
    exact ⟨Context.required_eq_ok_iff.mp hvalue, hn⟩
  · cases h

section Single

variable {I : Draft → Prop}

theorem keeps_getSet : Keeps I getSet := keeps_get.bind fun _ => keeps_pure _

/-- Looking a component up changes nothing. -/
theorem keeps_componentNamed {α : Type} (symbol : Symbol) (find? : Draft → QName → Option α)
    (context : Context) (e : Element) (reference : String) :
    Keeps I (componentNamed symbol find? context e reference) := by
  refine (keeps_liftExcept _).bind fun name => keeps_get.bind fun d => ?_
  split
  · exact keeps_pure _
  · exact keeps_throw _

theorem keeps_simpleTypeNamed (context : Context) (e : Element) (reference : String) :
    Keeps I (simpleTypeNamed context e reference) := by
  refine (keeps_componentNamed _ _ _ _ _).bind fun id => keeps_getSet.bind fun set => ?_
  exact Keeps.ite (fun _ => keeps_pure _) fun _ => keeps_throw _

theorem keeps_expandGroup (symbol : Symbol) (tag : String) (circular : QName → Fault)
    (groups : Draft → OrderedMap QName GroupDefinition) (expanding : List QName)
    (context : Context) (e : Element) :
    Keeps I (expandGroup symbol tag circular groups expanding context e) := by
  refine (keeps_liftExcept _).bind fun reference => (keeps_liftExcept _).bind fun name => ?_
  refine Keeps.ite (fun _ => keeps_throw _) fun _ => keeps_get.bind fun d => ?_
  split
  · exact keeps_pure _
  · exact keeps_throw _

variable (hI : Draft.Stable I)
include hI

theorem keeps_report (level : Log.Level) (text : String) : Keeps I (report level text) :=
  keeps_modify fun d h => hI.log d _ h

theorem keeps_await (id : TypeId) (inheritance : Inheritance) : Keeps I (await id inheritance) :=
  keeps_modify fun d h => hI.waiting d _ h

theorem keeps_newType (context : Context) (kind : TypeKind) : Keeps I (newType none context kind) :=
  fun d h => hI.addType d _ _ _ h

theorem keeps_newElement {name : String} (hname : Xml.isNCName name = true) (namespaceUri : String)
    (isGlobal : Bool) : Keeps I (newElement name namespaceUri isGlobal) :=
  fun d h => hI.addElement d _ hname h

theorem keeps_newAttribute {name : String} (hname : Xml.isNCName name = true)
    (namespaceUri : String) (isGlobal : Bool) : Keeps I (newAttribute name namespaceUri isGlobal) :=
  fun d h => hI.addAttribute d _ hname h

theorem keeps_defineType (id base : TypeId) (kind : TypeKind) : Keeps I (defineType id base kind) :=
  fun d h => hI.defineType d _ _ _ h

/-- Reading a simple type keeps what is stable, to any depth of types within each other. -/
theorem keeps_readSimpleType (context : Context) (e : Element) (id : TypeId) :
    Keeps I (readSimpleType context e id) := by
  rw [readSimpleType]
  split
  · exact keeps_throw _
  · next derivation h =>
    have hd : sizeOf derivation < sizeOf e := sizeOf_lt_of_find?_children h
    have anonymous : ∀ c ∈ derivation.children, Keeps I (do
        let id ← newType none context (.simple (.restriction .empty))
        readSimpleType context c id
        return id) := by
      intro c hc
      have hlt : sizeOf c < sizeOf e := Nat.lt_trans (sizeOf_lt_of_mem_children hc) hd
      apply (keeps_newType hI context _).bind
      intro id
      exact (keeps_readSimpleType context c id).bind fun _ => keeps_pure _
    dsimp only
    split
    · have rest : ∀ base, Keeps I (do
          let facets ← context.facets derivation
          defineType id base (.simple (.restriction facets)) : DraftM Unit) := fun base =>
        (keeps_liftExcept _).bind fun facets => keeps_defineType hI id base _
      split
      · exact (keeps_simpleTypeNamed _ _ _).bind rest
      · refine Keeps.bind ?_ rest
        split
        · next c hc => exact anonymous c (List.mem_of_find?_eq_some hc)
        · exact keeps_throw _
    · split
      · exact (keeps_simpleTypeNamed _ _ _).bind fun item => keeps_defineType hI id _ _
      · refine Keeps.bind ?_ fun item => keeps_defineType hI id _ _
        split
        · next c hc => exact anonymous c (List.mem_of_find?_eq_some hc)
        · exact keeps_throw _
    · apply Keeps.bind (keeps_mapM fun _ _ => keeps_simpleTypeNamed _ _ _)
      intro named
      refine Keeps.bind (keeps_mapM fun c _ => ?_) fun members => ?_
      · exact Keeps.ite (fun _ => (anonymous c.1 c.2).bind fun _ => keeps_pure _)
          fun _ => keeps_pure _
      · refine Keeps.ite (fun _ => ?_) fun _ => keeps_defineType hI id _ _
        exact (keeps_throw _).bind fun _ => keeps_defineType hI id _ _
    · exact keeps_throw _
termination_by sizeOf e

theorem keeps_readAnonymousSimpleType (context : Context) (e : Element) :
    Keeps I (readAnonymousSimpleType context e) :=
  (keeps_newType hI context _).bind fun id =>
    (keeps_readSimpleType hI context e id).bind fun _ => keeps_pure _

/-! ## Attributes -/

/-- What remains of an attribute once its type is known. -/
theorem keeps_defineAttribute (context : Context) (e : Element) (id : AttributeId)
    (type : TypeId) : Keeps I (do
      let name := ((← getSet).attr id).name
      let (defaultValue, fixedValue) ← readValues context e (.attributeDefaultAndFixed name)
      modifySet fun set => set.modifyAttribute id fun a =>
        { a with type := type, defaultValue := defaultValue, fixedValue := fixedValue } :
      DraftM Unit) :=
  keeps_getSet.bind fun _ => (keeps_liftExcept _).bind fun _ =>
    keeps_modify fun d h => hI.modifyAttribute d id _ (fun _ => rfl) h

theorem keeps_readAttribute (context : Context) (e : Element) (id : AttributeId) :
    Keeps I (readAttribute context e id) := by
  unfold readAttribute
  split
  · exact (keeps_simpleTypeNamed _ _ _).bind (keeps_defineAttribute hI context e id)
  · split
    · exact (keeps_readAnonymousSimpleType hI _ _).bind (keeps_defineAttribute hI context e id)
    · exact keeps_defineAttribute hI context e id _

theorem keeps_readAttributeUse (context : Context) (e : Element) :
    Keeps I (readAttributeUse context e) := by
  apply (keeps_liftExcept _).bind
  intro use
  split
  · exact keeps_pure _
  · refine Keeps.bind ?_ fun _ => keeps_pure _
    unfold readUsedAttribute
    split
    · exact keeps_componentNamed _ _ _ _ _
    · refine keeps_bind_of_eq_ok fun name hname => ?_
      refine (keeps_newAttribute hI (of_requiredName hname).2 _ _).bind fun id => ?_
      exact (keeps_readAttribute hI context e id).bind fun _ => keeps_pure _

/-- Reading uses of attributes keeps what is stable, however deep attribute groups may be used
within each other. -/
theorem keeps_readAttributeUsesWithin (depth : Nat) (expanding : List QName) (context : Context)
    (e : Element) : Keeps I (readAttributeUsesWithin depth expanding context e) := by
  induction depth generalizing expanding context e with
  | zero =>
    rw [readAttributeUsesWithin]
    refine Keeps.bind (keeps_mapM fun c _ => ?_) fun _ => keeps_pure _
    split
    · exact keeps_readAttributeUse hI context c
    · exact (keeps_expandGroup _ _ _ _ _ _ _).bind fun _ => keeps_throw _
    · exact (keeps_report hI _ _).bind fun _ => keeps_pure _
    · exact keeps_pure _
  | succ depth ih =>
    rw [readAttributeUsesWithin]
    refine Keeps.bind (keeps_mapM fun c _ => ?_) fun _ => keeps_pure _
    split
    · exact keeps_readAttributeUse hI context c
    · exact (keeps_expandGroup _ _ _ _ _ _ _).bind fun _ => ih _ _ _
    · exact (keeps_report hI _ _).bind fun _ => keeps_pure _
    · exact keeps_pure _

theorem keeps_readAttributeUses (expanding : List QName) (context : Context) (e : Element) :
    Keeps I (readAttributeUses expanding context e) :=
  keeps_get.bind fun _ => keeps_readAttributeUsesWithin hI _ _ _ _

end Single

end DraftM

/-! ## Elements and complex types -/

/-- Reading the use of a group keeps what is said of drafts. -/
def GroupReader.Preserves (I : Draft → Prop) (group : GroupReader) : Prop :=
  ∀ expanding context e, Keeps I (group expanding context e)

namespace ContentReader

open DraftM

variable {I : Draft → Prop}

theorem keeps_readDerived (context : Context) (contentTag : String) (e : Element) :
    Keeps I (readDerived context contentTag e) := by
  have rest : ∀ derivation, Keeps I (do
      let reference ← context.required e "base" (.missingBase e.localName)
      let base ← typeNamed context e reference
      return ⟨derivation, reference, base, ((← getSet).type base).isComplex⟩ : DraftM Derived) :=
    fun derivation => (keeps_liftExcept _).bind fun reference =>
      (keeps_componentNamed _ _ _ _ _).bind fun base => keeps_getSet.bind fun _ => keeps_pure _
  unfold readDerived
  split
  · exact rest _
  · exact rest _
  · exact (keeps_throw _).bind rest

variable {group : GroupReader}

mutual

/-- Reading an element keeps what is stable, with all that stands in it. -/
theorem keeps_readElement (hI : Draft.Stable I) (hgroup : group.Preserves I)
    (expanding : List QName) (context : Context) (e : Element) (id : ElementId) :
    Keeps I (readElement group expanding context e id) := by
  have rest : ∀ type, Keeps I (do
      let name := ((← getSet).element id).name
      let (defaultValue, fixedValue) ← readValues context e (.elementDefaultAndFixed name)
      let nillable ← context.boolean e "nillable"
      modifySet fun set => set.modifyElement id fun d =>
        { d with
          type := type, defaultValue := defaultValue, fixedValue := fixedValue,
          nillable := nillable } : DraftM Unit) :=
    fun type => keeps_getSet.bind fun set => (keeps_liftExcept _).bind fun _ =>
      (keeps_liftExcept _).bind fun _ => keeps_modify fun d h =>
        hI.modifyElement d id _ (fun _ => rfl) h
  rw [readElement]
  split
  · exact (keeps_componentNamed _ _ _ _ _).bind rest
  · split
    · next c h =>
      have : sizeOf c < sizeOf e := sizeOf_lt_of_find?_children h
      refine Keeps.ite (fun _ => ?_) fun _ => (keeps_readAnonymousSimpleType hI _ _).bind rest
      apply (keeps_newType hI context _).bind
      intro type
      exact (keeps_readComplexType hI hgroup expanding context c type (some id)).bind
        fun _ => rest _
    · exact rest _
termination_by 2 * sizeOf e

/-- Reading a complex type keeps what is stable. -/
theorem keeps_readComplexType (hI : Draft.Stable I) (hgroup : group.Preserves I)
    (expanding : List QName) (context : Context) (e : Element) (id : TypeId)
    (scope : Option ElementId) : Keeps I (readComplexType group expanding context e id scope) := by
  rw [readComplexType]
  apply (keeps_liftExcept _).bind
  intro mixed
  split
  · have := sizeOf_children_lt e
    apply (keeps_readContent hI hgroup expanding context e.children).bind
    intro content
    exact (keeps_readAttributeUses hI expanding context e).bind fun _ => keeps_defineType hI _ _ _
  · next content h =>
    have hc : sizeOf content < sizeOf e := sizeOf_lt_of_find?_children h
    split
    · exact keeps_throw _
    · next derivation h' =>
      have hd : sizeOf derivation < sizeOf content := sizeOf_lt_of_find?_children h'
      have hcs : sizeOf derivation.children < sizeOf derivation := sizeOf_children_lt derivation
      apply (keeps_readDerived context _ derivation).bind
      intro derived
      have rest : ∀ definition : ComplexType, Keeps I (do
          let uses ← readAttributeUses expanding context derivation
          defineType id derived.base (.complex { definition with attributes := uses }) :
          DraftM Unit) := fun definition =>
        (keeps_readAttributeUses hI expanding context derivation).bind fun _ =>
          keeps_defineType hI _ _ _
      refine Keeps.ite (fun _ => ?_) fun _ =>
        Keeps.ite (fun _ => (keeps_throw _).bind rest) fun _ => ?_
      · refine Keeps.ite (fun _ => ?_) fun _ =>
          Keeps.ite (fun _ => (keeps_pure _).bind rest) fun _ => (keeps_throw _).bind rest
        exact (keeps_await hI _ _).bind fun _ => (keeps_pure _).bind rest
      · refine Keeps.ite (fun _ => (keeps_liftExcept _).bind ?_) fun _ => (keeps_pure _).bind ?_
        all_goals
          intro mixed
          apply (keeps_readContent hI hgroup expanding context derivation.children).bind
          intro own
          refine Keeps.ite (fun _ => ?_) fun _ => (keeps_pure _).bind rest
          exact (keeps_await hI _ _).bind fun _ => (keeps_pure _).bind rest
termination_by 2 * sizeOf e

theorem keeps_readContent (hI : Draft.Stable I) (hgroup : group.Preserves I)
    (expanding : List QName) (context : Context) (es : List Element) :
    Keeps I (readContent group expanding context es) := by
  match es with
  | [] =>
    rw [readContent]
    exact keeps_pure _
  | e :: es =>
    rw [readContent]
    split
    · exact (keeps_readModelGroup hI hgroup expanding context e).bind fun _ => keeps_pure _
    · exact (keeps_readModelGroup hI hgroup expanding context e).bind fun _ => keeps_pure _
    · exact (keeps_readModelGroup hI hgroup expanding context e).bind fun _ => keeps_pure _
    · exact (hgroup _ _ _).bind fun _ => keeps_pure _
    · exact keeps_readContent hI hgroup expanding context es
termination_by 2 * sizeOf es

theorem keeps_readModelGroup (hI : Draft.Stable I) (hgroup : group.Preserves I)
    (expanding : List QName) (context : Context) (e : Element) :
    Keeps I (readModelGroup group expanding context e) := by
  rw [readModelGroup]
  apply (keeps_liftExcept _).bind
  intro occurs
  have := sizeOf_children_lt e
  exact (keeps_readParticles hI hgroup expanding context _ e.children).bind fun _ => keeps_pure _
termination_by 2 * sizeOf e

theorem keeps_readParticles (hI : Draft.Stable I) (hgroup : group.Preserves I)
    (expanding : List QName) (context : Context) (compositor : Compositor) (es : List Element) :
    Keeps I (readParticles group expanding context compositor es) := by
  match es with
  | [] =>
    rw [readParticles]
    exact keeps_pure _
  | e :: es =>
    rw [readParticles]
    have rest : ∀ particle : Option Particle, Keeps I (do
        let particles ← readParticles group expanding context compositor es
        return particle.toList ++ particles : DraftM (List Particle)) := fun particle =>
      (keeps_readParticles hI hgroup expanding context compositor es).bind fun _ => keeps_pure _
    split
    · exact ((keeps_readLocalElement hI hgroup expanding context e).map _).bind rest
    · exact ((keeps_readModelGroup hI hgroup expanding context e).map _).bind rest
    · exact ((keeps_readModelGroup hI hgroup expanding context e).map _).bind rest
    · exact ((keeps_readModelGroup hI hgroup expanding context e).map _).bind rest
    · exact ((hgroup _ _ _).map _).bind rest
    · exact (keeps_liftExcept _).bind fun _ => (keeps_pure _).bind rest
    · exact (keeps_pure _).bind rest
    · exact (keeps_throw _).bind rest
termination_by 2 * sizeOf es

theorem keeps_readLocalElement (hI : Draft.Stable I) (hgroup : group.Preserves I)
    (expanding : List QName) (context : Context) (e : Element) :
    Keeps I (readLocalElement group expanding context e) := by
  rw [readLocalElement]
  apply (keeps_liftExcept _).bind
  intro occurs
  split
  · exact (keeps_componentNamed _ _ _ _ _).bind fun _ => keeps_pure _
  · refine keeps_bind_of_eq_ok fun name hname => ?_
    refine (keeps_newElement hI (of_requiredName hname).2 _ _).bind fun id => ?_
    exact (keeps_readElement hI hgroup expanding context e id).bind fun _ => keeps_pure _
termination_by 2 * sizeOf e + 1

end

end ContentReader

namespace DraftM

section Global

variable {I : Draft → Prop} (hI : Draft.Stable I)
include hI

/-- Reading the use of a group keeps what is stable, however deep groups may be used within each
other. -/
theorem keeps_readGroupWithin (depth : Nat) (expanding : List QName) (context : Context)
    (e : Element) : Keeps I (readGroupWithin depth expanding context e) := by
  induction depth using Nat.strongRecOn generalizing expanding context e with
  | ind depth ih =>
    rw [readGroupWithin.eq_def]
    refine (keeps_expandGroup _ _ _ _ _ _ _).bind fun _ => (keeps_liftExcept _).bind fun _ => ?_
    split
    · exact keeps_throw _
    · cases depth with
      | zero => exact keeps_throw _
      | succ depth =>
        exact (ContentReader.keeps_readModelGroup hI (ih depth (Nat.lt_succ_self _)) _ _ _).bind
          fun _ => keeps_pure _

theorem keeps_readGroup (expanding : List QName) (context : Context) (e : Element) :
    Keeps I (readGroup expanding context e) :=
  keeps_get.bind fun _ => keeps_readGroupWithin hI _ _ _ _

/-- Reading a declared component keeps what is stable. -/
theorem keeps_readGlobal (g : Global) : Keeps I (readGlobal g) := by
  unfold readGlobal
  split
  · exact ContentReader.keeps_readElement hI (keeps_readGroup hI) _ _ _ _
  · exact keeps_readAttribute hI _ _ _
  · exact ContentReader.keeps_readComplexType hI (keeps_readGroup hI) _ _ _ _ _
  · exact keeps_readSimpleType hI _ _ _

end Global

end DraftM

end SchemaBinding.Xsd
