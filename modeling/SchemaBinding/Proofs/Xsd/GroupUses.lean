import SchemaBinding.Proofs.Xsd.RereadContent

/-!
# Uses of groups

Which uses of groups the readers come to in an element, in anonymous types too. Reading fails
because a group is used within itself only as one of these uses does; if it succeeds, all of them
do. So a reader tests what its uses test, whatever that is; by induction on the elements that are
read.

## Main definitions

* `Error.isCircularGroup`: the errors that say that a group is used within itself
* `GroupKind`: groups and attribute groups
* `GroupUse`: the uses of groups that a reader comes to
* `Tests I P x`: what the success of a step, and its failure because of a group, say about `P`

## Main results

* `Tests.bind`, `tests_gather`, …: rules
* `DraftM.tests_readSimpleType`, …: steps that use no groups
* `ContentReader.tests_readElement`, `ContentReader.tests_readComplexType`: elements and types
-/

namespace SchemaBinding

/-- Whether a fault says that a group or an attribute group is used within itself. -/
def Xsd.Fault.isCircularGroup : Fault → Bool
  | .circularGroup _ | .circularAttributeGroup _ => true
  | _ => false

/-- Whether an error says that a group or an attribute group is used within itself. -/
def Error.isCircularGroup : Error → Bool
  | .parse fault _ => fault.isCircularGroup
  | _ => false

namespace Xsd

open Xml (Element QName)

/-! ## Uses -/

/-- The kinds of groups. Each has names of its own. -/
inductive GroupKind where
  | content
  | attributes
  deriving DecidableEq, Repr

/-- The tag of the definitions and uses of groups of a kind. -/
def GroupKind.tag : GroupKind → String
  | .content => "group"
  | .attributes => "attributeGroup"

/-- What an element is read as. -/
inductive Holder where
  | element
  | complexType
  | particle
  | definition (kind : GroupKind)
  deriving DecidableEq, Repr

/-- Whether an element is a particle that can be the content of a type. -/
def isContentParticle (e : Element) : Bool :=
  e.localName == "sequence" || e.localName == "choice" || e.localName == "all" ||
    e.localName == "group"

/-- The element whose children are the attributes of a complex type: its derivation, if it has
one. -/
def attributesHolder? (e : Element) : Option Element :=
  match e.children.find? ContentReader.isDerivedContent with
  | none => some e
  | some content => firstComponent? content

/-- The element among whose children is the particle of a complex type. Simple content has none. -/
def particleHolder? (e : Element) : Option Element :=
  match e.children.find? ContentReader.isDerivedContent with
  | none => some e
  | some content => if content.localName = "simpleContent" then none else firstComponent? content

/-- The use of a group, as it stands in an element that is read: in the content or the attributes of
a complex type, also of an anonymous one, in a model group, or in the definition of a group. -/
inductive GroupUse : Holder → Element → GroupKind → Element → Prop
  | inlineType {e c use : Element} {kind : GroupKind} :
      e.attribute? "type" = none → inlineType? e = some c → c.localName = "complexType" →
      GroupUse .complexType c kind use → GroupUse .element e kind use
  | attributes {e holder use : Element} :
      attributesHolder? e = some holder → use ∈ holder.children →
      use.localName = "attributeGroup" → GroupUse .complexType e .attributes use
  | content {e holder particle use : Element} {kind : GroupKind} :
      particleHolder? e = some holder →
      holder.children.find? isContentParticle = some particle →
      GroupUse .particle particle kind use → GroupUse .complexType e kind use
  | group {e : Element} : e.localName = "group" → GroupUse .particle e .content e
  | localElement {e use : Element} {kind : GroupKind} :
      e.localName = "element" → e.attribute? "ref" = none → GroupUse .element e kind use →
      GroupUse .particle e kind use
  | modelGroup {e c use : Element} {kind : GroupKind} :
      (Compositor.ofTag? e.localName).isSome = true → c ∈ e.children →
      GroupUse .particle c kind use → GroupUse .particle e kind use
  | groupDefinition {e content c use : Element} {kind : GroupKind} :
      modelGroup? e.children = some content → c ∈ content.children →
      GroupUse .particle c kind use → GroupUse (.definition .content) e kind use
  | attributeGroupDefinition {e use : Element} : use ∈ e.children →
      use.localName = "attributeGroup" → GroupUse (.definition .attributes) e .attributes use

/-- A reference to a group of a kind anywhere in an element. -/
def GroupMention : Holder → Element → GroupKind → Element → Prop :=
  fun _ e kind use => use ∈ e.descendants ∧ use.localName = kind.tag

/-- What stands below the holder of the attributes of a type stands below the type. -/
theorem descendants_subset_of_attributesHolder? {e holder : Element}
    (h : attributesHolder? e = some holder) : holder.descendants ⊆ e.descendants := by
  unfold attributesHolder? at h
  split at h
  · cases h
    exact List.Subset.refl _
  · next content hc =>
    exact fun d hd => Element.mem_descendants_of_mem (List.mem_of_find?_eq_some hc)
      (Element.mem_descendants_of_mem (List.mem_of_find?_eq_some h) hd)

/-- The particles of a type stand in the element that holds its attributes. -/
theorem attributesHolder?_of_particleHolder? {e holder : Element}
    (h : particleHolder? e = some holder) : attributesHolder? e = some holder := by
  unfold particleHolder? at h
  unfold attributesHolder?
  cases hc : e.children.find? ContentReader.isDerivedContent with
  | none =>
    rw [hc] at h
    exact h
  | some content =>
    rw [hc] at h
    dsimp only at h
    split at h
    · cases h
    · exact h

namespace GroupUse

variable {holder : Holder} {e use : Element} {kind : GroupKind}

theorem localName (h : GroupUse holder e kind use) : use.localName = kind.tag := by
  induction h with
  | attributes _ _ hname => exact hname
  | group hname => exact hname
  | attributeGroupDefinition _ hname => exact hname
  | inlineType | content | localElement | modelGroup | groupDefinition => assumption

/-- What is read stands in the element, unless it is the element itself. -/
theorem mem_descendants (h : GroupUse holder e kind use) :
    (holder = .particle ∧ use = e) ∨ use ∈ e.descendants := by
  have below : ∀ {c e use : Element} {holder : Holder}, c ∈ e.children →
      (holder = .particle ∧ use = c) ∨ use ∈ c.descendants → use ∈ e.descendants := by
    rintro c e use holder hc (⟨-, rfl⟩ | hu)
    · exact Element.mem_descendants_of_child hc
    · exact Element.mem_descendants_of_mem hc hu
  induction h with
  | inlineType _ hc _ _ ih => exact .inr (below (List.mem_of_find?_eq_some hc) ih)
  | attributes hh hmem _ =>
    exact .inr (descendants_subset_of_attributesHolder? hh (Element.mem_descendants_of_child hmem))
  | content hh hp _ ih =>
    exact .inr (descendants_subset_of_attributesHolder? (attributesHolder?_of_particleHolder? hh)
      (below (List.mem_of_find?_eq_some hp) ih))
  | group => exact .inl ⟨rfl, rfl⟩
  | localElement _ _ _ ih => exact .inr (ih.resolve_left fun h => nomatch h.1)
  | modelGroup _ hc _ ih => exact .inr (below hc ih)
  | groupDefinition hm hc _ ih =>
    exact .inr (Element.mem_descendants_of_mem (List.mem_of_find?_eq_some hm) (below hc ih))
  | attributeGroupDefinition hmem _ => exact .inr (Element.mem_descendants_of_child hmem)

/-- What is read is referred to. -/
theorem mention (hholder : holder ≠ .particle) (h : GroupUse holder e kind use) :
    GroupMention holder e kind use :=
  ⟨h.mem_descendants.resolve_left fun h => hholder h.1, h.localName⟩

end GroupUse

/-- What is known of all uses of groups in an element. -/
def AllUses (free : GroupKind → Element → Prop) (holder : Holder) (e : Element) : Prop :=
  ∀ kind use, GroupUse holder e kind use → free kind use

section AllUses

variable {free : GroupKind → Element → Prop} {e c : Element}

/-- An element with a type attribute uses no group, since nothing that stands in it is read. -/
theorem allUses_typed {reference : String} (h : e.attribute? "type" = some reference) :
    AllUses free .element e := by
  rintro kind use (⟨htype, -, -, -⟩)
  cases h.symm.trans htype

theorem allUses_untyped (h : inlineType? e = none) : AllUses free .element e := by
  rintro kind use (⟨-, hc, -, -⟩)
  cases h.symm.trans hc

theorem allUses_simpleType (hc : inlineType? e = some c) (h : c.localName ≠ "complexType") :
    AllUses free .element e := by
  rintro kind use (⟨-, hc', hname, -⟩)
  cases hc.symm.trans hc'
  exact absurd hname h

/-- An element without a type attribute uses the groups that the complex type in it uses. -/
theorem allUses_inlineType (htype : e.attribute? "type" = none) (hc : inlineType? e = some c)
    (hname : c.localName = "complexType") :
    AllUses free .element e ↔ AllUses free .complexType c := by
  refine ⟨fun h kind use hu => h kind use (.inlineType htype hc hname hu), ?_⟩
  rintro h kind use (⟨-, hc', -, hu⟩)
  cases hc.symm.trans hc'
  exact h kind use hu

/-- What the attributes of a complex type use. -/
def AllAttributeUses (free : GroupKind → Element → Prop) (holder : Element) : Prop :=
  ∀ use ∈ holder.children, use.localName = "attributeGroup" → free .attributes use

/-- What the content among some elements uses. -/
def AllContentUses (free : GroupKind → Element → Prop) (es : List Element) : Prop :=
  ∀ particle, es.find? isContentParticle = some particle → AllUses free .particle particle

/-- Of a list of children only the first particle is content. -/
theorem allContentUses_cons_of_pos {es : List Element} (h : isContentParticle e = true) :
    AllContentUses free (e :: es) ↔ AllUses free .particle e := by
  unfold AllContentUses
  rw [List.find?_cons_of_pos h]
  simp

/-- Children that are no particles are passed over on the way to the content. -/
theorem allContentUses_cons_of_neg {es : List Element} (h : ¬ isContentParticle e = true) :
    AllContentUses free (e :: es) ↔ AllContentUses free es := by
  unfold AllContentUses
  rw [List.find?_cons_of_neg h]

/-- A complex type uses groups by its content and by its attributes, each of them where it stands.
-/
theorem allUses_complexType : AllUses free .complexType e ↔
    (∀ holder, particleHolder? e = some holder → AllContentUses free holder.children) ∧
      ∀ holder, attributesHolder? e = some holder → AllAttributeUses free holder := by
  constructor
  · exact fun h => ⟨fun holder hh particle hp kind use hu => h kind use (.content hh hp hu),
      fun holder hh use hmem hname => h _ use (.attributes hh hmem hname)⟩
  · rintro ⟨hcontent, hattributes⟩ kind use hu
    cases hu with
    | attributes hh hmem hname => exact hattributes _ hh use hmem hname
    | content hh hp hu => exact hcontent _ hh _ hp kind use hu

/-- A reference to a group is one use. -/
theorem allUses_group (h : e.localName = "group") :
    AllUses free .particle e ↔ free .content e := by
  refine ⟨fun hall => hall _ _ (.group h), ?_⟩
  intro hfree kind use hu
  cases hu with
  | group => exact hfree
  | localElement hname => exact absurd (h.symm.trans hname) (by decide)
  | modelGroup hname =>
    rw [h] at hname
    cases hname

/-- A model group uses the groups that its children use. -/
theorem allUses_modelGroup (h : (Compositor.ofTag? e.localName).isSome = true) :
    AllUses free .particle e ↔ ∀ c ∈ e.children, AllUses free .particle c := by
  refine ⟨fun hall c hc kind use hu => hall kind use (.modelGroup h hc hu), ?_⟩
  intro hall kind use hu
  cases hu with
  | group hname | localElement hname =>
    rw [hname] at h
    cases h
  | modelGroup _ hc hu => exact hall _ hc kind use hu

/-- A local element uses as a particle the groups that it uses as an element. -/
theorem allUses_localElement (h : e.localName = "element") (href : e.attribute? "ref" = none) :
    AllUses free .particle e ↔ AllUses free .element e := by
  refine ⟨fun hall kind use hu => hall kind use (.localElement h href hu), ?_⟩
  intro hall kind use hu
  cases hu with
  | group hname => exact absurd (h.symm.trans hname) (by decide)
  | localElement _ _ hu => exact hall kind use hu
  | modelGroup hname =>
    rw [h] at hname
    cases hname

/-- A reference to an element uses no group, since the element is declared elsewhere. -/
theorem allUses_elementReference (h : e.localName = "element") {reference : String}
    (href : e.attribute? "ref" = some reference) : AllUses free .particle e := by
  intro kind use hu
  cases hu with
  | group hname => exact absurd (h.symm.trans hname) (by decide)
  | localElement _ href' => cases href.symm.trans href'
  | modelGroup hname =>
    rw [h] at hname
    cases hname

/-- Other particles use no groups. -/
theorem allUses_other (hgroup : e.localName ≠ "group") (helement : e.localName ≠ "element")
    (hcompositor : Compositor.ofTag? e.localName = none) : AllUses free .particle e := by
  intro kind use hu
  cases hu with
  | group hname => exact absurd hname hgroup
  | localElement hname => exact absurd hname helement
  | modelGroup hname =>
    rw [hcompositor] at hname
    cases hname

/-- The definition of a group uses the groups that its model group uses. -/
theorem allUses_groupDefinition {content : Element} (h : modelGroup? e.children = some content) :
    AllUses free (.definition .content) e ↔ AllUses free .particle content := by
  rw [allUses_modelGroup (by simpa using List.find?_some h)]
  refine ⟨fun hall c hc kind use hu => hall kind use (.groupDefinition h hc hu), ?_⟩
  rintro hall kind use (- | - | - | - | - | - | ⟨h', hc, hu⟩)
  cases h.symm.trans h'
  exact hall _ hc kind use hu

theorem allUses_attributeGroupDefinition :
    AllUses free (.definition .attributes) e ↔ AllAttributeUses free e := by
  refine ⟨fun hall use hmem hname => hall _ use (.attributeGroupDefinition hmem hname), ?_⟩
  rintro hall kind use (- | - | - | - | - | - | - | ⟨hmem, hname⟩)
  exact hall use hmem hname

end AllUses

/-! ## Steps that test -/

/-- A step keeps `I`. If it succeeds in a state with `I`, then `P` holds; if it fails because a
group is used within itself, then `P` does not. -/
def Tests {α : Type} (I : Draft → Prop) (P : Prop) (x : DraftM α) : Prop :=
  ∀ d, I d → Ends d x fun r d' => I d' ∧ (∀ a, r = .ok a → P) ∧
    ∀ e, r = .error e → e.isCircularGroup = true → ¬ P

/-- A computation without state does not fail because of a group. -/
def Harmless {α : Type} (x : Result α) : Prop := ∀ e, x = .error e → e.isCircularGroup = false

section Rules

variable {α β : Type} {I : Draft → Prop} {P Q : Prop}

/-- What is tested can be said in other words. -/
theorem Tests.congr {x : DraftM α} (h : Tests I P x) (hPQ : P ↔ Q) : Tests I Q x := by
  rwa [propext hPQ] at h

/-- What always holds is tested by every step that keeps the invariant and is not concerned with
groups. -/
theorem Tests.of_true {x : DraftM α} (h : Tests I True x) (hP : P) : Tests I P x :=
  h.congr ⟨fun _ => hP, fun _ => trivial⟩

theorem tests_pure (a : α) : Tests I True (pure a) :=
  fun _ hd => ⟨hd, fun _ _ => trivial, fun _ h => nomatch h⟩

theorem tests_throw {e : Error} (he : e.isCircularGroup = false) :
    Tests I P (throw e : DraftM α) := by
  refine fun _ hd => ⟨hd, nofun, ?_⟩
  rintro _ ⟨⟩ hcircular
  cases he.symm.trans hcircular

theorem tests_get : Tests I True (get : DraftM Draft) :=
  fun _ hd => ⟨hd, fun _ _ => trivial, fun _ h => nomatch h⟩

theorem tests_modify {f : Draft → Draft} (hf : ∀ d, I d → I (f d)) :
    Tests I True (modify f : DraftM PUnit) :=
  fun d hd => ⟨hf d hd, fun _ _ => trivial, fun _ h => nomatch h⟩

theorem tests_liftExcept {x : Result α} (hx : Harmless x) : Tests I True (liftM x : DraftM α) :=
  fun _ hd => ⟨hd, fun _ _ => trivial, fun e he hcircular => by
    cases (hx e he).symm.trans hcircular⟩

theorem Tests.bind {x : DraftM α} {f : α → DraftM β} (hx : Tests I P x)
    (hf : ∀ a, Tests I Q (f a)) : Tests I (P ∧ Q) (x >>= f) := by
  intro d hd
  rw [ends_bind]
  apply (hx d hd).mono
  rintro (e | a) d₁ ⟨hd₁, hok, herror⟩
  · refine ⟨hd₁, nofun, ?_⟩
    rintro _ ⟨⟩ hcircular ⟨hP, -⟩
    exact herror e rfl hcircular hP
  · apply (hf a d₁ hd₁).mono
    rintro r d₂ ⟨hd₂, hok₂, herror₂⟩
    exact ⟨hd₂, fun b hb => ⟨hok a rfl, hok₂ b hb⟩, fun e he hcircular hPQ =>
      herror₂ e he hcircular hPQ.2⟩

/-- What comes after steps that are not concerned with groups decides. -/
theorem Tests.before {x : DraftM α} {f : α → DraftM β} (hx : Tests I True x)
    (hf : ∀ a, Tests I P (f a)) : Tests I P (x >>= f) :=
  (hx.bind hf).congr (iff_of_eq (true_and P))

/-- A step that is followed by harmless ones tests what it tests alone. -/
theorem Tests.after {x : DraftM α} {f : α → DraftM β} (hx : Tests I P x)
    (hf : ∀ a, Tests I True (f a)) : Tests I P (x >>= f) :=
  (hx.bind hf).congr (iff_of_eq (and_true P))

/-- What a computation without state gives is known when it goes on. -/
theorem tests_bind_of_eq_ok {x : Result α} {f : α → DraftM β} (hx : Harmless x)
    (hf : ∀ a, x = .ok a → Tests I P (f a)) : Tests I P ((liftM x : DraftM α) >>= f) := by
  cases x with
  | error e => exact tests_throw (hx e rfl)
  | ok a => exact hf a rfl

theorem Tests.map {x : DraftM α} (f : α → β) (hx : Tests I P x) : Tests I P (f <$> x) := by
  rw [map_eq_pure_bind]
  exact hx.after fun a => tests_pure (f a)

theorem Tests.ite {c : Prop} [Decidable c] {x y : DraftM α} (hx : c → Tests I P x)
    (hy : ¬ c → Tests I P y) : Tests I P (if c then x else y) := by
  split
  · next h => exact hx h
  · next h => exact hy h

/-- A list of steps tests what each of them tests. -/
theorem tests_mapM {R : α → Prop} {f : α → DraftM β} {xs : List α}
    (hf : ∀ a ∈ xs, Tests I (R a) (f a)) : Tests I (∀ a ∈ xs, R a) (xs.mapM f) := by
  induction xs with
  | nil => exact (tests_pure _).of_true nofun
  | cons a xs ih =>
    rw [List.mapM_cons]
    refine ((hf a List.mem_cons_self).bind fun b => ?_).congr List.forall_mem_cons.symm
    exact (ih fun a' ha' => hf a' (List.mem_cons_of_mem _ ha')).after fun bs => tests_pure _

theorem tests_gather {R : α → Prop} {f : α → DraftM (List β)} {xs : List α}
    (hf : ∀ a ∈ xs, Tests I (R a) (f a)) : Tests I (∀ a ∈ xs, R a) (gather f xs) :=
  (tests_mapM hf).map List.flatten

theorem tests_forM {R : α → Prop} {f : α → DraftM PUnit} {xs : List α}
    (hf : ∀ a ∈ xs, Tests I (R a) (f a)) : Tests I (∀ a ∈ xs, R a) (xs.forM f) := by
  induction xs with
  | nil => exact (tests_pure _).of_true nofun
  | cons a xs ih =>
    show Tests I _ (f a >>= fun _ => xs.forM f)
    refine ((hf a List.mem_cons_self).bind fun _ => ?_).congr List.forall_mem_cons.symm
    exact ih fun a' ha' => hf a' (List.mem_cons_of_mem _ ha')

end Rules

/-! ## Values of attributes -/

section Harmless

variable {α β : Type}

theorem harmless_ok (a : α) : Harmless (.ok a) := fun _ h => nomatch h

theorem harmless_error {e : Error} (h : e.isCircularGroup = false) :
    Harmless (.error e : Result α) := by
  rintro _ ⟨⟩
  exact h

theorem Harmless.bind {x : Result α} {f : α → Result β} (hx : Harmless x)
    (hf : ∀ a, Harmless (f a)) : Harmless (x >>= f) := by
  intro e he
  rcases bind_eq_error_iff.mp he with h | ⟨a, -, h⟩
  · exact hx e h
  · exact hf a e h

theorem harmless_mapError {ε : Type} {x : Except ε α} {f : ε → Error}
    (hf : ∀ e, (f e).isCircularGroup = false) : Harmless (x.mapError f) := by
  cases x with
  | ok a => exact harmless_ok a
  | error e => exact harmless_error (hf e)

variable (context : Context) (e : Element)

theorem harmless_required (name : String) {missing : Fault}
    (h : (context.fault missing).isCircularGroup = false) :
    Harmless (context.required e name missing) := by
  unfold Context.required
  split
  · exact harmless_ok _
  · exact harmless_error h

theorem harmless_requiredName : Harmless (context.requiredName e) := by
  refine (harmless_required context e "name" rfl).bind fun name => ?_
  split
  · exact harmless_ok _
  · exact harmless_error rfl

theorem harmless_resolve (reference : String) : Harmless (context.resolve e reference) := by
  refine (harmless_mapError fun _ => rfl).bind fun name => ?_
  split
  · exact harmless_ok _
  · exact harmless_ok _

/-- Bounds that cannot be read are no circle of groups. -/
theorem isCircularGroup_of_occurs {fault : Fault} {min max : Option String}
    (h : Occurs.parse min max = .error fault) : fault.isCircularGroup = false := by
  unfold Occurs.parse at h
  rcases bind_eq_error_iff.mp h with h | ⟨_, -, h⟩
  · unfold Occurs.parseMin at h
    split at h
    · cases h
    · split at h <;> cases h
      rfl
  · rcases bind_eq_error_iff.mp h with h | ⟨_, -, h⟩
    · unfold Occurs.parseMax at h
      split at h
      · cases h
      · split at h
        · cases h
        · split at h <;> cases h
          rfl
    · split at h
      · cases h
      · split at h <;> cases h
        rfl

theorem harmless_occurs : Harmless (context.occurs e) := by
  unfold Context.occurs
  cases h : Occurs.parse (e.attribute? "minOccurs") (e.attribute? "maxOccurs") with
  | ok occurs => exact harmless_ok occurs
  | error fault => exact harmless_error (isCircularGroup_of_occurs h)

theorem harmless_boolean (name : String) : Harmless (context.boolean e name) := by
  unfold Context.boolean
  split
  · exact harmless_ok _
  · exact harmless_ok _
  · exact harmless_ok _
  · exact harmless_ok _
  · exact harmless_ok _
  · exact harmless_error rfl

theorem harmless_facets : Harmless (context.facets e) := by
  intro failure h
  unfold Context.facets at h
  refine of_foldlM_eq_error (E := fun failure => failure.isCircularGroup = false)
    (fun child _ facets failure hf => ?_) h
  revert failure
  show Harmless (context.addFacet facets child)
  unfold Context.addFacet
  dsimp only
  split
  · exact (harmless_required context child "value" rfl).bind fun value => harmless_ok _
  · split
    · exact harmless_ok _
    · exact harmless_error rfl

theorem harmless_readValues {both : Fault} (h : (context.fault both).isCircularGroup = false) :
    Harmless (DraftM.readValues context e both) := by
  unfold DraftM.readValues
  dsimp only
  split
  · exact harmless_error h
  · exact harmless_ok _

theorem harmless_readUse : Harmless (DraftM.readUse context e) := by
  unfold DraftM.readUse
  split
  · exact harmless_ok _
  · exact harmless_ok _
  · exact harmless_ok _
  · exact harmless_error rfl

end Harmless

/-! ## Steps that use no groups -/

namespace DraftM

variable {I : Draft → Prop}

theorem tests_getSet : Tests I True getSet := tests_get.before fun _ => tests_pure _

/-- Looking a component up tests nothing: it may be missing, but that is another failure. -/
theorem tests_componentNamed {α : Type} (symbol : Symbol) (find? : Draft → QName → Option α)
    (context : Context) (e : Element) (reference : String) :
    Tests I True (componentNamed symbol find? context e reference) := by
  refine (tests_liftExcept (harmless_resolve context e reference)).before fun name => ?_
  refine tests_get.before fun d => ?_
  split
  · exact tests_pure _
  · exact tests_throw rfl

theorem tests_simpleTypeNamed (context : Context) (e : Element) (reference : String) :
    Tests I True (simpleTypeNamed context e reference) :=
  (tests_componentNamed _ _ _ _ _).before fun _ => tests_getSet.before fun _ =>
    Tests.ite (fun _ => tests_pure _) fun _ => tests_throw rfl

variable (hI : Draft.Stable I)
include hI

theorem tests_report (level : Log.Level) (text : String) : Tests I True (report level text) :=
  tests_modify fun d h => hI.log d _ h

theorem tests_await (id : TypeId) (inheritance : Inheritance) :
    Tests I True (await id inheritance) :=
  tests_modify fun d h => hI.waiting d _ h

theorem tests_newType (context : Context) (kind : TypeKind) :
    Tests I True (newType none context kind) :=
  fun d h => ⟨hI.addType d _ _ _ h, fun _ _ => trivial, fun _ h => nomatch h⟩

theorem tests_newElement {name : String} (hname : Xml.isNCName name = true)
    (namespaceUri : String) (isGlobal : Bool) :
    Tests I True (newElement name namespaceUri isGlobal) :=
  fun d h => ⟨hI.addElement d _ hname h, fun _ _ => trivial, fun _ h => nomatch h⟩

theorem tests_newAttribute {name : String} (hname : Xml.isNCName name = true)
    (namespaceUri : String) (isGlobal : Bool) :
    Tests I True (newAttribute name namespaceUri isGlobal) :=
  fun d h => ⟨hI.addAttribute d _ hname h, fun _ _ => trivial, fun _ h => nomatch h⟩

theorem tests_defineType (id base : TypeId) (kind : TypeKind) :
    Tests I True (defineType id base kind) :=
  tests_modify fun d h => hI.defineType d _ _ _ h

/-- Reading what a simple type is derived by tests nothing, if reading the types inside it does not.
-/
theorem tests_readSimpleDerivation (context : Context) (derivation : Element) (id : TypeId)
    (anonymous : ∀ c ∈ derivation.children, Tests I True (readAnonymousSimpleType context c)) :
    Tests I True (readSimpleDerivation context derivation id) := by
  have inline : ∀ missing, (context.fault missing).isCircularGroup = false →
      Tests I True (inlineSimpleType context derivation missing) := by
    intro missing hmissing
    unfold inlineSimpleType
    split
    · next c hc => exact anonymous c (List.mem_of_find?_eq_some hc)
    · exact tests_throw hmissing
  unfold readSimpleDerivation
  refine Tests.ite (fun _ => ?_) fun _ => Tests.ite (fun _ => ?_) fun _ =>
    Tests.ite (fun _ => ?_) fun _ => tests_throw rfl
  · have rest : ∀ base, Tests I True (do
        let facets ← context.facets derivation
        defineType id base (.simple (.restriction facets)) : DraftM Unit) := fun base =>
      (tests_liftExcept (harmless_facets context derivation)).before fun facets =>
        tests_defineType hI id base _
    unfold readRestriction
    split
    · exact (tests_simpleTypeNamed _ _ _).before rest
    · exact (inline _ rfl).before rest
  · unfold readList
    split
    · exact (tests_simpleTypeNamed _ _ _).before fun item => tests_defineType hI id _ _
    · exact (inline _ rfl).before fun item => tests_defineType hI id _ _
  · refine Tests.before ?_ fun named => Tests.before ?_ fun inline => ?_
    · exact (tests_mapM fun _ _ => tests_simpleTypeNamed _ _ _).congr (by simp)
    · refine (tests_gather (R := fun _ => True) fun c hc => ?_).congr (by simp)
      exact Tests.ite (fun _ => (anonymous c hc).before fun _ => tests_pure _) fun _ => tests_pure _
    · refine Tests.ite (fun _ => ?_) fun _ => tests_defineType hI id _ _
      exact Tests.before (tests_throw rfl) fun _ => tests_defineType hI id _ _

/-- Reading a simple type tests nothing, to any depth of types within each other. -/
theorem tests_readSimpleType (context : Context) (e : Element) (id : TypeId) :
    Tests I True (readSimpleType context e id) := by
  cases h : firstComponent? e with
  | none =>
    rw [readSimpleType]
    split
    · exact tests_throw rfl
    · next h' => cases h.symm.trans h'
  | some derivation =>
    rw [readSimpleType_eq context h]
    refine tests_readSimpleDerivation hI context derivation id fun c hc => ?_
    have hlt : sizeOf c < sizeOf e :=
      Nat.lt_trans (sizeOf_lt_of_mem_children hc) (sizeOf_lt_of_find?_children h)
    exact (tests_newType hI context _).before fun id =>
      (tests_readSimpleType context c id).before fun _ => tests_pure _
termination_by sizeOf e

theorem tests_readAnonymousSimpleType (context : Context) (e : Element) :
    Tests I True (readAnonymousSimpleType context e) :=
  (tests_newType hI context _).before fun id =>
    (tests_readSimpleType hI context e id).before fun _ => tests_pure _

theorem tests_defineAttribute (context : Context) (e : Element) (id : AttributeId)
    (type : TypeId) : Tests I True (defineAttribute context e id type) :=
  tests_getSet.before fun _ =>
    (tests_liftExcept (harmless_readValues context e rfl)).before fun _ =>
      tests_modify fun d h => hI.modifyAttribute d id _ (fun _ => rfl) h

theorem tests_readAttribute (context : Context) (e : Element) (id : AttributeId) :
    Tests I True (readAttribute context e id) := by
  unfold readAttribute
  split
  · exact (tests_simpleTypeNamed _ _ _).before (tests_defineAttribute hI context e id)
  · split
    · exact (tests_readAnonymousSimpleType hI _ _).before (tests_defineAttribute hI context e id)
    · exact tests_defineAttribute hI context e id _

/-- Reading the use of an attribute tests nothing, for attributes use no groups. -/
theorem tests_readAttributeUse (context : Context) (e : Element) :
    Tests I True (readAttributeUse context e) := by
  refine (tests_liftExcept (harmless_readUse context e)).before fun use => ?_
  split
  · exact tests_pure _
  · refine Tests.before ?_ fun _ => tests_pure _
    unfold readUsedAttribute
    split
    · exact tests_componentNamed _ _ _ _ _
    · refine tests_bind_of_eq_ok (harmless_requiredName context e) fun name hname => ?_
      refine (tests_newAttribute hI (of_requiredName hname).2 _ _).before fun id => ?_
      exact (tests_readAttribute hI context e id).before fun _ => tests_pure _

end DraftM

/-! ## Elements and complex types -/

/-- Reading the use of a group tests whether the group is free, and so does reading the uses of
attributes of an element. -/
structure GroupReader.TestsUses (I : Draft → Prop) (free : GroupKind → Element → Prop)
    (expanding : List QName) (context : Context) (group : GroupReader) : Prop where
  content : ∀ e, e.localName = "group" →
    Tests I (free .content e) (group expanding context e)
  attributes : ∀ e,
    Tests I (AllAttributeUses free e) (DraftM.readAttributeUses expanding context e)

namespace ContentReader

open DraftM

variable {I : Draft → Prop}

theorem tests_readDerived (context : Context) (contentTag : String) (e : Element) :
    Tests I True (readDerived context contentTag e) := by
  have rest : ∀ derivation, Tests I True (do
      let reference ← context.required e "base" (.missingBase e.localName)
      let base ← typeNamed context e reference
      return ⟨derivation, reference, base, ((← getSet).type base).isComplex⟩ : DraftM Derived) :=
    fun derivation => (tests_liftExcept (harmless_required context e "base" rfl)).before
      fun reference => (tests_componentNamed _ _ _ _ _).before fun base =>
        tests_getSet.before fun _ => tests_pure _
  unfold readDerived
  split
  · exact rest _
  · exact rest _
  · exact Tests.before (tests_throw rfl) rest

theorem harmless_readMixed (context : Context) (content : Element) (mixed : Bool) :
    Harmless (readMixed context content mixed) := by
  unfold readMixed
  split
  · exact harmless_boolean context content "mixed"
  · exact harmless_ok mixed

variable {group : GroupReader} {expanding : List QName} {context : Context}
  {free : GroupKind → Element → Prop}

theorem tests_defineElement (hI : Draft.Stable I) (e : Element) (id : ElementId) (type : TypeId) :
    Tests I True (defineElement context e id type) :=
  tests_getSet.before fun _ =>
    (tests_liftExcept (harmless_readValues context e rfl)).before fun _ =>
      (tests_liftExcept (harmless_boolean context e "nillable")).before fun _ =>
        tests_modify fun d h => hI.modifyElement d id _ (fun _ => rfl) h

/-- What a derived type says besides its attributes: only complex content uses groups. -/
theorem tests_derivedDefinition (hI : Draft.Stable I) (content : Element) {derivation : Element}
    (id : TypeId)
    (definition : ComplexType) (derived : Derived)
    (hcontent : Tests I (AllContentUses free derivation.children)
      (readContent group expanding context derivation.children)) :
    Tests I (content.localName = "simpleContent" ∨ AllContentUses free derivation.children)
      (derivedDefinition group expanding context content derivation id definition derived) := by
  unfold derivedDefinition
  refine Tests.ite (fun hsimple => Tests.of_true ?_ (.inl hsimple)) fun hcomplex => ?_
  · refine Tests.ite (fun _ => ?_) fun _ =>
      Tests.ite (fun _ => tests_pure _) fun _ => tests_throw rfl
    exact (tests_await hI _ _).before fun _ => tests_pure _
  · refine Tests.ite (fun _ => tests_throw rfl) fun _ => ?_
    refine (tests_liftExcept (harmless_readMixed context content _)).before fun mixed => ?_
    refine (hcontent.congr (or_iff_right hcomplex).symm).after fun own => ?_
    exact Tests.ite (fun _ => (tests_await hI _ _).before fun _ => tests_pure _)
      fun _ => tests_pure _

mutual

/-- Reading an element tests whether the groups are free that it uses, through the types that are
defined in it. -/
theorem tests_readElement (hI : Draft.Stable I) (huses : group.TestsUses I free expanding context)
    (e : Element) (id : ElementId) :
    Tests I (AllUses free .element e) (readElement group expanding context e id) := by
  have rest : ∀ type, Tests I True (defineElement context e id type) := tests_defineElement hI e id
  rw [readElement_eq]
  cases htype : e.attribute? "type" with
  | some reference =>
    exact ((tests_componentNamed _ _ _ _ _).before rest).of_true (allUses_typed htype)
  | none =>
    cases hc : inlineType? e with
    | none => exact (rest _).of_true (allUses_untyped hc)
    | some c =>
      have : sizeOf c < sizeOf e := sizeOf_lt_of_find?_children hc
      refine Tests.after (Tests.ite (fun hname => ?_) fun hname => ?_) rest
      · refine (tests_newType hI context _).before fun type => ?_
        refine Tests.after ?_ fun _ => tests_pure type
        refine (tests_readComplexType hI huses c type (some id)).congr ?_
        exact (allUses_inlineType htype hc hname).symm
      · exact (tests_readAnonymousSimpleType hI _ _).of_true (allUses_simpleType hc hname)
termination_by 2 * sizeOf e

/-- Reading a complex type tests whether the groups are free that its content and its attributes
use. -/
theorem tests_readComplexType (hI : Draft.Stable I)
    (huses : group.TestsUses I free expanding context) (e : Element) (id : TypeId)
    (scope : Option ElementId) :
    Tests I (AllUses free .complexType e) (readComplexType group expanding context e id scope) := by
  rw [readComplexType_eq]
  refine (tests_liftExcept (harmless_boolean context e "mixed")).before fun mixed => ?_
  refine Tests.congr ?_ allUses_complexType.symm
  unfold particleHolder? attributesHolder?
  cases h : e.children.find? isDerivedContent with
  | none =>
    -- The particles stand in the element itself.
    have := sizeOf_children_lt e
    refine ((tests_readContent hI huses e.children).bind fun content =>
      (huses.attributes e).after fun _ => tests_defineType hI _ _ _).congr (by simp)
  | some content =>
    have hc : sizeOf content < sizeOf e := sizeOf_lt_of_find?_children h
    dsimp only
    cases h' : firstComponent? content with
    | none => exact tests_throw rfl
    | some derivation =>
      -- The particles stand two levels down, in the derivation.
      have hd : sizeOf derivation < sizeOf content := sizeOf_lt_of_find?_children h'
      have hcs : sizeOf derivation.children < sizeOf derivation := sizeOf_children_lt derivation
      refine (tests_readDerived context _ derivation).before fun derived => ?_
      have hdefinition := fun definition =>
        tests_derivedDefinition hI content id definition derived
          (tests_readContent hI huses derivation.children)
      refine ((hdefinition _).bind fun definition =>
        (huses.attributes derivation).after fun _ => tests_defineType hI _ _ _).congr ?_
      by_cases hsimple : content.localName = "simpleContent" <;> simp [hsimple]
termination_by 2 * sizeOf e

theorem tests_readContent (hI : Draft.Stable I) (huses : group.TestsUses I free expanding context)
    (es : List Element) :
    Tests I (AllContentUses free es) (readContent group expanding context es) := by
  match es with
  | [] =>
    rw [readContent]
    exact (tests_pure _).of_true nofun
  | e :: es =>
    rw [readContent]
    have particle : isContentParticle e = true → ∀ x : DraftM Particle,
        Tests I (AllUses free .particle e) x →
        Tests I (AllContentUses free (e :: es)) (do return .particle (← x) : DraftM Content) :=
      fun h x hx => (hx.after fun _ => tests_pure _).congr (allContentUses_cons_of_pos h).symm
    split
    · next h =>
      refine particle (by simp [isContentParticle, h]) _ ?_
      exact tests_readModelGroup hI huses e (by rw [h]; rfl)
    · next h =>
      refine particle (by simp [isContentParticle, h]) _ ?_
      exact tests_readModelGroup hI huses e (by rw [h]; rfl)
    · next h =>
      refine particle (by simp [isContentParticle, h]) _ ?_
      exact tests_readModelGroup hI huses e (by rw [h]; rfl)
    · next h =>
      refine particle (by simp [isContentParticle, h]) _ ?_
      exact (huses.content e h).congr (allUses_group h).symm
    · next h₁ h₂ h₃ h₄ =>
      refine (tests_readContent hI huses es).congr (allContentUses_cons_of_neg ?_).symm
      simp only [isContentParticle, Bool.or_eq_true, beq_iff_eq, not_or]
      exact ⟨⟨⟨h₁, h₂⟩, h₃⟩, h₄⟩
termination_by 2 * sizeOf es

theorem tests_readModelGroup (hI : Draft.Stable I)
    (huses : group.TestsUses I free expanding context) (e : Element)
    (h : (Compositor.ofTag? e.localName).isSome = true) :
    Tests I (AllUses free .particle e) (readModelGroup group expanding context e) := by
  rw [readModelGroup]
  refine (tests_liftExcept (harmless_occurs context e)).before fun occurs => ?_
  have := sizeOf_children_lt e
  refine Tests.after ?_ fun _ => tests_pure _
  exact (tests_readParticles hI huses _ e.children).congr (allUses_modelGroup h).symm
termination_by 2 * sizeOf e

theorem tests_readParticles (hI : Draft.Stable I) (huses : group.TestsUses I free expanding context)
    (compositor : Compositor) (es : List Element) :
    Tests I (∀ e ∈ es, AllUses free .particle e)
      (readParticles group expanding context compositor es) := by
  match es with
  | [] =>
    rw [readParticles]
    exact (tests_pure _).of_true nofun
  | e :: es =>
    rw [readParticles]
    have rest : ∀ x : DraftM (Option Particle), Tests I (AllUses free .particle e) x →
        Tests I (∀ e' ∈ e :: es, AllUses free .particle e') (x >>= fun particle => do
          let particles ← readParticles group expanding context compositor es
          return particle.toList ++ particles) := by
      intro x hx
      refine (hx.bind fun particle => ?_).congr List.forall_mem_cons.symm
      exact (tests_readParticles hI huses compositor es).after fun _ => tests_pure _
    split
    · next h => exact rest _ ((tests_readLocalElement hI huses e h).map _)
    · next h => exact rest _ ((tests_readModelGroup hI huses e (by rw [h]; rfl)).map _)
    · next h => exact rest _ ((tests_readModelGroup hI huses e (by rw [h]; rfl)).map _)
    · next h => exact rest _ ((tests_readModelGroup hI huses e (by rw [h]; rfl)).map _)
    · next h => exact rest _ (((huses.content e h).congr (allUses_group h).symm).map _)
    · next h =>
      refine (tests_liftExcept (harmless_occurs context e)).before fun _ => rest _ ?_
      exact (tests_pure _).of_true (allUses_other (by simp [h]) (by simp [h]) (by rw [h]; rfl))
    · next h =>
      refine rest _ ((tests_pure _).of_true ?_)
      exact allUses_other (by simp [h]) (by simp [h]) (by rw [h]; rfl)
    · exact rest _ (tests_throw rfl)
termination_by 2 * sizeOf es

theorem tests_readLocalElement (hI : Draft.Stable I)
    (huses : group.TestsUses I free expanding context) (e : Element) (h : e.localName = "element") :
    Tests I (AllUses free .particle e) (readLocalElement group expanding context e) := by
  rw [readLocalElement]
  refine (tests_liftExcept (harmless_occurs context e)).before fun occurs => ?_
  split
  · next href =>
    refine Tests.of_true ?_ (allUses_elementReference h href)
    exact (tests_componentNamed _ _ _ _ _).before fun _ => tests_pure _
  · next href =>
    refine tests_bind_of_eq_ok (harmless_requiredName context e) fun name hname => ?_
    refine (tests_newElement hI (of_requiredName hname).2 _ _).before fun id => ?_
    refine Tests.after ?_ fun _ => tests_pure _
    exact (tests_readElement hI huses e id).congr (allUses_localElement h href).symm
termination_by 2 * sizeOf e + 1

end

end ContentReader

end Xsd

end SchemaBinding
