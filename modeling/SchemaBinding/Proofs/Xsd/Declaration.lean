import SchemaBinding.Proofs.Xsd.Accepted
import SchemaBinding.Proofs.Xsd.Stable

/-!
# Declared components

Every global element, attribute and type of a document that belongs to a set is in the schema of the
document's namespace. It is put there when it is declared, and nothing is taken out of a schema
afterwards.

## Main definitions

* `SchemaSet.Presents`: what a child of a schema document declares is in the schema of a namespace
* `Draft.Lasting`: what is true of a draft whatever is declared and read

## Main results

* `DraftM.keeps_declare`: declaring keeps what is lasting
* `DraftM.ends_declare`: a component is in the schema once it has been declared
* `SchemaSet.presentsAll_of_read`: the components of the documents of a set
-/

namespace SchemaBinding.Xsd

open Xml (Element QName)

/-! ## Names in schemas -/

/-- The names of the components that elements of a kind declare. -/
def Schema.names (s : Schema) : String → List String
  | "element" => s.elements.keys
  | "attribute" => s.attributes.keys
  | "complexType" | "simpleType" => s.types.keys
  | _ => []

/-- A change of schemas that takes no name away. -/
structure Schema.Extends (f : Schema → Schema) : Prop where
  namespaceUri : ∀ s, (f s).namespaceUri = s.namespaceUri
  elements : ∀ s, s.elements.keys ⊆ (f s).elements.keys
  attributes : ∀ s, s.attributes.keys ⊆ (f s).attributes.keys
  types : ∀ s, s.types.keys ⊆ (f s).types.keys

/-- A schema that is extended has all the names that it has had. -/
theorem Schema.Extends.names {f : Schema → Schema} (h : Extends f) (s : Schema) (tag : String) :
    s.names tag ⊆ (f s).names tag := by
  unfold Schema.names
  split
  · exact h.elements s
  · exact h.attributes s
  · exact h.types s
  · exact h.types s
  · exact List.Subset.refl []

theorem subset_keys_insert {α : Type} (m : OrderedMap String α) (name : String) (a : α) :
    m.keys ⊆ (m.insert name a).keys :=
  fun _ h => OrderedMap.mem_keys_insertEntry.mpr (.inr h)

theorem Schema.extends_insertElement (name : String) (id : ElementId) :
    Extends fun s => { s with elements := s.elements.insert name id } where
  namespaceUri _ := rfl
  elements s := subset_keys_insert s.elements name id
  attributes s := List.Subset.refl s.attributes.keys
  types s := List.Subset.refl s.types.keys

theorem Schema.extends_insertAttribute (name : String) (id : AttributeId) :
    Extends fun s => { s with attributes := s.attributes.insert name id } where
  namespaceUri _ := rfl
  elements s := List.Subset.refl s.elements.keys
  attributes s := subset_keys_insert s.attributes name id
  types s := List.Subset.refl s.types.keys

theorem Schema.extends_insertType (name : String) (id : TypeId) :
    Extends fun s => { s with types := s.types.insert name id } where
  namespaceUri _ := rfl
  elements s := List.Subset.refl s.elements.keys
  attributes s := List.Subset.refl s.attributes.keys
  types s := subset_keys_insert s.types name id

namespace SchemaSet

/-- If a child of a schema document declares an element, an attribute or a type, it is in the schema
of a namespace. -/
def Presents (set : SchemaSet) (namespaceUri : String) (child : Element) : Prop :=
  child.localName ∈ ["element", "attribute", "complexType", "simpleType"] →
    ∃ schema name, set.schema? namespaceUri = some schema ∧
      child.attribute? "name" = some name ∧ name ∈ schema.names child.localName

/-- The schema of a namespace after that of some namespace has been changed. -/
theorem schema?_modifySchema (set : SchemaSet) (namespaceUri : String) {f : Schema → Schema}
    (hf : ∀ s, (f s).namespaceUri = s.namespaceUri) (uri : String) :
    (set.modifySchema namespaceUri f).schema? uri =
      if uri = namespaceUri then some (f ((set.schema? uri).getD (.empty namespaceUri)))
      else set.schema? uri := by
  unfold modifySchema schema?
  dsimp only
  induction set.schemas with
  | nil =>
    by_cases h : uri = namespaceUri
    · simp [modifySchemas, hf, h, Schema.empty]
    · simp [modifySchemas, hf, h, Schema.empty, Ne.symm h]
  | cons s ss ih =>
    unfold modifySchemas
    by_cases hs : s.namespaceUri = namespaceUri
    · by_cases h : uri = namespaceUri
      · simp [hf, hs, h]
      · simp [hf, hs, h, Ne.symm h]
    · rw [if_neg hs]
      by_cases h : s.namespaceUri = uri
      · have hne : uri ≠ namespaceUri := fun he => hs (h.trans he)
        simp [h, hne]
      · rw [List.find?_cons_of_neg (by simpa using h), List.find?_cons_of_neg (by simpa using h), ih]

/-- A component that is presented stays so when a schema is extended. -/
theorem Presents.modifySchema {set : SchemaSet} {uri : String} {child : Element}
    (h : set.Presents uri child) (namespaceUri : String) {f : Schema → Schema}
    (hf : Schema.Extends f) : (set.modifySchema namespaceUri f).Presents uri child := by
  intro hchild
  obtain ⟨schema, name, hschema, hname, hmem⟩ := h hchild
  rw [schema?_modifySchema set namespaceUri hf.namespaceUri]
  split
  · refine ⟨_, name, rfl, hname, hf.names _ _ ?_⟩
    rwa [hschema]
  · exact ⟨schema, name, hschema, hname, hmem⟩

/-- A name that is put into a schema is there. -/
theorem presents_modifySchema {set : SchemaSet} {namespaceUri name : String} {child : Element}
    {f : Schema → Schema} (hf : Schema.Extends f) (hname : child.attribute? "name" = some name)
    (hmem : ∀ s, name ∈ (f s).names child.localName) :
    (set.modifySchema namespaceUri f).Presents namespaceUri child := by
  intro _
  rw [schema?_modifySchema set namespaceUri hf.namespaceUri, if_pos rfl]
  exact ⟨_, name, rfl, hname, hmem _⟩

end SchemaSet

/-! ## Declaring -/

/-- What is true of a draft whatever is declared and read: the types that are declared have names
without colon, and no schema loses a name. -/
structure Draft.Lasting (I : Draft → Prop) : Prop extends Draft.Stable I where
  groups : ∀ d groups, I d → I { d with groups := groups }
  attributeGroups : ∀ d groups, I d → I { d with attributeGroups := groups }
  declareType : ∀ d name namespaceUri base kind, Xml.isNCName name = true → I d →
    I { d with set := (d.set.addType ⟨some name, namespaceUri, base, kind⟩).2 }
  modifySchema : ∀ d namespaceUri f, Schema.Extends f → I d →
    I { d with set := d.set.modifySchema namespaceUri f }

namespace DraftM

section Keeps

variable {I : Draft → Prop}

/-- Whether a name is new is looked up, and nothing is changed. -/
theorem keeps_checkNew {α : Type} (symbol : Symbol) (context : Context) (name : QName)
    (found : Option α) : Keeps I (checkNew symbol context name found) := by
  unfold checkNew
  split
  · exact keeps_throw _
  · exact keeps_pure _

variable (hI : Draft.Lasting I)
include hI

theorem keeps_modifySchema (context : Context) {f : Schema → Schema} (hf : Schema.Extends f) :
    Keeps I (modifySchema context f) :=
  keeps_modify fun d hd => hI.modifySchema d _ f hf hd

theorem keeps_newNamedType (context : Context) (kind : TypeKind) {name : String}
    (hname : Xml.isNCName name = true) : Keeps I (newType (some name) context kind) :=
  fun d hd => hI.declareType d name _ _ _ hname hd

/-- A component gets its name, its place among those of its kind, and its entry in the schema. -/
theorem keeps_component {α β : Type} (context : Context) (e : Element)
    (check : String → SchemaSet → DraftM Unit) {new : String → DraftM α}
    {f : String → α → Schema → Schema} (result : String → α → β)
    (hcheck : ∀ name set, Keeps I (check name set))
    (hnew : ∀ name, Xml.isNCName name = true → Keeps I (new name))
    (hf : ∀ name id, Schema.Extends (f name id)) :
    Keeps I (do
      let name ← context.requiredName e
      check name (← getSet)
      let id ← new name
      modifySchema context (f name id)
      return result name id : DraftM β) := by
  refine keeps_bind_of_eq_ok fun name hname => ?_
  refine keeps_getSet.bind fun set => (hcheck name set).bind fun _ => ?_
  refine (hnew name (of_requiredName hname).2).bind fun id => ?_
  exact (keeps_modifySchema hI context (hf name id)).bind fun _ => keeps_pure _

theorem keeps_declareElement (context : Context) (e : Element) :
    Keeps I (declareElement context e) :=
  keeps_component hI context e _ _ (fun _ _ => keeps_checkNew _ _ _ _)
    (fun _ hname => keeps_newElement hI.toStable hname _ _) Schema.extends_insertElement

theorem keeps_declareAttribute (context : Context) (e : Element) :
    Keeps I (declareAttribute context e) :=
  keeps_component hI context e _ _ (fun _ _ => keeps_checkNew _ _ _ _)
    (fun _ hname => keeps_newAttribute hI.toStable hname _ _) Schema.extends_insertAttribute

theorem keeps_declareType (context : Context) (e : Element) (kind : TypeKind)
    (target : TypeId → Global.Target) : Keeps I (declareType context e kind target) :=
  keeps_component hI context e _ _ (fun _ _ => keeps_checkNew _ _ _ _)
    (fun _ hname => keeps_newNamedType hI context kind hname) Schema.extends_insertType

/-- Declaring a component keeps what is lasting. -/
theorem keeps_declare (context : Context) (e : Element) : Keeps I (declare context e) := by
  unfold declare
  split
  · exact (keeps_declareElement hI _ _).map _
  · exact (keeps_declareAttribute hI _ _).map _
  · exact (keeps_declareType hI _ _ _ _).map _
  · exact (keeps_declareType hI _ _ _ _).map _
  · refine Keeps.bind ?_ fun _ => keeps_pure _
    exact (keeps_liftExcept _).bind fun name => keeps_get.bind fun d =>
      (keeps_checkNew _ _ _ _).bind fun _ => keeps_modify fun d hd => hI.groups d _ hd
  · refine Keeps.bind ?_ fun _ => keeps_pure _
    exact (keeps_liftExcept _).bind fun name => keeps_get.bind fun d =>
      (keeps_checkNew _ _ _ _).bind fun _ => keeps_modify fun d hd => hI.attributeGroups d _ hd
  · exact (keeps_report hI.toStable _ _).bind fun _ => keeps_pure _
  · exact keeps_pure _
  · exact keeps_pure _
  · exact keeps_pure _
  · exact keeps_throw _

end Keeps

/-! ### What is in the schema -/

section Presents

variable (context : Context) (e : Element) {d : Draft}

/-- A component that gets an entry in the schema under its name is there. -/
theorem ends_component {α β : Type} (check : String → SchemaSet → DraftM Unit)
    (new : String → DraftM α) {f : String → α → Schema → Schema} (result : String → α → β)
    (hf : ∀ name id, Schema.Extends (f name id))
    (hmem : ∀ name id s, name ∈ (f name id s).names e.localName) :
    Ends d (do
      let name ← context.requiredName e
      check name (← getSet)
      let id ← new name
      modifySchema context (f name id)
      return result name id : DraftM β) fun r d' =>
        ∀ b, r = .ok b → d'.set.Presents context.targetNamespace e := by
  rw [ends_bind, ends_liftExcept]
  cases hname : context.requiredName e with
  | error _ => exact nofun
  | ok name =>
    refine ends_bind_of_forall (fun set d => ?_) fun _ _ => nofun
    refine ends_bind_of_forall (fun _ d => ?_) fun _ _ => nofun
    refine ends_bind_of_forall (fun id d => ?_) fun _ _ => nofun
    exact fun _ _ =>
      SchemaSet.presents_modifySchema (hf name id) (of_requiredName hname).1 (hmem name id)

/-- An element that has been declared is presented by its schema. -/
theorem ends_declareElement (he : e.localName = "element") :
    Ends d (declareElement context e) fun r d' => ∀ g, r = .ok g →
      d'.set.Presents context.targetNamespace e := by
  apply ends_component context e _ _ _ Schema.extends_insertElement
  rw [he]
  exact fun name id s => OrderedMap.mem_keys_insertEntry.mpr (.inl rfl)

theorem ends_declareAttribute (he : e.localName = "attribute") :
    Ends d (declareAttribute context e) fun r d' => ∀ g, r = .ok g →
      d'.set.Presents context.targetNamespace e := by
  apply ends_component context e _ _ _ Schema.extends_insertAttribute
  rw [he]
  exact fun name id s => OrderedMap.mem_keys_insertEntry.mpr (.inl rfl)

/-- A type that has been declared is presented by its schema, simple or complex. -/
theorem ends_declareType (he : e.localName = "complexType" ∨ e.localName = "simpleType")
    (kind : TypeKind) (target : TypeId → Global.Target) :
    Ends d (declareType context e kind target) fun r d' => ∀ g, r = .ok g →
      d'.set.Presents context.targetNamespace e := by
  apply ends_component context e _ _ _ Schema.extends_insertType
  intro name id s
  have hkey : name ∈ (s.types.insert name id).keys := OrderedMap.mem_keys_insertEntry.mpr (.inl rfl)
  rcases he with he | he
  · rwa [he]
  · rwa [he]

/-- What has been declared is in the schema of the document's namespace. -/
theorem ends_declare : Ends d (declare context e) fun r d' => ∀ g, r = .ok g →
    d'.set.Presents context.targetNamespace e := by
  have hsome {x : DraftM Global}
      (h : Ends d x fun r d' => ∀ g, r = .ok g → d'.set.Presents context.targetNamespace e) :
      Ends d (do return some (← x)) fun r d' =>
        ∀ g, r = .ok g → d'.set.Presents context.targetNamespace e := by
    rw [ends_bind]
    apply h.mono
    rintro (_ | g) d' hg
    · exact nofun
    · exact fun _ _ => hg g rfl
  have hother {x : DraftM (Option Global)}
      (h : e.localName ∉ ["element", "attribute", "complexType", "simpleType"]) :
      Ends d x fun r d' => ∀ g, r = .ok g → d'.set.Presents context.targetNamespace e :=
    fun _ _ he => absurd he h
  unfold declare
  split
  · next he => exact hsome (ends_declareElement context e he)
  · next he => exact hsome (ends_declareAttribute context e he)
  · next he => exact hsome (ends_declareType context e (.inl he) _ _)
  · next he => exact hsome (ends_declareType context e (.inr he) _ _)
  · next he => exact hother (by rw [he]; decide)
  · next he => exact hother (by rw [he]; decide)
  · next he => exact hother (by rw [he]; decide)
  · next he => exact hother (by rw [he]; decide)
  · next he => exact hother (by rw [he]; decide)
  · next he => exact hother (by rw [he]; decide)
  · exact nofun

end Presents

end DraftM

/-! ## Sets that are read -/

namespace SchemaSet

/-- Declaring and reading all components of some documents keeps what is lasting. -/
theorem keeps_readDocuments {I : Draft → Prop} (hI : Draft.Lasting I)
    (documents : List SchemaDocument) : Keeps I (readDocuments documents) := by
  refine Keeps.bind ?_ fun globals => keeps_forM fun g _ => DraftM.keeps_readGlobal hI.toStable g
  refine Keeps.bind (keeps_mapM fun d _ => ?_) fun _ => keeps_pure _
  exact keeps_mapM fun e _ => DraftM.keeps_declare hI d.context e

/-- What is in a schema stays there. -/
theorem lasting_presents (namespaceUri : String) (child : Element) :
    Draft.Lasting fun d => d.set.Presents namespaceUri child where
  log _ _ h := h
  waiting _ _ h := h
  addType _ _ _ _ h := h
  addElement _ _ _ h := h
  addAttribute _ _ _ h := h
  defineType _ _ _ _ h := h
  modifyElement _ _ _ _ h := h
  modifyAttribute _ _ _ _ h := h
  groups _ _ h := h
  attributeGroups _ _ h := h
  declareType _ _ _ _ _ _ h := h
  modifySchema _ uri _ hf h := h.modifySchema uri hf

/-- The children of a document's root are in the schema of its namespace. -/
def PresentsAll (set : SchemaSet) (document : SchemaDocument) : Prop :=
  ∀ child ∈ document.root.children, set.Presents document.context.targetNamespace child

/-- All components of all documents have been declared when the documents have. -/
theorem ends_declareAll (documents : List SchemaDocument) {d : Draft} :
    Ends d (DraftM.declareAll documents) fun r d' => ∀ globals, r = .ok globals →
      ∀ document ∈ documents, d'.set.PresentsAll document := by
  have hkeeps (child : Element) (uri : String) (context : Context) (e : Element) :
      Keeps (fun d => d.set.Presents uri child) (DraftM.declare context e) :=
    DraftM.keeps_declare (lasting_presents uri child) context e
  have hall : Ends d (documents.mapM fun document =>
      document.root.children.mapM (DraftM.declare document.context)) fun r d' =>
        ∀ found, r = .ok found → ∀ document ∈ documents, d'.set.PresentsAll document := by
    -- What one document has put into the schemas is not taken out by the next ones.
    apply ends_mapM_of_keeps
    · exact fun _ _ => keeps_mapM fun e _ => Keeps.all fun child _ => hkeeps child _ _ e
    · exact fun document d => ends_mapM_of_keeps (fun child e => hkeeps child _ _ e)
        fun child d => DraftM.ends_declare document.context child
  unfold DraftM.declareAll
  rw [ends_bind]
  apply hall.mono
  rintro (_ | found) d' h
  · exact nofun
  · exact fun _ _ => h found rfl

/-- The components of the documents that have been read are in the schemas. -/
theorem presentsAll_of_read {documents : List SchemaDocument} {limits : Limits} {d draft : Draft}
    {set : SchemaSet} (hread : (readDocuments documents).run.run d = (.ok ⟨⟩, draft))
    (hs : complete limits draft = .ok set) : ∀ document ∈ documents, set.PresentsAll document := by
  have h : Ends d (readDocuments documents) fun r d' => r = .ok ⟨⟩ →
      ∀ document ∈ documents, d'.set.PresentsAll document := by
    unfold readDocuments
    rw [ends_bind]
    apply (ends_declareAll documents).mono
    rintro (_ | globals) d' h
    · exact nofun
    · have hkept : Keeps (fun d => ∀ document ∈ documents, d.set.PresentsAll document)
          (globals.forM DraftM.readGlobal) :=
        keeps_forM fun g _ => Keeps.all fun document _ => Keeps.all fun child _ =>
          DraftM.keeps_readGlobal (lasting_presents _ child).toStable g
      exact fun _ => hkept d' (h globals rfl)
  unfold Ends Passes at h
  rw [hread] at h
  exact of_complete (P := fun set => ∀ document ∈ documents, set.PresentsAll document)
    (fun _ _ _ h => h) (fun _ => h rfl) hs

end SchemaSet

end SchemaBinding.Xsd
