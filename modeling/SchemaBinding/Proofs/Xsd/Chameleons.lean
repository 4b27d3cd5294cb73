import SchemaBinding.Proofs.Xsd.Inclusion
import SchemaBinding.Proofs.Xsd.Merging

/-!
# Chameleons

A document without a target namespace may be included in a document of a namespace. It is read in
that namespace then: names without a namespace mean components of it. The same document may say so
itself, by a target namespace and a default namespace on its root; no other document is read in a
different way then, and the schema sets are equal.

This is so only if the document comes to be read by being included. A document that imports it
first, as one of no namespace, cannot import the other one.

## Main definitions

* `Xml.Element.withDefault`: an element with a default namespace
* `Xml.Element.Adopts`: roots with and without the namespace
* `Exchanged`: a document in a file, and another one in its place
* `IncludedFirst`: the first reference of a document to another one includes it

## Main results

* `respelled_withDefault`: an element of a chameleon says what it says with the default namespace
* `editions_of_exchanged`: the documents that are loaded
* `SchemaSet.parse_adopts`: the schema sets are equal
* `SchemaSet.not_parse_adopts`: a document that is imported first
-/

namespace SchemaBinding

namespace Xml

/-- The name where a default namespace is in force: it is that of names without one. -/
def QName.withDefault (uri : String) (name : QName) : QName :=
  ⟨some (name.namespaceUri.getD uri), name.localName⟩

/-- Names without a prefix are in the default namespace. -/
theorem NamespaceContext.resolve_setDefault {scope : NamespaceContext} {uri : String}
    (hscope : scope.defaultNamespace = none) (huri : uri ≠ "") (name : String) :
    (scope.setDefault uri).resolve name = (scope.resolve name).map (QName.withDefault uri) := by
  have hnonempty : uri.isEmpty = false := by
    rwa [← Bool.not_eq_true, String.isEmpty_iff]
  have hfind : (scope.setDefault uri).find? = scope.find? := rfl
  unfold resolve
  rw [hfind]
  split
  · split
    · rfl
    · rfl
  · unfold setDefault
    rw [hscope, hnonempty]
    rfl

namespace Element

/-- The element where a default namespace is in force, for one in which there is none. -/
def withDefault (uri : String) : Element → Element
  | ⟨name, attributes, text, children, namespaces⟩ =>
    ⟨name.withDefault uri, attributes, text, withDefaults children, namespaces.setDefault uri⟩
where
  /-- The elements where a default namespace is in force. -/
  withDefaults : List Element → List Element
    | [] => []
    | e :: es => e.withDefault uri :: withDefaults es

section WithDefault

variable (uri : String) (e : Element)

@[simp] theorem localName_withDefault : (e.withDefault uri).localName = e.localName := by
  cases e
  rfl

@[simp] theorem attribute?_withDefault (name : String) :
    (e.withDefault uri).attribute? name = e.attribute? name := by
  cases e
  rfl

@[simp] theorem namespaces_withDefault :
    (e.withDefault uri).namespaces = e.namespaces.setDefault uri := by
  cases e
  rfl

/-- All elements of a list are given the default namespace. -/
theorem withDefaults_eq_map (es : List Element) :
    withDefault.withDefaults uri es = es.map (withDefault uri) := by
  induction es with
  | nil => rfl
  | cons e es ih => rw [withDefault.withDefaults, ih, List.map_cons]

/-- The default namespace is given to the children as well, to any depth. -/
@[simp] theorem children_withDefault :
    (e.withDefault uri).children = e.children.map (withDefault uri) := by
  cases e
  exact withDefaults_eq_map uri _

@[simp] theorem schemaLocation?_withDefault :
    (e.withDefault uri).schemaLocation? = e.schemaLocation? := by
  unfold schemaLocation?
  rw [localName_withDefault, attribute?_withDefault]

end WithDefault

/-- The root of the same document with a namespace as its target namespace and as its default one,
both declared on the root. -/
structure Adopts (uri : String) (root root' : Element) : Prop where
  name : root'.name = root.name.withDefault uri
  targetNamespace : root'.attribute? "targetNamespace" = some uri
  attribute? : ∀ name, name ≠ "targetNamespace" → root'.attribute? name = root.attribute? name
  children : root'.children = root.children.map (withDefault uri)

namespace Adopts

variable {uri : String} {root root' : Element} (h : Adopts uri root root')
include h

/-- Both documents refer to the same documents. -/
theorem schemaLocations : root'.schemaLocations = root.schemaLocations := by
  unfold Element.schemaLocations
  rw [h.children, List.filterMap_map]
  exact List.filterMap_congr fun c _ => schemaLocation?_withDefault uri c

/-- Only a root without a namespace becomes that of a schema. -/
theorem isSchema_iff (hschema : uri = Xsd.schemaNamespace → root.IsSchema) :
    root'.IsSchema ↔ root.IsSchema := by
  unfold IsSchema localName at *
  rw [h.name]
  unfold QName.withDefault
  dsimp only
  rw [Option.some_inj]
  constructor
  · rintro ⟨hname, huri⟩
    cases hnamespace : root.name.namespaceUri with
    | none =>
      rw [hnamespace, Option.getD_none] at huri
      exact absurd (hschema huri).2 (by rw [hnamespace]; nofun)
    | some u =>
      rw [hnamespace, Option.getD_some] at huri
      exact ⟨hname, congrArg some huri⟩
  · rintro ⟨hname, huri⟩
    exact ⟨hname, by rw [huri, Option.getD_some]⟩

end Adopts

end Element

end Xml

namespace Xsd

open Xml (Element)
open Relation (ReflTransGen)
open Location (Links)

/-! ## What is said -/

/-- What a chameleon says is said with the default namespace, too. -/
theorem respelled_withDefault {context context' : Context}
    (hcontext : context.SameSettings context') (hchameleon : context.isChameleon = true)
    (hother : context'.isChameleon = false) (huri : context.targetNamespace ≠ "") {e : Element}
    (he : e.namespaces.defaultNamespace = none)
    (hbelow : ∀ d ∈ e.descendants, d.namespaces.defaultNamespace = none) :
    Respelled context context' e (e.withDefault context.targetNamespace) := by
  refine .intro ⟨Element.localName_withDefault _ e, Element.attribute?_withDefault _ e⟩
    (fun reference => ?_) ?_
  · unfold Context.resolve
    rw [Element.namespaces_withDefault, Xml.NamespaceContext.resolve_setDefault he huri, hchameleon,
      hother]
    cases hresolve : e.namespaces.resolve (Text.trim reference) with
    | error undeclared => rfl
    | ok name =>
      obtain ⟨namespaceUri, localName⟩ := name
      cases namespaceUri with
      | none => rfl
      | some found => rfl
  · rw [Element.children_withDefault, List.forall₂_map_right_iff]
    refine List.forall₂_same.mpr fun c hc => ?_
    exact respelled_withDefault hcontext hchameleon hother huri
      (hbelow c (Element.mem_descendants_of_child hc))
      fun d hd => hbelow d (Element.mem_descendants_of_mem hc hd)
termination_by sizeOf e
decreasing_by exact DraftM.sizeOf_lt_of_mem_children hc

/-! ## References -/

namespace Loading

theorem reference?_eq_of_sameTag {context context' : Context} {c c' : Element}
    (hnamespace : context'.targetNamespace = context.targetNamespace)
    (hsource : context'.source = context.source) (h : c.SameTag c') :
    reference? context' c' = reference? context c := by
  unfold reference? Context.required Context.fault
  rw [h.localName]
  simp only [h.attribute?, hnamespace, hsource]

/-- With the default namespace, the same references are made. -/
theorem references_eq_of_adopts {uri : String} {document document' : SchemaDocument}
    (h : document.root.Adopts uri document'.root)
    (hnamespace : document'.context.targetNamespace = document.context.targetNamespace)
    (hsource : document'.context.source = document.context.source) :
    references document' = references document := by
  unfold references
  rw [h.children, List.mapM_map]
  refine congrArg (· >>= _) (congrArg (fun f => document.root.children.mapM f) ?_)
  funext c
  exact reference?_eq_of_sameTag hnamespace hsource
    ⟨Element.localName_withDefault uri c, Element.attribute?_withDefault uri c⟩

end Loading

/-! ## Two documents in one file -/

/-- A file holds a document, and in another file system another document. The file systems are the
same but for that. -/
structure Exchanged (files files' : FileSystem) (limits : Limits) (key : String)
    (root root' : Element) : Prop where
  canonical? : files'.canonical? = files.canonical?
  others : ∀ path, Source.key files (.file path) ≠ key → files'.read path = files.read path
  original : ∀ path, Source.key files (.file path) = key →
    (Location.file path).Holds files limits root
  replaced : ∀ path, Source.key files (.file path) = key →
    (Location.file path).Holds files' limits root'

/-- A child of the root of the document at a location leads to what is read under a key. -/
def Leads (files : FileSystem) (location : Location) (key : String) (c : Element) : Prop :=
  ∃ place target, c.schemaLocation? = some place ∧ location.resolve place = .ok target ∧
    Source.key files target = key

/-- Whatever else refers to a document is of a namespace, and it includes the document before it
refers to it in another way. -/
def IncludedFirst (files : FileSystem) (limits : Limits) (start : Location) (key uri : String) :
    Prop :=
  ∀ location root, ReflTransGen (Links files limits) start location →
    location.Holds files limits root → Source.key files location ≠ key →
    ∀ before c after, root.children = before ++ c :: after → Leads files location key c →
      (∀ b ∈ before, ¬ Leads files location key b) →
      c.localName = "include" ∧ root.attribute? "targetNamespace" = some uri

namespace Exchanged

variable {files files' : FileSystem} {limits : Limits} {key : String} {root root' : Element}
  (h : Exchanged files files' limits key root root')
include h

/-- Documents have the same keys in both file systems. -/
theorem key_eq (location : Location) : Source.key files' location = Source.key files location := by
  unfold Source.key
  rw [h.canonical?]

theorem symm : Exchanged files' files limits key root' root where
  canonical? := h.canonical?.symm
  others path hpath := (h.others path (h.key_eq _ ▸ hpath)).symm
  original path hpath := h.replaced path (h.key_eq _ ▸ hpath)
  replaced path hpath := h.original path (h.key_eq _ ▸ hpath)

/-- What is read from a location is the same, or the one document and the other one. -/
theorem load_eq_or_holds (location : Location) :
    Source.load files' limits location = Source.load files limits location ∨
      Source.key files location = key ∧ location.Holds files limits root ∧
        location.Holds files' limits root' := by
  cases location with
  | file path =>
    by_cases hkey : Source.key files (.file path) = key
    · exact .inr ⟨hkey, h.original path hkey, h.replaced path hkey⟩
    · refine .inl ?_
      simp only [Source.load, h.others path hkey]
  | remote url => exact .inl rfl
  | inMemory text => exact .inl rfl

omit h in
/-- A document that is loaded alike is the same in both file systems. -/
theorem holds_of_load_eq {location : Location} {r : Element}
    (hload : Source.load files' limits location = Source.load files limits location)
    (hr : location.Holds files' limits r) : location.Holds files limits r := by
  unfold Location.Holds at hr ⊢
  rwa [hload] at hr

/-- References lead from the same locations to the same ones. -/
theorem links_of_links (hroots : root'.schemaLocations = root.schemaLocations)
    {location target : Location} (hlinks : Links files' limits location target) :
    Links files limits location target := by
  obtain ⟨r, hr, place, hplace, htarget⟩ := hlinks
  rcases h.load_eq_or_holds location with hload | ⟨-, horiginal, hreplaced⟩
  · exact ⟨r, holds_of_load_eq hload hr, place, hplace, htarget⟩
  · cases hr.unique hreplaced
    exact ⟨root, horiginal, place, hroots ▸ hplace, htarget⟩

/-- Who refers to the one document refers to the other one. -/
theorem includedFirst (hroots : root'.schemaLocations = root.schemaLocations) {start : Location}
    {uri : String} (hfirst : IncludedFirst files limits start key uri) :
    IncludedFirst files' limits start key uri := by
  intro location r hreach hr hkey before c after hchildren hc hbefore
  have hleads : Leads files' location key = Leads files location key := by
    funext c
    unfold Leads
    simp only [h.key_eq]
  rw [h.key_eq] at hkey
  rw [hleads] at hc hbefore
  rcases h.load_eq_or_holds location with hload | ⟨hsame, -⟩
  · exact hfirst location r (ReflTransGen.mono (fun _ _ => h.links_of_links hroots) _ _ hreach)
      (holds_of_load_eq hload hr) hkey before c after hchildren hc hbefore
  · exact absurd hsame hkey

end Exchanged

/-! ## What is loaded -/

/-- A document is as it was, or it is another one that has been put in the place of one. -/
def Replaced (old new document document' : SchemaDocument) : Prop :=
  document' = document ∨ document = old ∧ document' = new

/-- The references before one that a document makes come from the children before one. -/
theorem exists_children_of_referenceList {document : SchemaDocument} {before after : List Reference}
    {reference : Reference} (h : document.referenceList = before ++ reference :: after) :
    ∃ cs c cs', document.root.children = cs ++ c :: cs' ∧
      document.context.referenceOf? c = some reference ∧
      ∀ b ∈ cs, ∀ r, document.context.referenceOf? b = some r → r ∈ before := by
  obtain ⟨cs, rest, hchildren, hbefore, hrest⟩ := List.filterMap_eq_append_iff.mp h
  obtain ⟨idle, c, cs', rfl, hidle, hc, -⟩ := List.filterMap_eq_cons_iff.mp hrest
  refine ⟨cs ++ idle, c, cs', by rw [hchildren, List.append_assoc], hc, fun b hb r hr => ?_⟩
  rcases List.mem_append.mp hb with hb | hb
  · exact hbefore ▸ List.mem_filterMap.mpr ⟨b, hb, hr⟩
  · cases (hidle b hb).symm.trans hr

section Editions

variable {files files' : FileSystem} {limits : Limits} {start : Location} {key uri : String}
  {root root' : Element} {old new : SchemaDocument}

/-- With another document in a file, the documents that are loaded are the same but for it. -/
theorem editions_of_exchanged (h : Exchanged files files' limits key root root')
    (hread : ∀ document, SchemaDocument.ofRoot key (.included uri) root = .ok document →
      document = old ∧ SchemaDocument.ofRoot key (.included uri) root' = .ok new)
    (hreferences : Loading.references new = Loading.references old)
    (hfirst : IncludedFirst files limits start key uri) :
    Editions files files' limits
      (fun visited l l' i => l' = l ∧ ReflTransGen (Links files limits) start l ∧
        (Source.key files l = key → i = .included uri ∨ key ∈ visited))
      (Replaced old new) where
  key visited l l' i hl := by
    obtain ⟨rfl, -⟩ := hl
    exact h.key_eq _
  read visited l l' i document hl hnew hdocument := by
    obtain ⟨rfl, -, hincluded⟩ := hl
    rcases h.load_eq_or_holds l' with hload | ⟨rfl, horiginal, hreplaced⟩
    · refine ⟨document, ?_, .inl rfl⟩
      obtain ⟨content, hcontent, htext⟩ := hdocument
      refine ⟨content, hload.trans hcontent, ?_⟩
      unfold Loaded.key at htext ⊢
      rwa [h.key_eq]
    -- The exchanged document has not been visited, so it is read because it is included.
    · obtain rfl := (hincluded rfl).resolve_right hnew
      obtain ⟨rfl, hother⟩ := hread document (horiginal.ofRoot_of_readFrom hdocument)
      exact ⟨new, hreplaced.readFrom (by rwa [h.key_eq]), .inr ⟨rfl, rfl⟩⟩
  references document document' hdocument := by
    rcases hdocument with rfl | ⟨rfl, rfl⟩
    · rfl
    · exact hreferences
  follows visited l l' i document before reference after target hl hread hrefs htarget := by
    obtain ⟨rfl, hreach, -⟩ := hl
    refine ⟨target, htarget, fun visited' hkey hbefore => ?_⟩
    have hholds : l'.Holds files limits document.root := by
      obtain ⟨content, hcontent, htext⟩ := hread
      exact (Loading.of_ofText hcontent htext).2
    obtain ⟨cs, c, cs', hchildren, hc, hcs⟩ := exists_children_of_referenceList hrefs
    have hlocation : c.schemaLocation? = some reference.location := by
      rw [← Loading.map_location_referenceOf? document.context, hc]
      rfl
    refine ⟨rfl, hreach.tail ⟨document.root, hholds, reference.location, ?_, htarget⟩, ?_⟩
    · exact List.mem_filterMap.mpr ⟨c, hchildren ▸ List.mem_append_right cs List.mem_cons_self,
        hlocation⟩
    · intro htargetKey
      by_cases hself : Source.key files l' = key
      · exact .inr (hself ▸ hkey)
      · by_cases hearlier : ∃ b ∈ cs, Leads files l' key b
        · obtain ⟨b, hb, place, t, hplace, ht, rfl⟩ := hearlier
          rw [← Loading.map_location_referenceOf? document.context] at hplace
          obtain ⟨r, hr, rfl⟩ := Option.map_eq_some_iff.mp hplace
          exact .inr (hbefore r (hcs b hb r hr) t ht)
        · obtain ⟨htag, hnamespace⟩ := hfirst l' document.root hreach hholds hself cs c cs'
            hchildren ⟨_, target, hlocation, htarget, htargetKey⟩
            fun b hb hleads => hearlier ⟨b, hb, hleads⟩
          have huri : document.context.targetNamespace = uri :=
            hread.agrees.targetNamespace_eq hnamespace
          rw [Context.referenceOf?, if_pos htag] at hc
          obtain ⟨_, -, rfl⟩ := Option.map_eq_some_iff.mp hc
          exact .inl (congrArg Inclusion.included huri)

/-- The children of two documents, one in the place of the other one, are declared alike. -/
theorem forall₂_declarations (hcontext : old.context.SameSettings new.context)
    (hchildren : List.Forall₂ (Respelled old.context new.context) old.root.children
      new.root.children)
    {documents documents' : List SchemaDocument}
    (h : List.Forall₂ (Replaced old new) documents documents') :
    List.Forall₂ SchemaDocument.Respelled (SchemaDocument.declarations documents)
      (SchemaDocument.declarations documents') := by
  refine List.rel_filter (fun item item' hitem => ?_) (List.rel_flatMap h ?_)
  · simp [hitem.element.localName]
  · rintro document document' hdocument
    rw [List.forall₂_map_left_iff, List.forall₂_map_right_iff]
    rcases hdocument with rfl | ⟨rfl, rfl⟩
    · exact List.forall₂_same.mpr fun c _ => ⟨.refl _, .refl _ c⟩
    · exact hchildren.imp fun c c' hc => ⟨hcontext, hc⟩

/-- With another document in a file that says the same, the same set is read. -/
theorem SchemaSet.parse_of_exchanged (h : Exchanged files files' limits key root root')
    (hread : ∀ document, SchemaDocument.ofRoot key (.included uri) root = .ok document →
      document = old ∧ SchemaDocument.ofRoot key (.included uri) root' = .ok new)
    (hreferences : Loading.references new = Loading.references old)
    (hcontext : old.context.SameSettings new.context)
    (hsource : new.context.source = old.context.source)
    (hchildren : List.Forall₂ (Respelled old.context new.context) old.root.children
      new.root.children)
    (hfirst : IncludedFirst files limits start key uri) (hstart : Source.key files start ≠ key)
    {set : SchemaSet} (hset : (parse files limits start).1 = .ok set) :
    (parse files' limits start).1 = .ok set := by
  obtain ⟨documents, log, -, hload, -⟩ := exists_of_parse hset
  obtain ⟨documents', hload', hdocuments⟩ := (editions_of_exchanged h hread hreferences
    hfirst).exists_loadAll ⟨rfl, .refl, fun hkey => absurd hkey hstart⟩ (congrArg Prod.fst hload)
  have hsets : (Draft.ofDocuments documents' (SchemaDocument.loadAll files' limits start).2).set =
      (Draft.ofDocuments documents log).set := by
    refine ofDocuments_set_congr (hdocuments.imp fun d d' hd => ?_)
    rcases hd with rfl | ⟨rfl, rfl⟩
    · exact ⟨rfl, rfl⟩
    · exact ⟨hcontext.targetNamespace, hsource⟩
  obtain ⟨set', hset', halike⟩ := exists_parse_of_respelled hload (Prod.ext hload' rfl) rfl
    (hsets ▸ Alike.refl (fun _ => rfl) _) (forall₂_declarations hcontext hchildren hdocuments) hset
  rwa [halike.eq] at hset'

end Editions

/-! ## Chameleons -/

/-- The context of a chameleon that is included in a document of a namespace. -/
def Context.chameleon (source uri : String) (root : Element) : Context :=
  { ofRoot source root with targetNamespace := uri, isChameleon := true }

section Adopts

variable {files files' : FileSystem} {limits : Limits} {start : Location} {key uri : String}
  {root root' : Element}

/-- An included document without a target namespace takes that of the including one. -/
theorem SchemaDocument.ofRoot_chameleon (huri : uri ≠ "") (hschema : root.IsSchema)
    (hnone : root.attribute? "targetNamespace" = none) :
    ofRoot key (.included uri) root = .ok ⟨root, .chameleon key uri root⟩ := by
  have hnonempty : uri.isEmpty = false := by
    rwa [← Bool.not_eq_true, String.isEmpty_iff]
  unfold ofRoot
  rw [if_neg (not_or.mpr ⟨not_not.mpr hschema.1, not_not.mpr hschema.2⟩), hnone]
  unfold Inclusion.targetNamespace
  dsimp only
  rw [hnonempty]
  rfl

/-- The document with the namespace written out is taken as it stands. -/
theorem SchemaDocument.ofRoot_adopts (hadopts : Element.Adopts uri root root')
    (hschema : root'.IsSchema) :
    ofRoot key (.included uri) root' = .ok ⟨root', .ofRoot key root'⟩ := by
  rw [← ofRoot_included hschema, hadopts.targetNamespace]
  rfl

/-- Both documents are read with the same settings. -/
theorem Context.sameSettings_chameleon (hadopts : Element.Adopts uri root root') :
    (chameleon key uri root).SameSettings (ofRoot key root') where
  targetNamespace := congrArg (Option.getD · "") hadopts.targetNamespace
  elementsQualified := congrArg (· == some "qualified")
    (hadopts.attribute? "elementFormDefault" (by decide))
  attributesQualified := congrArg (· == some "qualified")
    (hadopts.attribute? "attributeFormDefault" (by decide))

/-- A document without a target namespace, and without default namespaces, is included in documents
of a namespace. It makes no difference if the namespace is declared on its root, as the target
namespace and as the default one. -/
theorem SchemaSet.parse_adopts (h : Exchanged files files' limits key root root')
    (hadopts : Element.Adopts uri root root') (huri : uri ≠ "")
    (hschema : uri = schemaNamespace → root.IsSchema)
    (hnone : root.attribute? "targetNamespace" = none)
    (hdefault : ∀ d ∈ root.descendants, d.namespaces.defaultNamespace = none)
    (hfirst : IncludedFirst files limits start key uri) (hstart : Source.key files start ≠ key) :
    (parse files limits start).1.toOption = (parse files' limits start).1.toOption := by
  have hsettings : (Context.chameleon key uri root).SameSettings (.ofRoot key root') :=
    Context.sameSettings_chameleon hadopts
  have hchildren : List.Forall₂
      (Respelled (.chameleon key uri root) (.ofRoot key root')) root.children root'.children := by
    rw [hadopts.children, List.forall₂_map_right_iff]
    exact List.forall₂_same.mpr fun c hc => respelled_withDefault hsettings rfl rfl huri
      (hdefault c (Element.mem_descendants_of_child hc))
      fun d hd => hdefault d (Element.mem_descendants_of_mem hc hd)
  have hreferences : Loading.references ⟨root', .ofRoot key root'⟩ =
      Loading.references ⟨root, .chameleon key uri root⟩ :=
    Loading.references_eq_of_adopts hadopts hsettings.targetNamespace rfl
  have hiff := hadopts.isSchema_iff hschema
  refine toOption_eq_of_iff fun set => ⟨fun hset => ?_, fun hset => ?_⟩
  · refine parse_of_exchanged h (fun document hdocument => ?_) hreferences hsettings rfl hchildren
      hfirst hstart hset
    have hroot := SchemaDocument.isSchema_of_ofRoot hdocument
    exact ⟨Except.ok.inj (hdocument.symm.trans
      (SchemaDocument.ofRoot_chameleon huri hroot hnone)),
      SchemaDocument.ofRoot_adopts hadopts (hiff.mpr hroot)⟩
  · refine parse_of_exchanged h.symm (fun document hdocument => ?_) hreferences.symm hsettings.symm
      rfl (hchildren.flip.imp fun _ _ hc => hc.symm)
      (h.includedFirst hadopts.schemaLocations hfirst) (h.key_eq start ▸ hstart) hset
    have hroot := SchemaDocument.isSchema_of_ofRoot hdocument
    exact ⟨Except.ok.inj (hdocument.symm.trans (SchemaDocument.ofRoot_adopts hadopts hroot)),
      SchemaDocument.ofRoot_chameleon huri (hiff.mp hroot) hnone⟩

end Adopts

/-! ### Documents that are adopted -/

namespace SchemaSet

/-- Two files: a document that refers to another one, and that other one. -/
def twoFiles (referring referred : String) : FileSystem where
  canonical? path := some path
  read path :=
    if path.text = "d" then .ok referring
    else if path.text = "c" then .ok referred
    else .error .notFound

/-- Where the referring document is. -/
def referringAt : Location := .file (.ofText "d")

theorem holds_referred {referring referred : String} {limits : Limits} {root : Element}
    (hroot : (Location.inMemory referred).Holds .empty limits root) {path : Path}
    (hpath : Source.key (twoFiles referring referred) (.file path) = "c") :
    (Location.file path).Holds (twoFiles referring referred) limits root := by
  obtain ⟨content, document, hcontent, hdocument, hroot⟩ := hroot
  have htext : path.text = "c" := hpath
  refine ⟨content, document, ?_, hdocument, hroot⟩
  simpa [Source.load, twoFiles, htext] using hcontent

/-- Another document may stand in the second file. -/
theorem exchanged_twoFiles {referring referred referred' : String} {limits : Limits}
    {root root' : Element} (hroot : (Location.inMemory referred).Holds .empty limits root)
    (hroot' : (Location.inMemory referred').Holds .empty limits root') :
    Exchanged (twoFiles referring referred) (twoFiles referring referred') limits "c" root root' where
  canonical? := rfl
  others path hpath := by
    have htext : path.text ≠ "c" := hpath
    simp [twoFiles, htext]
  original _ hpath := holds_referred hroot hpath
  replaced _ hpath := holds_referred hroot' hpath

/-- The scope of the document of the namespace. -/
def adoptingScope : Xml.NamespaceContext := plainScope.declare "n" "n"

/-- The document of the namespace, with what it refers to. -/
def adoptingRoot (children : List Element) : Element :=
  schemaElement adoptingScope "schema" [("targetNamespace", "n")] children

/-- The text of the document of the namespace, with those of its children. -/
def adoptingText (children : List String) : String :=
  "<x:schema xmlns:x=\"http://www.w3.org/2001/XMLSchema\" xmlns:n=\"n\" targetNamespace=\"n\">" ++
    String.join children ++ "</x:schema>"

/-- An element, whose type is defined in the other document. -/
def adoptingElement : Element :=
  schemaElement adoptingScope "element" [("name", "r"), ("type", "n:T")] []

/-- A reference that includes the other document. -/
def adoption : Element := schemaElement adoptingScope "include" [("schemaLocation", "c")] []

/-- A document that includes the other one, and has an element of a type of that one. -/
def adopting : String :=
  adoptingText ["<x:include schemaLocation=\"c\"/>", "<x:element name=\"r\" type=\"n:T\"/>"]

/-- A document without a namespace, with a type and a group that refer to each other. -/
def adoptedRoot : Element :=
  schemaElement plainScope "schema" []
    [schemaElement plainScope "complexType" [("name", "T")]
      [schemaElement plainScope "group" [("ref", "g")] []],
    schemaElement plainScope "group" [("name", "g")]
      [schemaElement plainScope "sequence" []
        [schemaElement plainScope "element" [("name", "e"), ("type", "T"), ("minOccurs", "0")] []]]]

/-- The same document in the namespace. -/
def adoptedRoot' : Element :=
  { adoptedRoot.withDefault "n" with
    attributes := [(Xml.QName.unqualified "targetNamespace", "n")] }

/-- The text of the document, with the attributes of its root that are about namespaces. -/
def adoptedText (attributes : String) : String :=
  "<x:schema xmlns:x=\"http://www.w3.org/2001/XMLSchema\"" ++ attributes ++ ">" ++
    "<x:complexType name=\"T\"><x:group ref=\"g\"/></x:complexType>" ++
    "<x:group name=\"g\"><x:sequence><x:element name=\"e\" type=\"T\" minOccurs=\"0\"/>" ++
    "</x:sequence></x:group></x:schema>"

/-- The text of the same document in the namespace. -/
def adoptedText' : String := adoptedText " targetNamespace=\"n\" xmlns=\"n\""

/-- What the two texts hold. -/
theorem adopted_facts :
    (Location.inMemory (adoptedText "")).root? .empty .standard = some adoptedRoot ∧
      (Location.inMemory adoptedText').root? .empty .standard = some adoptedRoot' := by
  decide +kernel

theorem holds_adopted : (Location.inMemory (adoptedText "")).Holds .empty .standard adoptedRoot :=
  Location.holds_of_root? adopted_facts.1

theorem holds_adopted' : (Location.inMemory adoptedText').Holds .empty .standard adoptedRoot' :=
  Location.holds_of_root? adopted_facts.2

/-- The reference leads to the other file, whatever the two files hold. -/
theorem leads_adoption (referring referred : String) :
    Leads (twoFiles referring referred) referringAt "c" adoption :=
  ⟨"c", .file (.ofText "c"), by decide, by decide, rfl⟩

theorem adopts_adopted : Element.Adopts "n" adoptedRoot adoptedRoot' where
  name := rfl
  targetNamespace := rfl
  attribute? name hname := by
    have hne : (Xml.QName.unqualified name == Xml.QName.unqualified "targetNamespace") = false := by
      simpa [Xml.QName.unqualified] using hname
    simp [adoptedRoot', adoptedRoot, schemaElement, Element.attribute?, Element.qualifiedAttribute?,
      List.lookup_cons, hne]
  children := by
    rw [← Element.children_withDefault]
    rfl

/-- Nothing else is read than the two documents, if all references are to the other one and that one
makes none. -/
theorem eq_or_eq_of_links {referring referred : String} {root root' : Element}
    (hroot : referringAt.Holds (twoFiles referring referred) .standard root)
    (hroot' : (Location.inMemory referred).Holds .empty .standard root')
    (hlocations : ∀ reference ∈ root.schemaLocations, reference = "c")
    (hnone : root'.schemaLocations = []) {location : Location}
    (h : ReflTransGen (Links (twoFiles referring referred) .standard) referringAt location) :
    location = referringAt ∨ location = .file (.ofText "c") := by
  induction h with
  | refl => exact .inl rfl
  | tail _ hlinks ih =>
    obtain ⟨r, hr, reference, hreference, htarget⟩ := hlinks
    rcases ih with rfl | rfl
    · cases hr.unique hroot
      rw [hlocations reference hreference] at htarget
      exact .inr (Except.ok.inj (htarget.symm.trans (by decide)))
    · cases hr.unique (holds_referred hroot' rfl)
      rw [hnone] at hreference
      cases hreference

theorem adopting_facts :
    referringAt.root? (twoFiles adopting (adoptedText "")) .standard =
        some (adoptingRoot [adoption, adoptingElement]) ∧
      (parse (twoFiles adopting (adoptedText "")) .standard referringAt).1.isOk = true := by
  decide +kernel

/-- The first document includes the other one. -/
theorem includedFirst_adopting :
    IncludedFirst (twoFiles adopting (adoptedText "")) .standard referringAt "c" "n" := by
  have hreferring : referringAt.Holds (twoFiles adopting (adoptedText "")) .standard
      (adoptingRoot [adoption, adoptingElement]) :=
    Location.holds_of_root? adopting_facts.1
  intro location root hlocation hroot hkey before c after hchildren hc hbefore
  rcases eq_or_eq_of_links hreferring holds_adopted (by decide) rfl hlocation with rfl | rfl
  · cases hroot.unique hreferring
    cases before with
    | nil =>
      obtain ⟨rfl, -⟩ := List.cons.inj hchildren
      exact ⟨rfl, rfl⟩
    | cons b before =>
      obtain ⟨rfl, -⟩ := List.cons.inj hchildren
      exact absurd (leads_adoption _ _) (hbefore _ List.mem_cons_self)
  · exact absurd rfl hkey

theorem parse_adopts_adopted :
    (parse (twoFiles adopting (adoptedText "")) .standard referringAt).1.isOk = true ∧
    (parse (twoFiles adopting (adoptedText "")) .standard referringAt).1.toOption =
      (parse (twoFiles adopting adoptedText') .standard referringAt).1.toOption :=
  ⟨adopting_facts.2, parse_adopts (exchanged_twoFiles holds_adopted holds_adopted')
    adopts_adopted (by decide) (fun huri => absurd huri (by decide)) rfl (by decide)
    includedFirst_adopting (by decide)⟩

/-! ### A document that is imported and then included -/

/-- One document of a namespace includes another one, and no other document refers to that one. -/
def IncludedBy (files : FileSystem) (limits : Limits) (location : Location) (key uri : String) :
    Prop :=
  ∃ root, location.Holds files limits root ∧ root.attribute? "targetNamespace" = some uri ∧
    (∃ c ∈ root.children, c.localName = "include" ∧ Leads files location key c) ∧
    ∀ other otherRoot, ReflTransGen (Links files limits) location other →
      other.Holds files limits otherRoot → (∃ c ∈ otherRoot.children, Leads files other key c) →
      other = location

/-- A document that imports the other one, as of no namespace, and then includes it. -/
def importing : String :=
  adoptingText ["<x:import schemaLocation=\"c\"/>", "<x:include schemaLocation=\"c\"/>"]

/-- The document that imports and includes the other one. -/
def importingRoot : Element :=
  adoptingRoot [schemaElement adoptingScope "import" [("schemaLocation", "c")] [], adoption]

/-- The document is read if the other one has no namespace, and refused if that one has been given
the namespace. -/
theorem importing_facts :
    referringAt.root? (twoFiles importing (adoptedText "")) .standard = some importingRoot ∧
      (parse (twoFiles importing (adoptedText "")) .standard referringAt).1.toOption.isSome =
        true ∧
      (parse (twoFiles importing adoptedText') .standard referringAt).1.toOption.isSome =
        false := by
  decide +kernel

theorem includedBy_importing :
    IncludedBy (twoFiles importing (adoptedText "")) .standard referringAt "c" "n" := by
  have hreferring : referringAt.Holds (twoFiles importing (adoptedText "")) .standard
      importingRoot :=
    Location.holds_of_root? importing_facts.1
  refine ⟨importingRoot, hreferring, rfl, ⟨adoption, by decide, rfl, leads_adoption _ _⟩, ?_⟩
  rintro other otherRoot hother hroot ⟨c, hc, place, -, hplace, -⟩
  rcases eq_or_eq_of_links hreferring holds_adopted (by decide) rfl hother with rfl | rfl
  · rfl
  · cases hroot.unique (holds_referred holds_adopted rfl)
    have hmem : place ∈ adoptedRoot.schemaLocations := List.mem_filterMap.mpr ⟨c, hc, hplace⟩
    cases hmem

/-- It does make a difference for a document that is imported before it is included: the import is
one of no namespace. -/
theorem not_parse_adopts : ¬ ∀ (files files' : FileSystem) (limits : Limits) (start : Location)
    (key uri : String) (root root' : Element), Exchanged files files' limits key root root' →
      Element.Adopts uri root root' → uri ≠ "" → root.IsSchema →
      root.attribute? "targetNamespace" = none →
      (∀ d ∈ root.descendants, d.namespaces.defaultNamespace = none) →
      IncludedBy files limits start key uri → Source.key files start ≠ key →
      (parse files limits start).1.toOption = (parse files' limits start).1.toOption := by
  intro hall
  have hequal := hall _ _ _ _ _ _ _ _ (exchanged_twoFiles holds_adopted holds_adopted')
    adopts_adopted (by decide) ⟨rfl, rfl⟩ rfl (by decide) includedBy_importing (by decide)
  obtain ⟨-, haccepted, hrefused⟩ := importing_facts
  rw [hequal, hrefused] at haccepted
  cases haccepted

end SchemaSet

end Xsd

end SchemaBinding
