import SchemaBinding.Proofs.Xml.Escape
import SchemaBinding.Proofs.Xml.Nesting

/-!
# Written elements

Trees of elements with names as they are written, the ways in which they can be written, and the
elements that they stand for. Each name is resolved by the nearest declaration of its prefix; all
declarations of a tag are in force on that tag, wherever they stand on it.

## Main definitions

* `RawElement`: an element before its names are resolved
* `IsFiller`, `WritesAttributes`, `WritesText`, `Writes`: the ways in which elements can be written
* `nearest?`, `prefixNamespace?`, `defaultNamespace?`: what declarations say
* `RawElement.resolve`: the element that is meant

## Main results

* `find?_contextOf`, `defaultNamespace_contextOf`: the context in force says the same
* `foldl_setAttribute`: the last attribute of each name counts
* `ofReading_eq_resolveTag`: the element of a tag whose attributes have been read
-/

namespace SchemaBinding.Xml

/-- An element before its names are resolved. Declarations of namespaces are attributes like
others. -/
structure RawElement where
  name : String
  attributes : List (String × String)
  text : Option String
  children : List RawElement

/-- The number of elements on the longest path from the element down. -/
def RawElement.height : RawElement → Nat
  | ⟨_, _, _, children⟩ => heights children + 1
where
  /-- The greatest height of some elements, 0 if there are none. -/
  heights : List RawElement → Nat
    | [] => 0
    | e :: es => max e.height (heights es)

/-! ## Written forms -/

/-- The white space of XML. -/
def spaces : List Char := [' ', '\t', '\r', '\n']

/-- A text of white space, which may be empty. -/
def IsSpaces (s : String) : Prop := ∀ c ∈ s.toList, c ∈ spaces

instance (s : String) : Decidable (IsSpaces s) := List.decidableBAll _ s.toList

/-- A name of an attribute, as written. -/
structure IsName (s : String) : Prop where
  ne_empty : s ≠ ""
  not_mem : ∀ c ∈ s.toList, c ∉ spaces ++ ['<', '>', '/', '=', '"', '\'']

instance (s : String) : Decidable (IsName s) :=
  have := List.decidableBAll (fun c => c ∉ spaces ++ ['<', '>', '/', '=', '"', '\'']) s.toList
  decidable_of_iff (s ≠ "" ∧ _) ⟨fun ⟨hs, hc⟩ => ⟨hs, hc⟩, fun ⟨hs, hc⟩ => ⟨hs, hc⟩⟩

/-- A name of an element, as written: it is told apart from a declaration and an instruction. -/
structure IsTagName (s : String) : Prop extends IsName s where
  head : ∀ c ∈ ['!', '?'], s.toList.head? ≠ some c

instance (s : String) : Decidable (IsTagName s) :=
  have := List.decidableBAll (fun c => s.toList.head? ≠ some c) ['!', '?']
  decidable_of_iff (IsName s ∧ _) ⟨fun ⟨hs, hc⟩ => ⟨hs, hc⟩, fun ⟨hs, hc⟩ => ⟨hs, hc⟩⟩

/-- A text that counts: it is not all blank, and there is no white space of XML at its ends. -/
structure IsText (s : String) : Prop where
  not_blank : Text.isAllBlank s = false
  head : ∀ c ∈ spaces, s.toList.head? ≠ some c
  last : ∀ c ∈ spaces, s.toList.getLast? ≠ some c

instance (s : String) : Decidable (IsText s) :=
  have := List.decidableBAll (fun c => s.toList.head? ≠ some c) spaces
  have := List.decidableBAll (fun c => s.toList.getLast? ≠ some c) spaces
  decidable_of_iff (Text.isAllBlank s = false ∧ (∀ c ∈ spaces, s.toList.head? ≠ some c) ∧ _)
    ⟨fun ⟨hblank, hhead, hlast⟩ => ⟨hblank, hhead, hlast⟩,
      fun ⟨hblank, hhead, hlast⟩ => ⟨hblank, hhead, hlast⟩⟩

/-- What may stand between tags: white space, comments and instructions. -/
inductive IsFiller : String → Prop
  | none : IsFiller ""
  | space {s filler : String} : IsSpaces s → IsFiller filler → IsFiller (s ++ filler)
  | comment {content filler : String} : '>' ∉ content.toList → IsFiller filler →
      IsFiller ("<!--" ++ content ++ "-->" ++ filler)
  | instruction {content filler : String} : content ≠ "" → '>' ∉ content.toList →
      IsFiller filler → IsFiller ("<?" ++ content ++ "?>" ++ filler)

/-- What stands in a tag after its name: attributes in quotes of one or the other kind, with white
space before each of them. -/
inductive WritesAttributes : List (String × String) → String → Prop
  | nil {after : String} : IsSpaces after → WritesAttributes [] after
  | cons {before beforeEquals afterEquals quote name value written : String}
      {attributes : List (String × String)} : before ≠ "" → IsSpaces before → IsName name →
      IsSpaces beforeEquals → IsSpaces afterEquals → quote ∈ ["\"", "'"] →
      WritesAttributes attributes written →
      WritesAttributes ((name, value) :: attributes)
        (before ++ name ++ beforeEquals ++ "=" ++ afterEquals ++ quote ++ escape value ++ quote ++
          written)

/-- What stands after a start tag, before the first child: the text of the element, if it has one.
-/
inductive WritesText : Option String → String → Prop
  | none : WritesText none ""
  | some {filler text : String} : IsFiller filler → IsText text →
      WritesText (some text) (filler ++ escape text)

/-- Some elements that follow each other are written in a text. An element without text and children
may be written with one tag. -/
inductive Writes : List RawElement → String → Prop
  | none {filler : String} : IsFiller filler → Writes [] filler
  | element {filler name inTag words content closing written : String}
      {attributes : List (String × String)} {text : Option String}
      {children es : List RawElement} : IsFiller filler → IsTagName name →
      (attributes.map Prod.fst).Nodup → WritesAttributes attributes inTag → WritesText text words →
      Writes children content → IsSpaces closing → Writes es written →
      Writes (⟨name, attributes, text, children⟩ :: es)
        (filler ++ ("<" ++ (name ++ inTag) ++ ">") ++ words ++ content ++
          ("</" ++ (name ++ closing) ++ ">") ++ written)
  | empty {filler name inTag written : String} {attributes : List (String × String)}
      {es : List RawElement} : IsFiller filler → IsTagName name →
      (attributes.map Prod.fst).Nodup → WritesAttributes attributes inTag → Writes es written →
      Writes (⟨name, attributes, none, []⟩ :: es)
        (filler ++ ("<" ++ (name ++ inTag) ++ "/>") ++ written)

/-! ## What names stand for -/

/-- The attributes of the elements that enclose a place, those of the innermost one first. -/
abbrev Scopes := List (List (String × String))

/-- The value of an attribute on the nearest element that has it. -/
def nearest? (name : String) (scopes : Scopes) : Option String := scopes.findSome? (·.lookup name)

/-- The namespace of a prefix by its nearest declaration. The prefix `xml` needs none. -/
def prefixNamespace? (scopes : Scopes) (nsPrefix : String) : Option String :=
  (nearest? ("xmlns:" ++ nsPrefix) scopes).or
    (if nsPrefix = "xml" then some xmlNamespace else none)

/-- The default namespace by its nearest declaration; the empty name means that there is none. -/
def defaultNamespace? (scopes : Scopes) : Option String :=
  (nearest? "xmlns" scopes).filter fun uri => !uri.isEmpty

/-- What the name of an element stands for. -/
def qualify (scopes : Scopes) (name : String) : Result QName :=
  match splitColon name with
  | some (nsPrefix, localName) =>
    match prefixNamespace? scopes nsPrefix with
    | some uri => .ok (QName.qualified uri localName)
    | none => .error (.unknownPrefix nsPrefix)
  | none => .ok ⟨defaultNamespace? scopes, name⟩

/-- What the name of an attribute stands for: without a prefix it is in no namespace. -/
def qualifyAttribute (scopes : Scopes) (name : String) : Result QName :=
  if (splitColon name).isSome then qualify scopes name else .ok (QName.unqualified name)

/-- Whether an attribute declares a namespace. -/
def isDeclaration (name : String) : Bool :=
  name = "xmlns" || (TagReading.declaredPrefix? name).isSome

/-- A context with what an attribute declares, if it declares anything. -/
def NamespaceContext.taking (context : NamespaceContext) (attr : String × String) :
    NamespaceContext :=
  if attr.1 = "xmlns" then context.setDefault attr.2
  else
    match TagReading.declaredPrefix? attr.1 with
    | some nsPrefix => context.declare nsPrefix attr.2
    | none => context

/-- The context with all declarations of some elements, each within the next one. -/
def contextOf : Scopes → NamespaceContext
  | [] => .empty
  | attributes :: scopes => attributes.foldl NamespaceContext.taking (contextOf scopes)

/-- The last attribute of each name. -/
def lastOfEach : List (QName × String) → List (QName × String)
  | [] => []
  | a :: as => if a.1 ∈ as.map Prod.fst then lastOfEach as else a :: lastOfEach as

namespace RawElement

/-- An attribute with its name resolved. -/
def resolveAttribute (scopes : Scopes) (attr : String × String) : Result (QName × String) := do
  return (← qualifyAttribute scopes attr.1, attr.2)

/-- The element that a tag stands for. Declarations are no attributes of it. -/
def resolveTag (scopes : Scopes) (name : String) (attributes : List (String × String)) :
    Result Element := do
  let qualified ← qualify (attributes :: scopes) name
  let resolved ← (attributes.filter fun a => !isDeclaration a.1).mapM
    (resolveAttribute (attributes :: scopes))
  return ⟨qualified, lastOfEach resolved, none, [], contextOf (attributes :: scopes)⟩

/-- The element with its names resolved, within others. -/
def resolve (scopes : Scopes) : RawElement → Result Element
  | ⟨name, attributes, text, children⟩ => do
    let e ← resolveTag scopes name attributes
    let resolved ← resolveAll (attributes :: scopes) children
    return { e with text, children := resolved }
where
  /-- Elements with their names resolved. -/
  resolveAll (scopes : Scopes) : List RawElement → Result (List Element)
    | [] => return []
    | e :: es => do return (← e.resolve scopes) :: (← resolveAll scopes es)

end RawElement

/-! ## Contexts -/

theorem append_of_splitColonChars {cs before after : List Char}
    (h : splitColonChars cs = some (before, after)) : cs = before ++ ':' :: after := by
  induction cs generalizing before with
  | nil => cases h
  | cons c cs ih =>
    rw [splitColonChars] at h
    split at h
    · next hc =>
      cases h
      rw [hc, List.nil_append]
    · obtain ⟨⟨before', after'⟩, hcs, heq⟩ := Option.map_eq_some_iff.mp h
      cases heq
      rw [ih hcs, List.cons_append]

/-- A declaration of a prefix is an attribute of that form. -/
theorem declaredPrefix?_eq_some_iff {name nsPrefix : String} :
    TagReading.declaredPrefix? name = some nsPrefix ↔ name = "xmlns:" ++ nsPrefix := by
  unfold TagReading.declaredPrefix? splitColon
  constructor
  · intro h
    cases hs : splitColonChars name.toList with
    | none =>
      rw [hs] at h
      cases h
    | some parts =>
      obtain ⟨before, after⟩ := parts
      rw [hs] at h
      dsimp only [Option.map_some] at h
      split at h
      · next hbefore =>
        cases h
        have hname := append_of_splitColonChars hs
        have hchars : before = "xmlns".toList := by rw [← hbefore, String.toList_ofList]
        rw [← String.toList_inj, hname, hchars, String.toList_append, @String.toList_ofList after]
        rfl
      · cases h
  · rintro rfl
    have hsplit : splitColonChars ("xmlns:" ++ nsPrefix).toList =
        some ("xmlns".toList, nsPrefix.toList) := by
      rw [String.toList_append]
      rfl
    simp only [hsplit, Option.map_some, String.ofList_toList, if_true]

section Contexts

variable {attributes : List (String × String)} {scopes : Scopes}

theorem nearest?_cons (name : String) (attributes : List (String × String)) (scopes : Scopes) :
    nearest? name (attributes :: scopes) = (attributes.lookup name).or (nearest? name scopes) := by
  unfold nearest?
  rw [List.findSome?_cons]
  cases attributes.lookup name <;> rfl

theorem find?_taking (context : NamespaceContext) (attr : String × String) (nsPrefix : String) :
    (context.taking attr).find? nsPrefix =
      if attr.1 = "xmlns:" ++ nsPrefix then some attr.2 else context.find? nsPrefix := by
  unfold NamespaceContext.taking
  split
  · next h =>
    have hnone : TagReading.declaredPrefix? "xmlns" = none := by decide
    have hne : attr.1 ≠ "xmlns:" ++ nsPrefix := by
      rw [h, Ne, ← declaredPrefix?_eq_some_iff, hnone]
      exact nofun
    rw [if_neg hne]
    rfl
  · cases hd : TagReading.declaredPrefix? attr.1 with
    | none =>
      rw [if_neg]
      rw [← declaredPrefix?_eq_some_iff, hd]
      exact nofun
    | some declared =>
      have heq := declaredPrefix?_eq_some_iff.mp hd
      by_cases hp : nsPrefix = declared
      · rw [hp, if_pos heq]
        exact context.find?_declare_self declared attr.2
      · rw [if_neg, NamespaceContext.find?_declare_of_ne _ _ hp]
        rw [← declaredPrefix?_eq_some_iff, hd]
        exact fun h => hp (Option.some.inj h).symm

theorem defaultNamespace_taking (context : NamespaceContext) (attr : String × String) :
    (context.taking attr).defaultNamespace =
      if attr.1 = "xmlns" then (if attr.2.isEmpty then none else some attr.2)
      else context.defaultNamespace := by
  unfold NamespaceContext.taking
  split
  · rfl
  · cases TagReading.declaredPrefix? attr.1 <;> rfl

/-- Of some attributes of different names, at most one has a name. What it does lasts. -/
theorem foldl_taking {α : Type} (read : NamespaceContext → α) {name : String} {f : String → α}
    (hread : ∀ context attr, read (NamespaceContext.taking context attr) =
      if attr.1 = name then f attr.2 else read context)
    (h : (attributes.map Prod.fst).Nodup) (context : NamespaceContext) :
    read (attributes.foldl NamespaceContext.taking context) =
      ((attributes.lookup name).map f).getD (read context) := by
  induction attributes generalizing context with
  | nil => rfl
  | cons attr attributes ih =>
    obtain ⟨hnew, hnodup⟩ := List.nodup_cons.mp h
    rw [List.foldl_cons, ih hnodup, hread, List.lookup_cons]
    by_cases hname : attr.1 = name
    · have hnone : attributes.lookup name = none := by
        rw [List.lookup_eq_none_iff]
        intro a ha
        rw [bne_iff_ne]
        rintro rfl
        exact hnew (hname ▸ List.mem_map_of_mem ha)
      rw [hnone, hname, beq_self_eq_true, if_pos rfl]
      rfl
    · rw [if_neg hname, beq_eq_false_iff_ne.mpr (Ne.symm hname)]

/-- A prefix is bound by its nearest declaration. -/
theorem find?_contextOf (h : ∀ attributes ∈ scopes, (attributes.map Prod.fst).Nodup)
    (nsPrefix : String) : (contextOf scopes).find? nsPrefix = prefixNamespace? scopes nsPrefix := by
  unfold prefixNamespace?
  induction scopes with
  | nil => rfl
  | cons attributes scopes ih =>
    rw [contextOf, foldl_taking (fun context => context.find? nsPrefix)
      (fun context attr => find?_taking context attr nsPrefix) (h attributes List.mem_cons_self),
      ih fun as has => h as (List.mem_cons_of_mem _ has), nearest?_cons]
    cases attributes.lookup ("xmlns:" ++ nsPrefix) <;> rfl

/-- The default namespace is that of its nearest declaration. -/
theorem defaultNamespace_contextOf
    (h : ∀ attributes ∈ scopes, (attributes.map Prod.fst).Nodup) :
    (contextOf scopes).defaultNamespace = defaultNamespace? scopes := by
  unfold defaultNamespace?
  induction scopes with
  | nil => rfl
  | cons attributes scopes ih =>
    rw [contextOf, foldl_taking
        (f := fun uri => if uri.isEmpty then none else some uri) NamespaceContext.defaultNamespace
        defaultNamespace_taking (h attributes List.mem_cons_self),
      ih fun as has => h as (List.mem_cons_of_mem _ has), nearest?_cons]
    cases attributes.lookup "xmlns" with
    | none => rfl
    | some uri =>
      show (if uri.isEmpty then none else some uri) = (some uri).filter fun uri => !uri.isEmpty
      rw [Option.filter_some]
      cases uri.isEmpty <;> rfl

/-- Names are resolved in the context of a place as they are by the declarations there. -/
theorem resolve_contextOf (h : ∀ attributes ∈ scopes, (attributes.map Prod.fst).Nodup)
    (name : String) : Result.ofName ((contextOf scopes).resolve name) = qualify scopes name := by
  unfold NamespaceContext.resolve qualify
  cases splitColon name with
  | none => rw [defaultNamespace_contextOf h]; rfl
  | some parts =>
    dsimp only
    rw [find?_contextOf h]
    cases prefixNamespace? scopes parts.1 <;> rfl

theorem resolveAttribute_contextOf (h : ∀ attributes ∈ scopes, (attributes.map Prod.fst).Nodup)
    (name : String) :
    Result.ofName ((contextOf scopes).resolveAttribute name) = qualifyAttribute scopes name := by
  have hresolve := resolve_contextOf h name
  unfold NamespaceContext.resolveAttribute qualifyAttribute
  cases hs : splitColon name with
  | none => rfl
  | some parts => exact hresolve

end Contexts

/-! ## Attributes of a tag -/

section Tags

variable {scopes : Scopes}

theorem take_eq (read : TagReading) (name value : String) :
    read.take name value = ⟨read.namespaces.taking (name, value),
      read.attributes ++ if isDeclaration name then [] else [(name, value)]⟩ := by
  unfold TagReading.take NamespaceContext.taking isDeclaration
  split
  · next hname => simp [hname]
  · next hname => cases TagReading.declaredPrefix? name <;> simp [hname]

/-- Declarations are taken into the context, other attributes are kept. -/
theorem foldl_take (attributes kept : List (String × String)) (context : NamespaceContext) :
    attributes.foldl (fun read a => TagReading.take read a.1 a.2) ⟨context, kept⟩ =
      ⟨attributes.foldl NamespaceContext.taking context,
        kept ++ attributes.filter fun a => !isDeclaration a.1⟩ := by
  induction attributes generalizing context kept with
  | nil => rw [List.filter_nil, List.append_nil]; rfl
  | cons a attributes ih =>
    rw [List.foldl_cons, List.foldl_cons, take_eq, ih, List.filter_cons]
    cases isDeclaration a.1 <;> simp

/-- Attributes that are set one after the other: of each name, the last one counts. -/
theorem foldl_setAttribute (attributes : List (QName × String)) (e : Element) :
    attributes.foldl (fun e a => e.setAttribute a.1 a.2) e =
      { e with attributes := (e.attributes.filter fun a => a.1 ∉ attributes.map Prod.fst) ++
          lastOfEach attributes } := by
  induction attributes generalizing e with
  | nil => cases e; simp [lastOfEach]
  | cons a attributes ih =>
    have hfilter : (e.attributes.filter fun b => b.1 ∉ (a :: attributes).map Prod.fst) =
        (e.attributes.filter (·.1 != a.1)).filter fun b => b.1 ∉ attributes.map Prod.fst := by
      rw [List.filter_filter]
      refine List.filter_congr fun b _ => Bool.eq_iff_iff.mpr ?_
      rw [decide_eq_true_iff, List.map_cons, List.mem_cons, not_or, Bool.and_eq_true,
        decide_eq_true_iff, bne_iff_ne, and_comm]
    rw [List.foldl_cons, ih, lastOfEach, hfilter]
    unfold Element.setAttribute
    dsimp only
    rw [List.filter_append, List.append_assoc]
    -- An earlier attribute of the name gives way to this one, which gives way to a later one.
    by_cases ha : a.1 ∈ attributes.map Prod.fst
    · rw [if_pos ha, List.filter_cons_of_neg (by simpa using ha), List.filter_nil, List.nil_append]
    · rw [if_neg ha, List.filter_cons_of_pos (by simpa using ha), List.filter_nil,
        List.singleton_append]

/-- The attributes of an element are added as they are resolved. -/
theorem foldlM_addAttribute (h : ∀ attributes ∈ scopes, (attributes.map Prod.fst).Nodup)
    (attributes : List (String × String)) {e : Element} (hcontext : e.namespaces = contextOf scopes) :
    attributes.foldlM Element.addAttribute e =
      attributes.mapM (RawElement.resolveAttribute scopes) >>= fun resolved =>
        return resolved.foldl (fun e a => e.setAttribute a.1 a.2) e := by
  induction attributes generalizing e with
  | nil => rfl
  | cons a attributes ih =>
    rw [List.foldlM_cons, List.mapM_cons]
    have hadd : e.addAttribute a =
        RawElement.resolveAttribute scopes a >>= fun r => return e.setAttribute r.1 r.2 := by
      unfold Element.addAttribute RawElement.resolveAttribute
      rw [hcontext, resolveAttribute_contextOf h]
      cases qualifyAttribute scopes a.1 <;> rfl
    rw [hadd]
    cases RawElement.resolveAttribute scopes a with
    | error fault => rfl
    | ok r =>
      have hset : (e.setAttribute r.1 r.2).namespaces = contextOf scopes := hcontext
      show attributes.foldlM Element.addAttribute (e.setAttribute r.1 r.2) = _
      rw [ih hset]
      cases attributes.mapM (RawElement.resolveAttribute scopes) <;> rfl

/-- The element of a tag is what the tag stands for, whatever encloses it. -/
theorem ofReading_eq_resolveTag {content : Text.Octets} {attributes : List (String × String)}
    (h : ∀ as ∈ attributes :: scopes, (as.map Prod.fst).Nodup) {name : String}
    (hname : Tag.name content = Text.encode name) :
    Element.ofReading (attributes.foldl (fun read a => TagReading.take read a.1 a.2)
      ⟨contextOf scopes, []⟩) content = RawElement.resolveTag scopes name attributes := by
  have hscopes : contextOf (attributes :: scopes) =
      attributes.foldl NamespaceContext.taking (contextOf scopes) := rfl
  rw [foldl_take, ← hscopes]
  unfold Element.ofReading RawElement.resolveTag
  rw [hname, Text.decode?_encode]
  dsimp only
  rw [resolve_contextOf h]
  cases qualify (attributes :: scopes) name with
  | error e => rfl
  | ok qualified =>
    rw [List.nil_append]
    show List.foldlM Element.addAttribute _ _ = _
    rw [foldlM_addAttribute h _ rfl]
    cases (attributes.filter fun a => !isDeclaration a.1).mapM
        (RawElement.resolveAttribute (attributes :: scopes)) with
    | error e => rfl
    | ok resolved =>
      refine congrArg Except.ok ?_
      exact foldl_setAttribute resolved _

end Tags

end SchemaBinding.Xml
