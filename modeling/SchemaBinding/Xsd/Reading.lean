import SchemaBinding.Xsd.Global

/-!
# Reading components

What the elements of a schema document say about types, elements and attributes. Anonymous types
become components of their own; groups are expanded where they are used, and may not be used within
themselves.

## Main definitions

* `DraftM.readSimpleType`: a simple type
* `DraftM.readAttributeUses`: the attributes of a complex type
* `ContentReader`: the content of complex types and the elements in it, given how groups are
  expanded
* `DraftM.readElement`, `DraftM.readComplexType`: elements and complex types
-/

namespace SchemaBinding.Xsd

open Xml (Element QName)

namespace DraftM

/-- Sets the base of a type and what it says. -/
def defineType (id : TypeId) (base : TypeId) (kind : TypeKind) : DraftM Unit :=
  modifySet fun set => set.modifyType id fun t => { t with base := base, kind := kind }

/-- The default and fixed value of a declaration, which may not have both. -/
def readValues (context : Context) (e : Element) (both : Fault) :
    Result (Option String × Option String) :=
  let values := (e.attribute? "default", e.attribute? "fixed")
  if values.1.isSome && values.2.isSome then .error (context.fault both) else .ok values

/-! ## Simple types -/

theorem sizeOf_children_lt (e : Element) : sizeOf e.children < sizeOf e := by
  cases e
  simp
  omega

theorem sizeOf_lt_of_mem_children {e c : Element} (h : c ∈ e.children) : sizeOf c < sizeOf e :=
  Nat.lt_trans (List.sizeOf_lt_of_mem h) (sizeOf_children_lt e)

theorem sizeOf_lt_of_find?_children {e c : Element} {p : Element → Bool}
    (h : e.children.find? p = some c) : sizeOf c < sizeOf e :=
  sizeOf_lt_of_mem_children (List.mem_of_find?_eq_some h)

/-- Reads a simple type into the component `id`: a restriction, a list or a union. -/
def readSimpleType (context : Context) (e : Element) (id : TypeId) : DraftM Unit :=
  match h : firstComponent? e with
  | none => throw (context.fault .simpleTypeWithoutDerivation)
  | some derivation =>
    have _hd : sizeOf derivation < sizeOf e := sizeOf_lt_of_find?_children h
    let anonymous (c : Element) (_ : sizeOf c < sizeOf derivation) : DraftM TypeId := do
      let id ← newType none context (.simple (.restriction .empty))
      readSimpleType context c id
      return id
    let inlineType (missing : Fault) : DraftM TypeId :=
      match hc : derivation.child? "simpleType" with
      | some c => anonymous c (sizeOf_lt_of_find?_children hc)
      | none => throw (context.fault missing)
    match derivation.localName with
    | "restriction" => do
      let base ← match derivation.attribute? "base" with
        | some reference => simpleTypeNamed context derivation reference
        | none => inlineType .restrictionWithoutBase
      let facets ← context.facets derivation
      defineType id base (.simple (.restriction facets))
    | "list" => do
      let item ← match derivation.attribute? "itemType" with
        | some reference => simpleTypeNamed context derivation reference
        | none => inlineType .listWithoutItemType
      defineType id SchemaSet.anySimpleType (.simple ⟨.list item, .empty⟩)
    | "union" => do
      let references := (derivation.attribute? "memberTypes").map Text.words
      let named ← (references.getD []).mapM (simpleTypeNamed context derivation)
      let inline ← derivation.children.attach.mapM fun ⟨c, hc⟩ =>
        if c.localName = "simpleType" then do
          let member ← anonymous c (sizeOf_lt_of_mem_children hc)
          return [member]
        else return []
      -- Types that are referred to come before those written in place.
      let members := named ++ inline.flatten
      if members.isEmpty then throw (context.fault .unionWithoutMembers)
      defineType id SchemaSet.anySimpleType (.simple ⟨.union members, .empty⟩)
    | other => throw (context.fault (.unexpected other "simpleType"))
termination_by sizeOf e
decreasing_by omega

/-- Reads a simple type without a name as a component of its own. -/
def readAnonymousSimpleType (context : Context) (e : Element) : DraftM TypeId := do
  let id ← newType none context (.simple (.restriction .empty))
  readSimpleType context e id
  return id

/-! ## Attributes -/

/-- Reads an attribute into the component `id`. Without a type it is of the root of the simple
types. -/
def readAttribute (context : Context) (e : Element) (id : AttributeId) : DraftM Unit := do
  let type ← match e.attribute? "type" with
    | some reference => simpleTypeNamed context e reference
    | none =>
      match e.child? "simpleType" with
      | some c => readAnonymousSimpleType context c
      | none => pure SchemaSet.anySimpleType
  let name := ((← getSet).attr id).name
  let (defaultValue, fixedValue) ← readValues context e (.attributeDefaultAndFixed name)
  modifySet fun set => set.modifyAttribute id fun a =>
    { a with type := type, defaultValue := defaultValue, fixedValue := fixedValue }

/-- Whether an attribute must be given; `none` if it is prohibited. -/
def readUse (context : Context) (e : Element) : Result (Option Bool) :=
  match (e.attribute? "use").getD "optional" with
  | "optional" => .ok (some false)
  | "required" => .ok (some true)
  | "prohibited" => .ok none
  | other => .error (context.fault (.attributeUse other))

/-- The declaration that the use of an attribute refers to or makes. -/
def readUsedAttribute (context : Context) (e : Element) : DraftM AttributeId :=
  match e.attribute? "ref" with
  | some reference => attributeNamed context e reference
  | none => do
    let name ← context.requiredName e
    let id ← newAttribute name (context.localNamespace e context.attributesQualified) false
    readAttribute context e id
    return id

/-- Reads the use of an attribute, unless it is prohibited. -/
def readAttributeUse (context : Context) (e : Element) : DraftM (List AttributeUse) := do
  match ← readUse context e with
  | none => return []
  | some required => return [⟨← readUsedAttribute context e, required⟩]

/-- The definition that the use of a group refers to: the groups in `expanding` are those that it
is used within. -/
def expandGroup (symbol : Symbol) (tag : String) (circular : QName → Fault)
    (groups : Draft → OrderedMap QName GroupDefinition) (expanding : List QName)
    (context : Context) (e : Element) : DraftM (QName × GroupDefinition) := do
  let reference ← context.required e "ref" (.missingReference tag)
  let name ← context.resolve e reference
  if name ∈ expanding then throw (context.fault (circular name))
  match (groups (← get)).get? name with
  | some definition => return (name, definition)
  | none => throw (context.fault (.unknownReference symbol name))

/-- Reads the attributes among the children of an element, those of attribute groups included;
groups may be used within each other `depth` times. -/
def readAttributeUsesWithin (depth : Nat) (expanding : List QName) (context : Context)
    (e : Element) : DraftM (List AttributeUse) := do
  let uses ← e.children.mapM fun c =>
    match c.localName with
    | "attribute" => readAttributeUse context c
    | "attributeGroup" => do
      let (name, definition) ← expandGroup .attrGroup "attributeGroup" .circularAttributeGroup
        (·.attributeGroups) expanding context c
      match depth with
      | 0 => throw (context.fault (.circularAttributeGroup name))
      | depth + 1 =>
        readAttributeUsesWithin depth (name :: expanding) definition.context definition.element
    | "anyAttribute" => do
      report .trace "ignoring xs:anyAttribute"
      return []
    | _ => return []
  return uses.flatten

/-- Reads the attributes among the children of an element. Attribute groups cannot be used within
each other more often than there are any. -/
def readAttributeUses (expanding : List QName) (context : Context) (e : Element) :
    DraftM (List AttributeUse) := do
  readAttributeUsesWithin (← get).attributeGroups.size expanding context e

end DraftM

/-! ## Elements and complex types -/

/-- How the use of a group is read, within the groups that are being expanded. -/
abbrev GroupReader := List QName → Context → Element → DraftM Particle

namespace ContentReader

open DraftM

/-- What the content of a derived type says: the tag of the content, the kind of derivation, and
the written and resolved base. -/
structure Derived where
  derivation : Derivation
  reference : String
  base : TypeId
  isComplexBase : Bool

/-- Reads how the content of a complex type is derived. -/
def readDerived (context : Context) (contentTag : String) (e : Element) : DraftM Derived := do
  let derivation ← match e.localName with
    | "extension" => pure Derivation.extension
    | "restriction" => pure Derivation.restriction
    | other => throw (context.fault (.unexpected other contentTag))
  let reference ← context.required e "base" (.missingBase e.localName)
  let base ← typeNamed context e reference
  return ⟨derivation, reference, base, ((← getSet).type base).isComplex⟩

/-- Whether an element holds the content of a derived type. -/
def isDerivedContent (e : Element) : Bool :=
  e.localName == "simpleContent" || e.localName == "complexContent"

mutual

/-- Reads an element into the component `id`. Without a type it is of the root of all types. -/
def readElement (group : GroupReader) (expanding : List QName) (context : Context) (e : Element)
    (id : ElementId) : DraftM Unit := do
  let type ← match e.attribute? "type" with
    | some reference => typeNamed context e reference
    | none =>
      match h : inlineType? e with
      | some c =>
        have : sizeOf c < sizeOf e := sizeOf_lt_of_find?_children h
        if c.localName = "complexType" then do
          -- The type has its place before the types inside it.
          let type ← newType none context (.complex (.empty (some id)))
          readComplexType group expanding context c type (some id)
          pure type
        else readAnonymousSimpleType context c
      | none => pure SchemaSet.anyType
  let name := ((← getSet).element id).name
  let (defaultValue, fixedValue) ← readValues context e (.elementDefaultAndFixed name)
  let nillable ← context.boolean e "nillable"
  modifySet fun set => set.modifyElement id fun d =>
    { d with
      type := type, defaultValue := defaultValue, fixedValue := fixedValue, nillable := nillable }
termination_by 2 * sizeOf e

/-- Reads a complex type into the component `id`; an anonymous one is defined in the element
`scope`. -/
def readComplexType (group : GroupReader) (expanding : List QName) (context : Context)
    (e : Element) (id : TypeId) (scope : Option ElementId) : DraftM Unit := do
  let mixed ← context.boolean e "mixed"
  match h : e.children.find? isDerivedContent with
  | none =>
    let content ← readContent group expanding context e.children
    let uses ← readAttributeUses expanding context e
    defineType id SchemaSet.anyType
      (.complex { ComplexType.empty scope with
        content := content, attributes := uses, mixed := mixed })
  | some content =>
    have hc : sizeOf content < sizeOf e := sizeOf_lt_of_find?_children h
    match h' : firstComponent? content with
    | none => throw (context.fault (.contentWithoutDerivation content.localName))
    | some derivation =>
      have hd : sizeOf derivation < sizeOf content := sizeOf_lt_of_find?_children h'
      have hcs : sizeOf derivation.children < sizeOf derivation := sizeOf_children_lt derivation
      let derived ← readDerived context content.localName derivation
      let isExtension := derived.derivation = .extension
      let definition :=
        { ComplexType.empty scope with derivation := derived.derivation, mixed := mixed }
      let definition ←
        if content.localName = "simpleContent" then
          -- What the content of the base is, is known only when all types are read.
          if derived.isComplexBase then do
            await id .simpleContent
            pure definition
          else if isExtension then pure { definition with content := .simple derived.base }
          else throw (context.fault (.simpleContentOfSimple derived.reference))
        else if !derived.isComplexBase then
          throw (context.fault (.complexContentOfSimple derived.reference))
        else do
          -- The content says more exactly than the type whether it is mixed.
          let mixed ← if (content.attribute? "mixed").isSome then context.boolean content "mixed"
            else pure mixed
          let own ← readContent group expanding context derivation.children
          if isExtension then await id .extension
          pure { definition with
            mixed := mixed
            content := own
            explicitContent := if isExtension then some own else none }
      let uses ← readAttributeUses expanding context derivation
      defineType id derived.base (.complex { definition with attributes := uses })
termination_by 2 * sizeOf e
decreasing_by
  · have := sizeOf_children_lt e
    omega
  · omega

/-- Reads the first group among some elements as content; there is none if no group is. -/
def readContent (group : GroupReader) (expanding : List QName) (context : Context) :
    List Element → DraftM Content
  | [] => return .empty
  | e :: es =>
    match e.localName with
    | "sequence" | "choice" | "all" =>
      return .particle (← readModelGroup group expanding context e)
    | "group" => return .particle (← group expanding context e)
    | _ => readContent group expanding context es
termination_by es => 2 * sizeOf es

/-- Reads a sequence, a choice or an `all`. -/
def readModelGroup (group : GroupReader) (expanding : List QName) (context : Context)
    (e : Element) : DraftM Particle := do
  let compositor := (Compositor.ofTag? e.localName).getD .sequence
  let occurs ← context.occurs e
  let children ← readParticles group expanding context compositor e.children
  return .group occurs compositor children
termination_by 2 * sizeOf e
decreasing_by
  have := sizeOf_children_lt e
  omega

/-- Reads the particles of a group. -/
def readParticles (group : GroupReader) (expanding : List QName) (context : Context)
    (compositor : Compositor) : List Element → DraftM (List Particle)
  | [] => return []
  | e :: es => do
    let particle ← match e.localName with
      | "element" => some <$> readLocalElement group expanding context e
      | "sequence" | "choice" | "all" => some <$> readModelGroup group expanding context e
      | "group" => some <$> group expanding context e
      | "any" => pure (some (.wildcard (← context.occurs e)))
      | "annotation" => pure none
      | other => throw (context.fault (.unexpected other compositor.tag))
    let particles ← readParticles group expanding context compositor es
    return particle.toList ++ particles
termination_by es => 2 * sizeOf es

/-- Reads an element in a group: a reference to a global element, or a declaration. -/
def readLocalElement (group : GroupReader) (expanding : List QName) (context : Context)
    (e : Element) : DraftM Particle := do
  let occurs ← context.occurs e
  match e.attribute? "ref" with
  | some reference => return .element occurs (← elementNamed context e reference)
  | none =>
    let name ← context.requiredName e
    let id ← newElement name (context.localNamespace e context.elementsQualified) false
    readElement group expanding context e id
    return .element occurs id
termination_by 2 * sizeOf e + 1

end

end ContentReader

namespace DraftM

/-- Reads the use of a group: the model group in its definition, with the bounds of the use. Groups
may be used within each other `depth` times. -/
def readGroupWithin : Nat → GroupReader
  | depth, expanding, context, e => do
    let (name, definition) ←
      expandGroup .group "group" .circularGroup (·.groups) expanding context e
    let occurs ← context.occurs e
    match definition.element.children.find? fun c => (Compositor.ofTag? c.localName).isSome with
    | none => throw (definition.context.fault (.groupWithoutContent name))
    | some content =>
      match depth with
      | 0 => throw (context.fault (.circularGroup name))
      | depth + 1 =>
        -- A group is read with the settings of the document that defines it.
        let particle ← ContentReader.readModelGroup (readGroupWithin depth) (name :: expanding)
          definition.context content
        return particle.withOccurs occurs

/-- Reads the use of a group. Groups cannot be used within each other more often than there are
any. -/
def readGroup : GroupReader := fun expanding context e => do
  readGroupWithin (← get).groups.size expanding context e

/-- Reads a declared component. -/
def readGlobal (g : Global) : DraftM Unit :=
  match g.target with
  | .element id => ContentReader.readElement readGroup [] g.context g.element id
  | .attr id => readAttribute g.context g.element id
  | .complexType id => ContentReader.readComplexType readGroup [] g.context g.element id none
  | .simpleType id => readSimpleType g.context g.element id

end DraftM

end SchemaBinding.Xsd
