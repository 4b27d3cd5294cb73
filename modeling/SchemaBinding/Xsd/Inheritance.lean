import SchemaBinding.Xsd.Draft

/-!
# Inherited content

What types take from their bases once all types are read. No type may be derived from itself
through other types. The content of an extension then follows that of its base, and simple content
is that of the base; bases come first, so that their own content is complete.

## Main definitions

* `SchemaSet.checkBases`: refuses circular derivations
* `Content.extend`: content after that of a base
* `SchemaSet.inherit`: completes the content of one type
* `SchemaSet.inheritAll`: completes the content of all types that wait for it
-/

namespace SchemaBinding.Xsd

/-- Content after the content of a base: the two as a sequence, or the one of them that is not
empty. -/
def Content.extend : Content → Content → Content
  | .particle base, .particle own => .particle (.group .once .sequence [base, own])
  | base, .empty => base
  | _, own => own

namespace SchemaSet

/-- Refuses types whose bases do not come to an end; the first one is named. -/
def checkBases (set : SchemaSet) : Result Unit :=
  match (List.range set.types.size).find? fun i => !set.hasRoot ⟨i⟩ with
  | some i => .error (.parse (.circularDerivation (set.type ⟨i⟩).displayName) none)
  | none => .ok ()

/-- The content of a type, which is empty for a simple one. -/
def contentOf (set : SchemaSet) (id : TypeId) : Content :=
  match (set.type id).complex? with
  | some definition => definition.content
  | none => .empty

/-- Sets the content of a complex type. -/
def setContent (set : SchemaSet) (id : TypeId) (content : Content) : SchemaSet :=
  set.modifyType id fun t =>
    match t.kind with
    | .simple _ => t
    | .complex definition => { t with kind := .complex { definition with content := content } }

/-- The content that an extension declares itself. -/
def explicitContentOf (set : SchemaSet) (id : TypeId) : Content :=
  match (set.type id).complex? with
  | some definition => definition.explicitContent.getD .empty
  | none => .empty

/-- Completes the content of a type by that of its base. -/
def inherit (set : SchemaSet) (waiting : TypeId × Inheritance) : Result SchemaSet :=
  let (id, inheritance) := waiting
  let base := set.baseOf id
  match inheritance with
  | .extension =>
    if base = anyType then .ok set
    else .ok (set.setContent id ((set.contentOf base).extend (set.explicitContentOf id)))
  | .simpleContent =>
    match set.contentOf base with
    | .simple type => .ok (set.setContent id (.simple type))
    | _ => .error (.parse (.withoutSimpleContent (set.type id).displayName) none)

/-- Completes the content of the types that wait for it, those with fewer bases first. -/
def inheritAll (set : SchemaSet) (waiting : List (TypeId × Inheritance)) : Result SchemaSet :=
  -- The sort is stable: types with as many bases stay in the order in which they were read.
  let ordered := waiting.mergeSort fun a b => decide (set.baseDepth a.1 ≤ set.baseDepth b.1)
  ordered.foldlM inherit set

end SchemaSet

end SchemaBinding.Xsd
