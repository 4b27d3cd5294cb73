import SchemaBinding.Binding.Build
import SchemaBinding.Binding.Field
import SchemaBinding.Binding.Naming

/-!
# Fields of content

The particles of a content model become fields of a complex type. Nested groups are flattened, the
alternatives of a choice like the rest; what may occur more than once becomes a list. Content that
is nothing but one repeated element makes the complex type itself a list.

## Main definitions

* `Binding.soleRepeated?`: the one repeated element that content consists of
* `Binding.promote`: the list that takes the place of a complex type
* `Binding.addParticle`, `Binding.addParticles`, `Binding.addContent`: content as fields
-/

namespace SchemaBinding.Binding

open Repository (ComplexId ComplexType Field ListType TypeRef)
open Xsd (ElementDeclaration ElementId Occurs Particle TypeId)

/-- How a type definition is bound; an anonymous simple type is named after the given name. -/
abbrev Loader := TypeId → String → BuildM TypeRef

/-- The element that content consists of, if it is the only particle and may occur more than
once. -/
def soleRepeated? : List Particle → Option (Occurs × ElementId)
  | [.element occurs id] => if occurs.isMultiple then some (occurs, id) else none
  | _ => none

/-- Adds a field to a complex type. If the field cannot be made it is left out. -/
def addFieldOrSkip (target : ComplexId) (name : String) (field : BuildM Field) : StepM Unit := do
  match ← field.run with
  | .ok field => modify (Build.addField target field)
  | .error failure =>
    modify fun b => b.skip s!"{(b.store.complex target).name}/{name}" failure

/-- The field of an element; of a repeated one, with a list of what may occur. -/
def elementEntry (load : Loader) (occurs : Occurs) (e : ElementDeclaration) : BuildM Field := do
  let type ← load e.type e.name
  if occurs.isMultiple then
    let list ← BuildM.addList
      { name := Naming.anonymousListType e.name
        schema := ← BuildM.schemaName
        item := type
        elementName := e.name
        defaultValue := none
        minOccurs := 0
        maxOccurs := occurs.max }
    return .plain e.name list
  else
    return elementField (← get).store e type

/-- Puts a list of a repeated element in the place of a complex type. -/
def promote (load : Loader) (target : ComplexId) (occurs : Occurs) (e : ElementDeclaration) :
    BuildM TypeRef := do
  let item ← load e.type e.name
  let name := ((← get).store.complex target).name
  BuildM.report .debug s!"complex type {name} is a list of {e.name}"
  let list ← BuildM.addList
    { name := name
      schema := ← BuildM.schemaName
      item := item
      elementName := e.name
      defaultValue := e.defaultValue
      minOccurs := occurs.min
      maxOccurs := occurs.max }
  modify (Build.replace list)
  return list

/-- The field of a repeated group of `target`: a list of a complex type that is made for one
occurrence. That type has the super type of `target`, and `fill` makes its content. -/
def groupEntry (target : ComplexId) (occurs : Occurs) (fill : ComplexId → BuildM TypeRef) :
    BuildM Field := do
  let whole := (← get).store.complex target
  let schema ← BuildM.schemaName
  let mark ← BuildM.mark
  -- The item type is in the scope before its content, like every complex type.
  let item ← BuildM.openComplex (Naming.anonymousListItem whole.name) whole.super
  match ← BuildM.attempt (fill item) with
  | .error failure =>
    -- Types made for the content go, too: they may refer to the item type.
    let _ ← BuildM.rollback mark
    throw failure
  | .ok type =>
    let list ← BuildM.addList
      { ListType.ofItem (Naming.anonymousListType whole.name) schema type with
        maxOccurs := occurs.max }
    return .plain (Naming.anonymousList whole.name) list

mutual

/-- Adds the fields of a particle to a complex type. -/
def addParticle (setting : Setting) (load : Loader) (target : ComplexId) :
    Particle → StepM Unit
  | .element occurs id => do
    let e := setting.set.element id
    addFieldOrSkip target e.name (elementEntry load occurs e)
  | .group occurs _ children => do
    if occurs.isMultiple then
      let name := ((← get).store.complex target).name
      addFieldOrSkip target (Naming.anonymousList name)
        (groupEntry target occurs fun item => addContent setting load item children)
    else
      addParticles setting load target children
  | .wildcard _ =>
    modify fun b =>
      b.report .warn s!"ignoring wildcard content of complex type {(b.store.complex target).name}"
termination_by p => 2 * sizeOf p

/-- Adds the fields of particles to a complex type, in order. -/
def addParticles (setting : Setting) (load : Loader) (target : ComplexId) :
    List Particle → StepM Unit
  | [] => pure ()
  | p :: ps => do
    addParticle setting load target p
    addParticles setting load target ps
termination_by ps => 2 * sizeOf ps

/-- Makes the content of a complex type of the particles of a group. The result is the type itself,
or the list that takes its place: a type without super type whose content is one repeated element
becomes a list. -/
def addContent (setting : Setting) (load : Loader) (target : ComplexId)
    (children : List Particle) : BuildM TypeRef := do
  -- A list has no super type, so a type with one keeps its field.
  match ((← get).store.complex target).super, soleRepeated? children with
  | none, some (occurs, id) => promote load target occurs (setting.set.element id)
  | _, _ =>
    addParticles setting load target children
    return .complex target
termination_by 2 * sizeOf children + 1

end

end SchemaBinding.Binding
