import SchemaBinding.OrderedMap
import SchemaBinding.Xsd.Facet
import SchemaBinding.Xsd.Occurs

/-!
# Components

The components of a schema set: type definitions, declarations of elements and attributes, and the
content of complex types. Components refer to each other by identifiers, which are places in the
set.

## Main definitions

* `Xsd.TypeId`, `Xsd.ElementId`, `Xsd.AttributeId`: identifiers
* `Xsd.Particle`, `Xsd.Content`: what a complex type may contain
* `Xsd.SimpleType`, `Xsd.ComplexType`, `Xsd.TypeDefinition`: types
* `Xsd.ElementDeclaration`, `Xsd.AttributeDeclaration`: declarations
* `Xsd.Schema`: the global components of one namespace
-/

namespace SchemaBinding.Xsd

/-- The identifier of a type definition. -/
structure TypeId where
  index : Nat
  deriving DecidableEq, Repr, Inhabited

/-- The identifier of an element declaration. -/
structure ElementId where
  index : Nat
  deriving DecidableEq, Repr, Inhabited

/-- The identifier of an attribute declaration. -/
structure AttributeId where
  index : Nat
  deriving DecidableEq, Repr, Inhabited

/-- How the particles of a group are put together. -/
inductive Compositor where
  | sequence
  | choice
  | all
  deriving DecidableEq, Repr

namespace Compositor

/-- The tag of a compositor. -/
def tag : Compositor → String
  | .sequence => "sequence"
  | .choice => "choice"
  | .all => "all"

/-- The compositor of a tag. -/
def ofTag? : String → Option Compositor
  | "sequence" => some .sequence
  | "choice" => some .choice
  | "all" => some .all
  | _ => none

end Compositor

/-- A part of the content of a complex type. -/
inductive Particle where
  /-- An element. -/
  | element (occurs : Occurs) (declaration : ElementId)
  /-- A group of particles. -/
  | group (occurs : Occurs) (compositor : Compositor) (children : List Particle)
  /-- Any element. -/
  | wildcard (occurs : Occurs)
  deriving Repr, Inhabited

namespace Particle

/-- How often a particle may occur. -/
def occurs : Particle → Occurs
  | .element occurs _ | .group occurs _ _ | .wildcard occurs => occurs

/-- The particle with other bounds. -/
def withOccurs (occurs : Occurs) : Particle → Particle
  | .element _ declaration => .element occurs declaration
  | .group _ compositor children => .group occurs compositor children
  | .wildcard _ => .wildcard occurs

/-- Whether a particle may occur more than once. -/
def isRepeated (p : Particle) : Bool := p.occurs.isMultiple

end Particle

/-- The content of a complex type. -/
inductive Content where
  | empty
  /-- A value of a simple type. -/
  | simple (type : TypeId)
  | particle (particle : Particle)
  deriving Repr, Inhabited

/-- What the values of a simple type are. -/
inductive Variety where
  | atomic
  | list (item : TypeId)
  | union (members : List TypeId)
  deriving DecidableEq, Repr

/-- What a simple type says besides its name and base. -/
structure SimpleType where
  variety : Variety
  facets : FacetSet
  deriving Repr

/-- A simple type that restricts its base by facets. -/
def SimpleType.restriction (facets : FacetSet) : SimpleType := ⟨.atomic, facets⟩

/-- How a complex type is derived from its base. -/
inductive Derivation where
  | restriction
  | extension
  deriving DecidableEq, Repr

/-- The use of an attribute in a complex type. -/
structure AttributeUse where
  declaration : AttributeId
  required : Bool
  deriving DecidableEq, Repr

/-- What a complex type says besides its name and base. An anonymous type is defined in the
element `scope`. The content is complete; an extension also has its content without that of its
base. -/
structure ComplexType where
  scope : Option ElementId
  derivation : Derivation
  explicitContent : Option Content
  content : Content
  attributes : List AttributeUse
  mixed : Bool
  deriving Repr

/-- A complex type without content. -/
def ComplexType.empty (scope : Option ElementId) : ComplexType :=
  ⟨scope, .restriction, none, .empty, [], false⟩

/-- The two kinds of types. -/
inductive TypeKind where
  | simple (definition : SimpleType)
  | complex (definition : ComplexType)
  deriving Repr

/-- A type definition. A type that is its own base ends a chain of bases. -/
structure TypeDefinition where
  name : Option String
  namespaceUri : String
  base : TypeId
  kind : TypeKind
  deriving Repr

namespace TypeDefinition

/-- Whether a type is simple. -/
def isSimple (t : TypeDefinition) : Bool :=
  match t.kind with
  | .simple _ => true
  | .complex _ => false

/-- Whether a type is complex. -/
def isComplex (t : TypeDefinition) : Bool := !t.isSimple

/-- The definition of a complex type. -/
def complex? (t : TypeDefinition) : Option ComplexType :=
  match t.kind with
  | .simple _ => none
  | .complex definition => some definition

/-- The name of a type in messages. -/
def displayName (t : TypeDefinition) : String := t.name.getD "<anonymous>"

end TypeDefinition

/-- An element declaration. -/
structure ElementDeclaration where
  name : String
  namespaceUri : String
  type : TypeId
  defaultValue : Option String
  fixedValue : Option String
  nillable : Bool
  isGlobal : Bool
  deriving Repr, Inhabited

/-- An attribute declaration. -/
structure AttributeDeclaration where
  name : String
  namespaceUri : String
  type : TypeId
  defaultValue : Option String
  fixedValue : Option String
  isGlobal : Bool
  deriving Repr, Inhabited

/-- The global components of one namespace, in the order of their declaration, and the sources they
come from. -/
structure Schema where
  namespaceUri : String
  sources : List String
  elements : OrderedMap String ElementId
  attributes : OrderedMap String AttributeId
  types : OrderedMap String TypeId

/-- The schema of a namespace without components. -/
def Schema.empty (namespaceUri : String) : Schema := ⟨namespaceUri, [], .empty, .empty, .empty⟩

end SchemaBinding.Xsd
