import SchemaBinding.Xml.QName

/-!
# Faults of schemas

What can be wrong with schema documents that are well-formed XML.

## Main definitions

* `Xsd.Symbol`: the kinds of named components, each with a name space of its own
* `Xsd.Fault`: the faults
* `Xsd.Fault.message`: their texts
-/

namespace SchemaBinding.Xsd

/-- The kinds of components that are declared under a name. -/
inductive Symbol where
  | element
  | attr
  | type
  | group
  | attrGroup
  deriving DecidableEq, Repr

namespace Symbol

/-- The word for a component of the kind. -/
def word : Symbol → String
  | .element => "element"
  | .attr => "attribute"
  | .type => "type"
  | .group => "group"
  | .attrGroup => "attribute group"

/-- The phrase for what introduces a component of the kind. -/
def introduction : Symbol → String
  | .element => "element declaration"
  | .attr => "attribute declaration"
  | .type => "type definition"
  | .group => "group definition"
  | .attrGroup => "attribute group definition"

end Symbol

/-- What is wrong with a schema. Tags are local names of elements of the schema language. -/
inductive Fault where
  /-- A document without an element. -/
  | emptyDocument
  /-- A document whose root is not a schema. -/
  | notASchema (root : Xml.QName)
  /-- An included document of another namespace. -/
  | includedNamespace (declared expected : String)
  /-- An imported document of another namespace. -/
  | importedNamespace (declared expected : String)
  /-- An include that names no document. -/
  | includeWithoutLocation
  /-- An import of the namespace of the importing document. -/
  | importOfOwnNamespace (uri : String)
  /-- A redefinition. -/
  | redefinition
  /-- A child of the root that is no component. -/
  | unknownComponent (tag : String)
  /-- A second component of one kind and name. -/
  | duplicate (symbol : Symbol) (name : Xml.QName)
  /-- A component without a name. -/
  | missingName (tag : String)
  /-- A reference to a component that is not declared. -/
  | unknownReference (symbol : Symbol) (name : Xml.QName)
  /-- A complex type where a simple type is needed. -/
  | complexForSimple (tag reference : String)
  /-- An element with both a default and a fixed value. -/
  | elementDefaultAndFixed (name : String)
  /-- An attribute with both a default and a fixed value. -/
  | attributeDefaultAndFixed (name : String)
  /-- A simple type that says nothing. -/
  | simpleTypeWithoutDerivation
  /-- A restriction of no type. -/
  | restrictionWithoutBase
  /-- A list without a type of its items. -/
  | listWithoutItemType
  /-- A union of no types. -/
  | unionWithoutMembers
  /-- A tag that may not stand in another. -/
  | unexpected (tag parent : String)
  /-- Simple or complex content that says nothing. -/
  | contentWithoutDerivation (tag : String)
  /-- A derivation from no type. -/
  | missingBase (tag : String)
  /-- A restriction to simple content of a type that is simple. -/
  | simpleContentOfSimple (reference : String)
  /-- Complex content derived from a simple type. -/
  | complexContentOfSimple (reference : String)
  /-- A use of a group that does not say of which. -/
  | missingReference (tag : String)
  /-- A group that is used within itself. -/
  | circularGroup (name : Xml.QName)
  /-- An attribute group that is used within itself. -/
  | circularAttributeGroup (name : Xml.QName)
  /-- A group without content. -/
  | groupWithoutContent (name : Xml.QName)
  /-- A use of an attribute that is neither optional, required nor prohibited. -/
  | attributeUse (value : String)
  /-- A type that is derived from itself through other types. -/
  | circularDerivation (name : String)
  /-- Simple content derived from a type that has none. -/
  | withoutSimpleContent (name : String)
  /-- A truth value that is none. -/
  | boolean (value attr : String)
  /-- A facet without a value. -/
  | facetWithoutValue (facet : String)
  /-- A facet that does not exist. -/
  | unknownFacet (facet : String)
  /-- A least number of occurrences that is none. -/
  | minOccurs (value : String)
  /-- A greatest number of occurrences that is none. -/
  | maxOccurs (value : String)
  /-- A greatest number of occurrences below the least one. -/
  | occursOrder (max min : UInt32)
  deriving DecidableEq, Repr

/-- The text of a fault. -/
def Fault.message : Fault → String
  | .emptyDocument => "Empty document"
  | .notASchema root => s!"Expected xs:schema root element, got {root.text}"
  | .includedNamespace declared expected =>
    s!"Included schema has different targetNamespace '{declared}', expected '{expected}'"
  | .importedNamespace declared expected =>
    s!"Imported schema has targetNamespace '{declared}', expected '{expected}'"
  | .includeWithoutLocation => "xs:include missing 'schemaLocation' attribute"
  | .importOfOwnNamespace uri => s!"Cannot import the importing schema's own namespace '{uri}'"
  | .redefinition => "xs:redefine is not supported"
  | .unknownComponent tag => s!"Unknown schema child element: {tag}"
  | .duplicate symbol name => s!"Duplicate {symbol.introduction} '{name.text}'"
  | .missingName tag => s!"<xs:{tag}> missing 'name' attribute"
  | .unknownReference symbol name => s!"Unknown {symbol.word} reference '{name.text}'"
  | .complexForSimple tag reference =>
    s!"<xs:{tag}> requires a simple type, '{reference}' is complex"
  | .elementDefaultAndFixed name => s!"Element '{name}' cannot have both 'default' and 'fixed'"
  | .attributeDefaultAndFixed name =>
    s!"Attribute '{name}' cannot have both 'default' and 'fixed'"
  | .simpleTypeWithoutDerivation => "xs:simpleType requires a restriction, list or union"
  | .restrictionWithoutBase => "xs:restriction requires a 'base' attribute or a simple type"
  | .listWithoutItemType => "xs:list requires an 'itemType' attribute or a simple type"
  | .unionWithoutMembers => "xs:union requires at least one member type"
  | .unexpected tag parent => s!"Unexpected <xs:{tag}> in xs:{parent}"
  | .contentWithoutDerivation tag => s!"xs:{tag} requires an extension or restriction"
  | .missingBase tag => s!"xs:{tag} requires a 'base' attribute"
  | .simpleContentOfSimple reference =>
    s!"simpleContent restriction requires a complex base, '{reference}' is simple"
  | .complexContentOfSimple reference =>
    s!"complexContent base '{reference}' must be a complex type"
  | .missingReference tag => s!"Local xs:{tag} requires a 'ref' attribute"
  | .circularGroup name => s!"Circular group reference '{name.text}'"
  | .circularAttributeGroup name => s!"Circular attribute group reference '{name.text}'"
  | .groupWithoutContent name => s!"Group '{name.text}' has no model group"
  | .attributeUse value => s!"Invalid attribute use '{value}'"
  | .circularDerivation name => s!"Circular base type derivation of '{name}'"
  | .withoutSimpleContent name =>
    s!"simpleContent of '{name}' derives from a type without simple content"
  | .boolean value attr => s!"Invalid boolean '{value}' for '{attr}'"
  | .facetWithoutValue facet => s!"Facet xs:{facet} missing 'value' attribute"
  | .unknownFacet facet => s!"Unknown facet xs:{facet}"
  | .minOccurs value => s!"Invalid minOccurs value: '{value}'"
  | .maxOccurs value => s!"Invalid maxOccurs value: '{value}'"
  | .occursOrder max min => s!"maxOccurs {max.toNat} is lower than minOccurs {min.toNat}"

end SchemaBinding.Xsd
