/-!
# Faults of documents

What can be wrong with octets that are read as a document, names that cannot be resolved and
depth apart.

## Main definitions

* `Xml.Fault`: the faults
* `Xml.Fault.message`: their texts
-/

namespace SchemaBinding.Xml

/-- What is wrong with the markup of a document. -/
inductive Fault where
  /-- Markup that does not come to its end, or is none, or an end tag that does not match. -/
  | markup
  /-- Text that is not UTF-8 or has an unknown reference. -/
  | text
  /-- An attribute without `=`, a quoted value or a name of its own. -/
  | malformedAttribute
  /-- An attribute value that is not UTF-8 or has an unknown reference. -/
  | attributeValue (name : String)
  /-- An attribute name that is not UTF-8. -/
  | attributeName
  /-- An element name that is not UTF-8. -/
  | elementName
  /-- The end of the document inside an element. -/
  | unclosed (localName : String)
  deriving DecidableEq, Repr

/-- The text of a fault. -/
def Fault.message : Fault → String
  | .markup => "Error parsing XML"
  | .text => "Failed to unescape text"
  | .malformedAttribute => "Malformed attribute"
  | .attributeValue name => s!"Bad value for attribute '{name}'"
  | .attributeName => "Invalid attribute name"
  | .elementName => "Invalid element name"
  | .unclosed localName => s!"Unexpected end of document inside <{localName}>"

end SchemaBinding.Xml
