/-!
# Built-in types

The types that XML Schema defines itself, all in its own namespace.

## Main definitions

* `Xsd.schemaNamespace`: the namespace of the schema language
* `Xsd.Builtin.atomic`, `Xsd.Builtin.lists`: the types derived from `anySimpleType`
* `Xsd.Builtin.isBuiltin`: whether a name is that of a built-in type
-/

namespace SchemaBinding.Xsd

/-- The namespace of the schema language and its built-in types. -/
def schemaNamespace : String := "http://www.w3.org/2001/XMLSchema"

namespace Builtin

/-- The type that all types are derived from. -/
def anyType : String := "anyType"

/-- The type that all simple types are derived from. -/
def anySimpleType : String := "anySimpleType"

/-- The built-in types that are neither lists nor one of the two roots. -/
def atomic : List String :=
  ["string", "normalizedString", "token", "language", "Name", "NCName", "ID", "IDREF", "ENTITY",
    "NMTOKEN", "anyURI", "QName", "NOTATION", "boolean", "decimal", "integer", "long", "int",
    "short", "byte", "nonNegativeInteger", "positiveInteger", "unsignedLong", "unsignedInt",
    "unsignedShort", "unsignedByte", "nonPositiveInteger", "negativeInteger", "float", "double",
    "duration", "dateTime", "time", "date", "gYearMonth", "gYear", "gMonthDay", "gDay", "gMonth",
    "hexBinary", "base64Binary"]

/-- The built-in list types, each with the type of its items. -/
def lists : List (String × String) :=
  [("IDREFS", "IDREF"), ("ENTITIES", "ENTITY"), ("NMTOKENS", "NMTOKEN")]

/-- Whether a local name is that of a built-in type. -/
def isBuiltin (localName : String) : Bool :=
  localName == anyType || localName == anySimpleType || atomic.contains localName ||
    lists.any (·.1 == localName)

end Builtin

end SchemaBinding.Xsd
