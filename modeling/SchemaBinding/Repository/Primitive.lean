/-!
# Primitive types

The types that a repository has by itself, and the built-in types of XML Schema that each of them
stands for.

## Main definitions

* `Repository.Primitive`: the primitives
* `Repository.Primitive.ofBuiltin?`: the primitive for a built-in type
-/

namespace SchemaBinding.Repository

/-- The types that a repository has by itself. -/
inductive Primitive where
  | string
  | boolean
  | integer
  | long
  | double
  | date
  | binary
  deriving DecidableEq, Repr, Inhabited

namespace Primitive

/-- The name of a primitive. -/
def name : Primitive → String
  | .string => "string"
  | .boolean => "boolean"
  | .integer => "integer"
  | .long => "long"
  | .double => "double"
  | .date => "date"
  | .binary => "binary"

/-- The built-in types that each primitive stands for. -/
def builtins : List (Primitive × List String) :=
  [(.string, ["string", "normalizedString", "token", "language", "Name", "NCName", "ID", "IDREF",
      "IDREFS", "ENTITY", "ENTITIES", "NMTOKEN", "NMTOKENS", "anyURI", "anySimpleType"]),
    (.boolean, ["boolean"]),
    (.integer, ["integer", "int", "short", "byte", "nonNegativeInteger", "positiveInteger",
      "nonPositiveInteger", "negativeInteger", "unsignedInt", "unsignedShort", "unsignedByte"]),
    (.long, ["long", "unsignedLong"]),
    (.double, ["float", "double", "decimal"]),
    (.date, ["date", "dateTime", "time", "duration", "gYearMonth", "gYear", "gMonthDay", "gDay",
      "gMonth"]),
    (.binary, ["hexBinary", "base64Binary"])]

/-- The primitive that stands for the built-in type of a name, if there is one. -/
def ofBuiltin? (builtin : String) : Option Primitive :=
  (builtins.find? (·.2.contains builtin)).map (·.1)

end Primitive

end SchemaBinding.Repository
