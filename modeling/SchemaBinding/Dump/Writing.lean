import SchemaBinding.Dump.Basic
import SchemaBinding.Json.Printer

/-!
# Writing dumps

A dump is written as JSON. What a field, a type or a list does not have is left out, but for the
greatest number of occurrences of a list.

## Main definitions

* `Dump.toJson`: the value that stands for a dump
* `Dump.text`: the text of a dump
-/

namespace SchemaBinding.Dump

open Json (Value)
open Repository (Constraint)

/-- A member that is left out if there is nothing to write. -/
def optional (name : String) : Option Value → List (String × Value)
  | some v => [(name, v)]
  | none => []

/-- The value of a 32-bit number. -/
def word (n : UInt32) : Value := .natural n.toNat

/-- The value of a field. -/
def FieldInfo.toJson (f : FieldInfo) : Value :=
  .record <| [("name", .text f.name), ("type", .text f.type)] ++
    optional "default" (f.defaultValue.map .text) ++
    [("constant", .bool f.constant), ("nillable", .bool f.nillable)] ++
    optional "max_length" (f.maxLength.map word)

/-- The value of a list type. -/
def ListInfo.toJson (l : ListInfo) : Value :=
  .record <| [("item_type", .text l.itemType), ("element_name", .text l.elementName)] ++
    optional "default" (l.defaultValue.map .text) ++
    [("min_occurs", word l.minOccurs), ("max_occurs", (l.maxOccurs.map word).getD .null)]

/-- The value of a constraint. -/
def constraintToJson : Constraint → Value
  | .stringLength min max =>
    .record [("kind", .text "stringLength"), ("min", word min), ("max", word max)]
  | .enumeration values =>
    .record [("kind", .text "enum"), ("values", .array (values.values.map .text))]

/-- The value of a type. -/
def TypeInfo.toJson (t : TypeInfo) : Value :=
  .record <| [("name", .text t.name), ("kind", .text t.kind)] ++
    optional "super_type" (t.superType.map .text) ++
    optional "constraints" (t.constraints.map fun cs => .array (cs.map constraintToJson)) ++
    optional "fields" (t.fields.map fun fs => .array (fs.map FieldInfo.toJson)) ++
    optional "list" (t.list.map ListInfo.toJson)

/-- The value of a dump. -/
def toJson (d : Dump) : Value :=
  .record [("name", .text d.name), ("namespace", .text d.namespaceUri),
    ("prefix", .text d.nsPrefix), ("fields", .array (d.fields.map FieldInfo.toJson)),
    ("types", .array (d.types.map TypeInfo.toJson))]

/-- The text of a dump. -/
def text (d : Dump) : String := d.toJson.pretty

end SchemaBinding.Dump
