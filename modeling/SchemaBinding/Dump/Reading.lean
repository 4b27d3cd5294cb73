import SchemaBinding.Dump.Basic
import SchemaBinding.Json.Reader
import SchemaBinding.Text.Unsigned

/-!
# Reading dumps

A dump is read from JSON. A record is an object, or an array of its members in order. In an object
other members are passed over, and a member that may be missing may also be null.

## Main definitions

* `Dump.record?`: the members of a record
* `Dump.ofJson?`: the dump that a value stands for
* `Dump.parse?`: the dump that a text stands for
-/

namespace SchemaBinding.Dump

open Json (Value)
open Repository (Constraint Enumeration)

/-! ## Records -/

/-- The value of the only member of a name, or nothing if there is none. Several members of the
name are refused. -/
def uniqueMember? (members : List (Option String × Value)) (name : String) :
    Option (Option Value) :=
  match members.filter (·.1 == some name) with
  | [] => some none
  | [(_, v)] => some (some v)
  | _ => none

/-- The members of a record that are named, as far as there are any. The names of all members
must be texts. -/
def record? (names : List String) : Value → Option (List (Option Value))
  | .array vs => if vs.length = names.length then some (vs.map some) else none
  | .object members =>
    if members.all (·.1.isSome) then names.mapM (uniqueMember? members) else none
  | _ => none

/-- A member that must not be missing. -/
def required {α : Type} (read : Value → Option α) (member : Option Value) : Option α :=
  member.bind read

/-- A member that may be missing or null. -/
def optional? {α : Type} (read : Value → Option α) : Option Value → Option (Option α)
  | none | some .null => some none
  | some v => (read v).map some

/-! ## Plain values -/

/-- The text of a string. -/
def textOf? : Value → Option String
  | .string s => s
  | _ => none

/-- A truth value. -/
def boolOf? : Value → Option Bool
  | .bool b => some b
  | _ => none

/-- A 32-bit number. -/
def wordOf? : Value → Option UInt32
  | .natural n => Text.ofNat32? n
  | _ => none

/-- The items of an array, each read in the same way. -/
def listOf? {α : Type} (read : Value → Option α) : Value → Option (List α)
  | .array vs => vs.mapM read
  | _ => none

/-! ## Parts of a dump -/

/-- A field. -/
def FieldInfo.ofJson? (v : Value) : Option FieldInfo := do
  let [name, type, defaultValue, constant, nillable, maxLength] ←
    record? ["name", "type", "default", "constant", "nillable", "max_length"] v | none
  return {
    name := ← required textOf? name
    type := ← required textOf? type
    defaultValue := ← optional? textOf? defaultValue
    constant := ← required boolOf? constant
    nillable := ← required boolOf? nillable
    maxLength := ← optional? wordOf? maxLength }

/-- What is particular to a list type. -/
def ListInfo.ofJson? (v : Value) : Option ListInfo := do
  let [itemType, elementName, defaultValue, minOccurs, maxOccurs] ←
    record? ["item_type", "element_name", "default", "min_occurs", "max_occurs"] v | none
  return {
    itemType := ← required textOf? itemType
    elementName := ← required textOf? elementName
    defaultValue := ← optional? textOf? defaultValue
    minOccurs := ← required wordOf? minOccurs
    maxOccurs := ← optional? wordOf? maxOccurs }

/-- How deep arrays and objects may be nested in a constraint, so that there are fewer than 128
around each other in a dump. -/
def constraintDepth : Nat := 123

/-- The kind of a constraint, which comes first in an array. -/
def kindOf? : Value → Option String
  | .array (v :: _) => textOf? v
  | .object members => do
    let kind ← uniqueMember? members "kind"
    required textOf? kind
  | _ => none

/-- A constraint of a given kind. -/
def constraintOfKind? (kind : String) (v : Value) : Option Constraint := do
  match kind with
  | "stringLength" =>
    let [_, min, max] ← record? ["kind", "min", "max"] v | none
    return .stringLength (← required wordOf? min) (← required wordOf? max)
  | "enum" =>
    let [_, values] ← record? ["kind", "values"] v | none
    return .enumeration (.ofList (← required (listOf? textOf?) values))
  | _ => none

/-- A constraint. All that is in it must be ordinary and not nested too deep, also what is passed
over. -/
def constraintOfJson? (v : Value) : Option Constraint :=
  if v.isOrdinary && v.depth ≤ constraintDepth then
    (kindOf? v).bind fun kind => constraintOfKind? kind v
  else none

/-- A type. -/
def TypeInfo.ofJson? (v : Value) : Option TypeInfo := do
  let [name, kind, superType, constraints, fields, list] ←
    record? ["name", "kind", "super_type", "constraints", "fields", "list"] v | none
  return {
    name := ← required textOf? name
    kind := ← required textOf? kind
    superType := ← optional? textOf? superType
    constraints := ← optional? (listOf? constraintOfJson?) constraints
    fields := ← optional? (listOf? FieldInfo.ofJson?) fields
    list := ← optional? ListInfo.ofJson? list }

/-- The dump that a value stands for. -/
def ofJson? (v : Value) : Option Dump := do
  let [name, namespaceUri, nsPrefix, fields, types] ←
    record? ["name", "namespace", "prefix", "fields", "types"] v | none
  return {
    name := ← required textOf? name
    namespaceUri := ← required textOf? namespaceUri
    nsPrefix := ← required textOf? nsPrefix
    fields := ← required (listOf? FieldInfo.ofJson?) fields
    types := ← required (listOf? TypeInfo.ofJson?) types }

/-- The dump that a text stands for. -/
def parse? (s : String) : Option Dump := (Value.parse? s).bind ofJson?

end SchemaBinding.Dump
