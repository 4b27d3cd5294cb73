import SchemaBinding.Repository.Registry
import SchemaBinding.Xsd.SchemaSet

/-!
# Summaries

What the program shows for a person to read.

## Main definitions

* `CommandLine.schemaSummary`: the fields and types of a bound schema
* `CommandLine.typesSummary`: the global types of a schema set
* `CommandLine.skippedSummary`: the declarations that were left out
-/

namespace SchemaBinding.CommandLine

open Repository (Field Schema Store TypeRef)
open Xsd (SchemaSet)

/-- The name of the program. -/
def programName : String := "xsdbind"

/-- The version of the program. -/
def version : String := "0.1.0"

/-- Lines of text, each with its end. -/
def unlines (lines : List String) : String := String.join (lines.map (· ++ "\n"))

/-- The line of a field. -/
def fieldLine (store : Store) (f : Field) : String :=
  let line := s!"  {f.name} : {store.nameOf f.type}"
  if f.flags.isEmpty then line else s!"{line} [{f.flags.text}]"

/-- The line of a type. -/
def typeLine (store : Store) (t : TypeRef) : String :=
  let about := match t with
    | .complex id => s!"{t.kind}, {(store.complex id).fields.length} fields"
    | .list id => s!"{t.kind} of {store.nameOf (store.list id).item}"
    | .primitive _ | .simple _ => t.kind
  s!"  {store.nameOf t} ({about})"

/-- The lines of a bound schema. -/
def schemaLines (store : Store) (s : Schema) : List String :=
  [s!"{programName} v{version}", "", s!"Schema: {s.name}", s!"  Namespace: {s.target.uri}"] ++
    (if s.target.hasPrefix then [s!"  Prefix: {s.target.nsPrefix}"] else []) ++
    ["", "=== Fields ==="] ++ s.fields.map (fieldLine store) ++
    ["", "=== Types ==="] ++ s.types.values.map (typeLine store)

/-- The fields and types of a bound schema. -/
def schemaSummary (store : Store) (s : Schema) : String := unlines (schemaLines store s)

/-- The lines of a schema in a set: its namespace, and its global types with their kinds. -/
def namespaceLines (schemas : SchemaSet) (s : Xsd.Schema) : List String :=
  (if s.namespaceUri.isEmpty then "(no namespace)" else s.namespaceUri) ::
    s.types.entries.map fun (name, id) =>
      let kind := if (schemas.type id).isComplex then "complex" else "simple"
      s!"  {name} ({kind})"

/-- The global types of a schema set, but for those of the schema language. -/
def typesSummary (schemas : SchemaSet) : String :=
  unlines ((schemas.schemas.filter fun s => !s.isMeta).flatMap (namespaceLines schemas))

/-- The declarations that were left out, if there are any. -/
def skippedSummary (diagnostics : List String) : String :=
  if diagnostics.isEmpty then ""
  else unlines ("" :: "Skipped declarations:" :: diagnostics.map ("  - " ++ ·))

end SchemaBinding.CommandLine
