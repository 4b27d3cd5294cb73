import SchemaBinding.Limits
import SchemaBinding.Resource
import SchemaBinding.Url.Fault
import SchemaBinding.Xml.Fault
import SchemaBinding.Xsd.Fault

/-!
# Errors

Why a schema, or a document, cannot be read.

## Main definitions

* `Error`: the causes
* `Error.message`: their texts
-/

namespace SchemaBinding

/-- Why an operation fails. -/
inductive Error where
  /-- A fault of a schema, with the source it was found in where that is known. -/
  | parse (fault : Xsd.Fault) (source : Option String)
  /-- A prefix without a namespace. -/
  | unknownPrefix (nsPrefix : String)
  /-- A name that components may not have. -/
  | invalidName (name : String)
  /-- A limit that is exceeded. -/
  | limitExceeded (excess : LimitExceeded)
  /-- A location without content. -/
  | resource (fault : ResourceFault)
  /-- A fault of markup. -/
  | xml (fault : Xml.Fault)
  /-- A reference that gives no URL. -/
  | url (fault : Url.Fault)
  deriving DecidableEq, Repr

namespace Error

/-- The text of a fault with the source it was found in. -/
def located (text : String) : Option String → String
  | some source => s!"{text} (in {source})"
  | none => text

/-- The text of an error. -/
def message : Error → String
  | .parse fault source => "parse error: " ++ located fault.message source
  | .unknownPrefix nsPrefix => s!"namespace error: Unknown prefix: {nsPrefix}"
  | .invalidName name => s!"name error: Invalid NCName: '{name}'"
  | .limitExceeded excess => s!"limit exceeded: {excess.message}"
  | .resource fault => s!"resource error: {fault.message}"
  | .xml fault => s!"XML error: {fault.message}"
  | .url fault => s!"URL error: {fault.message}"

end Error

/-- The results of operations that may fail. -/
abbrev Result := Except Error

namespace Result

/-- The result of a check against a limit. -/
def ofLimit {α : Type} (check : Except LimitExceeded α) : Result α :=
  check.mapError .limitExceeded

/-- The result of resolving a name, whose error is a prefix without a namespace. -/
def ofName {α : Type} (name : Except String α) : Result α :=
  name.mapError .unknownPrefix

end Result

end SchemaBinding
