import SchemaBinding.Error
import SchemaBinding.Path
import SchemaBinding.Url.Reading

/-!
# Locations

Where a schema document is: a file, a URL, or in memory. References are relative to the location
of the document that makes them.

## Main definitions

* `Location`: the kinds of locations
* `Location.parse`: the location that a text names
* `Location.resolve`: the location that a reference names
-/

namespace SchemaBinding

/-- Where a document is. -/
inductive Location where
  /-- A file. -/
  | file (path : Path)
  /-- A URL that names no file. -/
  | remote (url : Url)
  /-- A text in memory. -/
  | inMemory (content : String)
  deriving DecidableEq, Repr

namespace Location

/-- The location that a URL names: those of the scheme `file` name files, and a scheme of one
letter is none but the letter of a drive. -/
def ofUrl? (url : Url) : Result (Option Location) :=
  if url.scheme = "file" then
    match url.filePath? with
    | some path => .ok (some (.file path))
    | none => .error (.resource (.unmappable url.text))
  else if 1 < url.scheme.length then .ok (some (.remote url))
  else .ok none

/-- The location that a text names: a URL if it is one, else a file. -/
def parse (s : String) : Result Location :=
  match Url.parse s with
  | .error _ => .ok (.file (.ofText s))
  | .ok url => (ofUrl? url).map fun location => location.getD (.file (.ofText s))

/-- The location that a reference names in a document at `base`. -/
def resolve (base : Location) (reference : String) : Result Location := do
  match ← parse reference with
  | .file path =>
    if path.isAbsolute then return .file path
    else
      match base with
      | .file basePath => return .file (basePath.parent.join path)
      | .remote baseUrl =>
        match baseUrl.join reference with
        | .ok url => return .remote url
        | .error fault => throw (.url fault)
      | .inMemory _ => return .file path
  | location => return location

/-- The text that stands for a location in messages. -/
def text : Location → String
  | .file path => path.text
  | .remote url => url.text
  | .inMemory _ => "<string>"

end Location

end SchemaBinding
