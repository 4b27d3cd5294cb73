import SchemaBinding.FileSystem
import SchemaBinding.Location

/-!
# Sources

The content of a location, within the limit on its size.

## Main definitions

* `Source.load`: the text at a location
* `Source.key`: what identifies a location
-/

namespace SchemaBinding.Source

/-- A text, if its size is within the limit. -/
def limited (limits : Limits) (content : String) : Result String := do
  Result.ofLimit (limits.check .xmlSize content.utf8ByteSize)
  return content

/-- The text at a location. -/
def load (files : FileSystem) (limits : Limits) : Location → Result String
  | .file path =>
    match files.read path with
    | .ok content => limited limits content
    | .error reason => .error (.resource (.unreadable path reason))
  | .remote url => .error (.resource (.remote url.text))
  | .inMemory content => limited limits content

/-- What identifies a location: for a file the text of its canonical path, where there is one. -/
def key (files : FileSystem) : Location → String
  | .file path => ((files.canonical? path).getD path).text
  | location => location.text

end SchemaBinding.Source
