import SchemaBinding.Path

/-!
# Faults of resources

Why the content of a location cannot be had.

## Main definitions

* `ReadFault`: why a file cannot be read
* `ResourceFault`: why a location has no content
-/

namespace SchemaBinding

/-- Why a file cannot be read. -/
inductive ReadFault where
  | notFound
  | isDirectory
  | notDirectory
  | notText
  /-- A path, or one of its components, that is longer than paths can be. -/
  | tooLong
  /-- A path that holds the character that ends paths. -/
  | endWithin
  deriving DecidableEq, Repr

/-- The text of the reason, as the operating system words it. -/
def ReadFault.message : ReadFault → String
  | .notFound => "No such file or directory (os error 2)"
  | .isDirectory => "Is a directory (os error 21)"
  | .notDirectory => "Not a directory (os error 20)"
  | .notText => "stream did not contain valid UTF-8"
  | .tooLong => "File name too long (os error 36)"
  | .endWithin => "file name contained an unexpected NUL byte"

/-- Why a location has no content. -/
inductive ResourceFault where
  /-- A file that cannot be read. -/
  | unreadable (path : Path) (reason : ReadFault)
  /-- A location that is not a file. -/
  | remote (url : String)
  /-- A file URL that names a host. -/
  | unmappable (url : String)
  deriving DecidableEq, Repr

/-- The text of a fault. -/
def ResourceFault.message : ResourceFault → String
  | .unreadable path reason => s!"Failed to read file '{path.text}': {reason.message}"
  | .remote url => s!"Remote schema locations are not supported: {url}"
  | .unmappable url => s!"Cannot map URL '{url}' to a file path"

end SchemaBinding
