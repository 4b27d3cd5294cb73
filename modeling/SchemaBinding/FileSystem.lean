import SchemaBinding.Resource

/-!
# File systems

What reading schemas needs of a file system: the canonical path of a file, and its content.

## Main definitions

* `FileSystem`: the two operations
* `FileSystem.empty`: no files
-/

namespace SchemaBinding

/-- A file system: the canonical form of the paths that lead somewhere, and the text of files. -/
structure FileSystem where
  canonical? : Path → Option Path
  read : Path → Except ReadFault String

namespace FileSystem

/-- The file system without files. -/
def empty : FileSystem := ⟨fun _ => none, fun _ => .error .notFound⟩

instance : Inhabited FileSystem := ⟨empty⟩

end FileSystem

end SchemaBinding
