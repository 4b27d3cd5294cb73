import SchemaBinding.FileSystem
import SchemaBinding.Path
import SchemaBinding.Text.Utf8

/-!
# Trees of files

A file system given by its files: their places and contents. All directories on the way to a file
exist, and so does the working directory, from which relative paths start. Names are texts.

## Main definitions

* `FileTree`: files and a working directory
* `FileTree.Place.below?`: the place that a path is for, whether or not something is there
* `FileTree.locate`: the place that a path leads to
* `FileTree.toFileSystem`: the tree as a file system
-/

namespace SchemaBinding

/-- A place in a tree: the names of the directories down to it, the innermost last. -/
abbrev FileTree.Place := List String

/-- Files with their contents, and a working directory. -/
structure FileTree where
  workingDirectory : FileTree.Place
  files : List (FileTree.Place × Text.Octets)

namespace FileTree

/-- The content of the file at a place. -/
def file? (tree : FileTree) (place : Place) : Option Text.Octets := tree.files.lookup place

/-- Whether a place is a directory. -/
def isDirectory (tree : FileTree) (place : Place) : Bool :=
  place.isPrefixOf tree.workingDirectory ||
    tree.files.any fun f => place.isPrefixOf f.1 && place != f.1

/-- The most octets that the name of a file has. -/
def maxNameSize : Nat := 255

/-- The most octets that a path has. -/
def maxPathSize : Nat := 4095

/-- The place that components lead to from a directory. -/
def walk (tree : FileTree) (place : Place) : List Path.Part → Except ReadFault Place
  | [] => .ok place
  | part :: parts =>
    -- Each directory on the way must exist, also one that the next part leaves again.
    if !tree.isDirectory place then
      if (tree.file? place).isSome then .error .notDirectory else .error .notFound
    else if Path.isIdle part then walk tree place parts
    else if part == Path.doubleDot then walk tree place.dropLast parts
    else
      match part.text? with
      | some name =>
        if maxNameSize < name.utf8ByteSize then .error .tooLong
        else walk tree (place ++ [name]) parts
      -- All names in a tree are texts.
      | none => .error .notFound

/-- The place that a path leads to, if there is a file or a directory. -/
def locate (tree : FileTree) (path : Path) : Except ReadFault Place := do
  if path.chars.contains (some '\x00') then throw .endWithin
  if maxPathSize < path.text.utf8ByteSize then throw .tooLong
  if path.chars.isEmpty then throw .notFound
  let start := if path.isAbsolute then [] else tree.workingDirectory
  let place ← tree.walk start (Path.splitSlash path.body)
  if tree.isDirectory place || (tree.file? place).isSome then return place else throw .notFound

/-- The path of a place from the root, as a text. -/
def pathOf (place : Place) : String := "/" ++ "/".intercalate place

/-- The place that a path is for below another one, if its components are texts. -/
def Place.below? (place : Place) (path : Path) : Option Place :=
  (path.components.mapM Path.Part.text?).map (place ++ ·)

/-- The text of the file that a path leads to. -/
def read (tree : FileTree) (path : Path) : Except ReadFault String := do
  let place ← tree.locate path
  -- What is found and is no file is a directory.
  match tree.file? place with
  | none => throw .isDirectory
  | some octets =>
    match Text.decode? octets with
    | some text => return text
    | none => throw .notText

/-- The tree as a file system. -/
def toFileSystem (tree : FileTree) : FileSystem where
  canonical? path := (tree.locate path).toOption.map fun place => .ofText (pathOf place)
  read := tree.read

end FileTree

end SchemaBinding
