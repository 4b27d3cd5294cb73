import SchemaBinding.Text.Split
import SchemaBinding.Text.Utf8

/-!
# Paths

Paths of files in the POSIX notation, as they are written: components between slashes. Empty
components do not count, nor does a `.` that does not start a relative path. A path is a sequence
of octets, most often those of a text. Of octets that encode no character only the place is kept:
the names of files are texts, so such a path leads nowhere.

## Main definitions

* `Path`: the characters of a path
* `Path.ofText`, `Path.ofOctets`: the path that is written so
* `Path.text`, `Path.text?`: what stands for a path in messages, and the text that it is
* `Path.isAbsolute`: whether a path starts with a slash
* `Path.components`: the components that count
* `Path.parent`: the path without its last component
* `Path.join`: a path below another
* `Path.stem?`: the name of a file without its extension

## Main results

* `Path.text?_eq_some_iff`: a path is a text exactly if it is written as that text
-/

namespace SchemaBinding

/-- Characters of a path, and `none` for octets that encode no character. -/
abbrev Path.Part := List (Option Char)

/-- A path as it is written. -/
structure Path where
  chars : Path.Part
  deriving DecidableEq, Repr

namespace Path

/-! ## Texts -/

/-- The text that a part of a path is, if all of it is characters. -/
def Part.text? (part : Part) : Option String := (part.mapM id).map String.ofList

theorem Part.mapM_id_eq_some_iff {part : Part} {cs : List Char} :
    part.mapM id = some cs ↔ part = cs.map some := by
  induction part generalizing cs with
  | nil => cases cs <;> simp
  | cons c part ih =>
    cases c with
    | none => cases cs <;> simp
    | some c =>
      have step : (some c :: part).mapM id = (part.mapM id).map (c :: ·) := by
        cases h : part.mapM id <;> simp [h]
      cases cs with
      | nil => simp [step]
      | cons d cs => simp [step, ih, and_left_comm]

/-- The path that a text is. -/
def ofText (s : String) : Path := ⟨s.toList.map some⟩

/-- The path with the given octets. -/
def ofOctets (octets : Text.Octets) : Path := ⟨Text.characters octets⟩

/-- The text that stands for a path in messages. -/
def text (path : Path) : String := Text.replacing path.chars

/-- The text that a path is, if all of it is characters. -/
def text? (path : Path) : Option String := Part.text? path.chars

@[simp] theorem text_ofText (s : String) : (ofText s).text = s := by
  simp [text, ofText]

theorem text?_eq_some_iff {path : Path} {s : String} :
    path.text? = some s ↔ path = ofText s := by
  cases path with
  | mk chars =>
    simp only [text?, Part.text?, ofText, Option.map_eq_some_iff, Part.mapM_id_eq_some_iff,
      mk.injEq]
    constructor
    · rintro ⟨cs, rfl, rfl⟩
      simp
    · rintro rfl
      exact ⟨s.toList, rfl, by simp⟩

/-! ## Components -/

/-- What separates components. -/
def slash : Option Char := some '/'

/-- Whether a path starts with a slash. -/
def isAbsolute (path : Path) : Bool := path.chars.head? == some slash

/-- The parts between slashes, empty ones included. -/
def splitSlash (cs : Part) : List Part := cs.splitOn slash

/-- The parts with slashes between them. -/
def joinSlash (parts : List Part) : Part := [slash].intercalate parts

/-- The part that is a single dot. -/
def dot : Part := [some '.']

/-- The part that is two dots. -/
def doubleDot : Part := [some '.', some '.']

/-- Whether a part does not count as a component, at a place that is not the start of a relative
path. -/
def isIdle (part : Part) : Bool := part == [] || part == dot

/-- The parts of a path, given the characters after the slash of an absolute path, up to the last
component. The first part of a relative path counts unless it is empty. -/
def trimIdle (absolute : Bool) : List Part → List Part
  | [] => []
  | first :: more =>
    match (more.reverse.dropWhile isIdle).reverse with
    | [] => if first == [] || (absolute && isIdle first) then [] else [first]
    | kept => first :: kept

/-- The characters of a path after the slash of an absolute path. -/
def body (path : Path) : Part := if path.isAbsolute then path.chars.tail else path.chars

/-- The components that count, in order; the slash of an absolute path is not one of them. -/
def components (path : Path) : List Part :=
  match splitSlash path.body with
  | [] => []
  | first :: more =>
    let rest := more.filter fun part => !isIdle part
    if first == [] || (path.isAbsolute && isIdle first) then rest else first :: rest

/-- The path without its last component and what follows the one before; empty if there is no
component. -/
def parent (path : Path) : Path :=
  match trimIdle path.isAbsolute (splitSlash path.body) with
  | [] => ⟨[]⟩
  | parts =>
    let above := joinSlash (trimIdle path.isAbsolute parts.dropLast)
    ⟨if path.isAbsolute then slash :: above else above⟩

/-- A path below `base`, with one slash between; an absolute path stays as it is. -/
def join (base path : Path) : Path :=
  if path.isAbsolute || base.chars.isEmpty then path
  else if base.chars.getLast? == some slash then ⟨base.chars ++ path.chars⟩
  else ⟨base.chars ++ slash :: path.chars⟩

/-- The last component, if it is a text, without what follows its last dot; a dot at its start is
not one that ends a name. Paths that end in `.` or `..` name no file. -/
def stem? (path : Path) : Option String := do
  let name ← path.components.getLast?
  if name == dot || name == doubleDot then none
  else
    let cs ← name.mapM id
    match Text.splitLast? '.' cs with
    | none | some ([], _) => some (String.ofList cs)
    | some (before, _) => some (String.ofList before)

end Path

end SchemaBinding
