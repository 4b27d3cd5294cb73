import SchemaBinding.Text.Digit

/-!
# Tables of characters

A property of characters is given by runs of code points, which are written in hexadecimal and
separated by blanks: `A` for one code point, `A-B` for all from `A` to `B`, `A~B` for every second
one. What goes with the code points follows a colon, with commas in between. The tables of this
folder and that of the mapping of domain names have the characters up to Unicode 18.

## Main definitions

* `Unicode.Run`: code points with what goes with them
* `Unicode.Run.image`: what a code point of a run is mapped to
* `Unicode.Table`: runs, with `Table.ofText`, `Table.find?` and `Table.contains`
-/

namespace SchemaBinding.Unicode

/-- The code points from `first` to `last` in steps of `step`, and what goes with them. -/
structure Run where
  first : Nat
  last : Nat
  step : Nat
  values : List Nat
  deriving DecidableEq, Repr

namespace Run

/-- Whether a code point is one of a run. -/
def contains (r : Run) (n : Nat) : Bool :=
  r.first ≤ n && n ≤ r.last && (n - r.first) % r.step == 0

theorem contains_iff {r : Run} {n : Nat} :
    r.contains n = true ↔ (r.first ≤ n ∧ n ≤ r.last) ∧ r.step ∣ n - r.first := by
  simp [contains, Nat.dvd_iff_mod_eq_zero]

/-- What a character of a run is mapped to. A single value is that of the first character, and those
of the others are as far from it as they are from the first one. -/
def image (r : Run) (c : Char) : List Char :=
  match r.values with
  | [v] => [Char.ofNat (v + (c.toNat - r.first))]
  | vs => vs.map Char.ofNat

/-- The code points of a run that is written in hexadecimal, with what goes with them. -/
def ofPlace? (place : List Char) (values : List Nat) : Option Run := do
  let range (a b : List Char) (step : Nat) : Option Run := do
    return ⟨← Text.number? 16 a, ← Text.number? 16 b, step, values⟩
  match place.splitOn '-', place.splitOn '~' with
  | [a, b], _ => range a b 1
  | _, [a, b] => range a b 2
  | _, _ => range place place 1

/-- The run that is written with the given characters. -/
def ofChars? (cs : List Char) : Option Run := do
  let values ← match cs.dropWhile (· != ':') with
    | _ :: c :: written => ((c :: written).splitOn ',').mapM (Text.number? 16)
    | _ => some []
  ofPlace? (cs.takeWhile (· != ':')) values

end Run

/-- Runs of code points. -/
structure Table where
  runs : List Run
  deriving Repr

namespace Table

/-- The table that is written in a text. -/
def ofText (s : String) : Table :=
  ⟨(s.toList.splitOnP Char.isWhitespace).filterMap fun cs =>
    if cs.isEmpty then none else Run.ofChars? cs⟩

/-- The run that a character is in. -/
def find? (t : Table) (c : Char) : Option Run := t.runs.find? (·.contains c.toNat)

/-- Whether a character is in a table. -/
def contains (t : Table) (c : Char) : Bool := t.runs.any (·.contains c.toNat)

theorem isSome_find? (t : Table) (c : Char) : (t.find? c).isSome = t.contains c := by
  rw [Bool.eq_iff_iff]
  simp [find?, contains]

end Table

example : Run.ofChars? ['A', '-', 'C', ':', '1', 'F'] = some ⟨10, 12, 1, [31]⟩ := by decide

example : Run.ofChars? ['A', '~', 'E', ':'] = some ⟨10, 14, 2, []⟩ := by decide

end SchemaBinding.Unicode
