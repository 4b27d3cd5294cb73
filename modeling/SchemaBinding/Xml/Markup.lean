import SchemaBinding.Xml.Octet

/-!
# Markup

The octets of a document as a sequence of pieces: tags, runs of text and character data. Comments,
processing instructions and the document type are passed over.

A tag runs to the first `>` outside quotes; at the end of the input an unfinished tag counts as
finished. White space around text is not part of it.

## Main definitions

* `Xml.Markup`: a piece
* `Xml.Markup.scan`: the first piece of some octets, and what follows
* `Xml.Markup.pieces`: all pieces, and whether they reach the end of the octets

## Main results

* `length_of_scan`: what follows a piece is shorter
-/

namespace SchemaBinding.Xml

open SchemaBinding.Text (Octets)
open Octet (lt gt slash bang question isSpace isQuote)

/-- A piece of a document. -/
inductive Markup where
  /-- A start tag, as written between `<` and `>`. -/
  | start (content : Octets)
  /-- The tag of an empty element, as written between `<` and `/>`. -/
  | empty (content : Octets)
  /-- An end tag with the name in it. -/
  | finish (name : Octets)
  /-- A run of text. -/
  | text (octets : Octets)
  /-- Character data, which stands for itself. -/
  | literal (octets : Octets)
  /-- A comment, a processing instruction or a document type. -/
  | other
  deriving DecidableEq, Repr

namespace Markup

/-- The content of a tag and what follows the `>` that ends it. Inside a quoted value `quoted` is
the quote that ends the value. -/
def splitTag (quoted : Option UInt8) : Octets → Octets × Octets
  | [] => ([], [])
  | b :: bs =>
    match quoted with
    | none =>
      if b = gt then ([], bs)
      else
        let (content, rest) := splitTag (if isQuote b then some b else none) bs
        (b :: content, rest)
    | some q =>
      let (content, rest) := splitTag (if b = q then none else some q) bs
      (b :: content, rest)

/-- What stands before and after the first `>`; without one, everything stands before it. -/
def splitGt (bs : Octets) : Octets × Octets :=
  (bs.takeWhile (· != gt), (bs.dropWhile (· != gt)).drop 1)

/-- The name in an end tag: white space after it does not count, unless there is nothing else. -/
def finishName (content : Octets) : Octets :=
  if content.all isSpace then content else trimEnd content

/-- What follows a document type, after its key word. It ends with the `>` before which `<` and
`>` are balanced, `depth` being the excess of `<` so far, and must name something. -/
def skipDoctype (depth : Nat) (named : Bool) : Octets → Option Octets
  | [] => none
  | b :: bs =>
    if b = gt then
      if depth = 0 then if named then some bs else none else skipDoctype (depth - 1) true bs
    else if b = lt then skipDoctype (depth + 1) true bs
    else skipDoctype depth (named || !isSpace b) bs

/-- The letters `--`, which open a comment after `<!`. -/
def commentOpen : Octets := [0x2D, 0x2D]

/-- The octets `-->`, which end a comment. -/
def commentClose : Octets := [0x2D, 0x2D, 0x3E]

/-- The octets `[CDATA[`, which open character data after `<!`. -/
def literalOpen : Octets := [0x5B, 0x43, 0x44, 0x41, 0x54, 0x41, 0x5B]

/-- The octets `]]>`, which end character data. -/
def literalClose : Octets := [0x5D, 0x5D, 0x3E]

/-- The letters `DOCTYPE`. -/
def doctypeOpen : Octets := [0x44, 0x4F, 0x43, 0x54, 0x59, 0x50, 0x45]

/-- What a scan finds. -/
inductive Scan where
  /-- Nothing more. -/
  | done
  /-- Octets that are no markup. -/
  | fault
  /-- A piece, and what follows it. -/
  | piece (markup : Markup) (rest : Octets)

/-- The piece after `<!`: a comment, character data or a document type. -/
def scanDeclaration (bs : Octets) : Scan :=
  match afterPrefix? commentOpen bs with
  | some content =>
    match splitAt? commentClose content with
    | some (_, rest) => .piece .other rest
    | none => .fault
  | none =>
    match afterPrefixUncased? literalOpen bs with
    | some content =>
      match splitAt? literalClose content with
      | some (octets, rest) => .piece (.literal octets) rest
      | none => .fault
    | none =>
      match afterPrefixUncased? doctypeOpen bs with
      | some content =>
        match skipDoctype 0 false content with
        | some rest => .piece .other rest
        | none => .fault
      | none => .fault

/-- The piece after `<?`: it ends in a second `?`, and something stands between the two. -/
def scanInstruction (bs : Octets) : Scan :=
  let (content, rest) := splitGt bs
  if 2 ≤ content.length ∧ content.getLast? = some question then .piece .other rest else .fault

/-- The start tag or empty element after `<`. -/
def scanTag (bs : Octets) : Scan :=
  let (content, rest) := splitTag none bs
  -- The slash counts also after a value without quotes or a space.
  if content.getLast? = some slash then .piece (.empty content.dropLast) rest
  else .piece (.start content) rest

/-- The piece after `<`. -/
def scanBracket : Octets → Scan
  | [] => .done
  | b :: bs =>
    if b = bang then scanDeclaration bs
    else if b = question then scanInstruction bs
    else if b = slash then
      let (content, rest) := splitGt bs
      .piece (.finish (finishName content)) rest
    else scanTag (b :: bs)

/-- The first piece and what follows it. -/
def scan (input : Octets) : Scan :=
  match input.dropWhile isSpace with
  | [] => .done
  | b :: bs =>
    if b = lt then scanBracket bs
    else .piece (.text (trimEnd (b :: bs.takeWhile (· != lt)))) (bs.dropWhile (· != lt))

/-! ## What follows a piece is shorter -/

theorem length_splitTag (quoted : Option UInt8) (bs : Octets) :
    (splitTag quoted bs).2.length ≤ bs.length := by
  induction bs generalizing quoted with
  | nil => simp [splitTag]
  | cons b bs ih =>
    cases quoted with
    | none =>
      rw [splitTag]
      split
      · simp
      · have := ih (if isQuote b then some b else none)
        simp only [List.length_cons]
        omega
    | some q =>
      rw [splitTag]
      have := ih (if b = q then none else some q)
      simp only [List.length_cons]
      omega

theorem length_dropWhile_le (p : UInt8 → Bool) (bs : Octets) :
    (bs.dropWhile p).length ≤ bs.length :=
  (List.dropWhile_sublist p).length_le

theorem length_splitGt (bs : Octets) : (splitGt bs).2.length ≤ bs.length := by
  have := length_dropWhile_le (· != gt) bs
  simp only [splitGt, List.length_drop]
  omega

theorem length_skipDoctype {depth : Nat} {named : Bool} {bs rest : Octets}
    (h : skipDoctype depth named bs = some rest) : rest.length ≤ bs.length := by
  induction bs generalizing depth named with
  | nil => simp [skipDoctype] at h
  | cons b bs ih =>
    rw [skipDoctype] at h
    simp only [List.length_cons]
    split at h
    · split at h
      · split at h
        · cases h
          omega
        · cases h
      · have := ih h
        omega
    · split at h
      · have := ih h
        omega
      · have := ih h
        omega

theorem length_of_scanDeclaration {bs : Octets} {m : Markup} {rest : Octets}
    (h : scanDeclaration bs = .piece m rest) : rest.length ≤ bs.length := by
  rw [scanDeclaration] at h
  split at h
  · next content hc =>
    have := length_afterPrefix? hc
    split at h
    · next before r hr =>
      have := length_splitAt? hr
      cases h
      omega
    · cases h
  · split at h
    · next content hc =>
      have := length_afterPrefixUncased? hc
      split at h
      · next before r hr =>
        have := length_splitAt? hr
        cases h
        omega
      · cases h
    · split at h
      · next content hc =>
        have := length_afterPrefixUncased? hc
        split at h
        · next r hr =>
          have := length_skipDoctype hr
          cases h
          omega
        · cases h
      · cases h

theorem length_of_scanInstruction {bs : Octets} {m : Markup} {rest : Octets}
    (h : scanInstruction bs = .piece m rest) : rest.length ≤ bs.length := by
  have := length_splitGt bs
  rw [scanInstruction] at h
  simp only at h
  split at h
  · cases h
    exact this
  · cases h

theorem length_of_scanTag {bs : Octets} {m : Markup} {rest : Octets}
    (h : scanTag bs = .piece m rest) : rest.length ≤ bs.length := by
  have := length_splitTag none bs
  rw [scanTag] at h
  simp only at h
  split at h
  · cases h
    exact this
  · cases h
    exact this

theorem length_of_scanBracket {bs : Octets} {m : Markup} {rest : Octets}
    (h : scanBracket bs = .piece m rest) : rest.length ≤ bs.length := by
  cases bs with
  | nil => simp [scanBracket] at h
  | cons b bs =>
    rw [scanBracket] at h
    split at h
    · have := length_of_scanDeclaration h
      simp only [List.length_cons]
      omega
    · split at h
      · have := length_of_scanInstruction h
        simp only [List.length_cons]
        omega
      · split at h
        · have := length_splitGt bs
          simp only [Scan.piece.injEq] at h
          rw [← h.2, List.length_cons]
          omega
        · exact length_of_scanTag h

/-- What follows a piece is shorter than the octets it was found in. -/
theorem length_of_scan {input : Octets} {m : Markup} {rest : Octets}
    (h : scan input = .piece m rest) : rest.length < input.length := by
  have hd := length_dropWhile_le isSpace input
  rw [scan] at h
  split at h
  · cases h
  · next b bs hbs =>
    rw [hbs, List.length_cons] at hd
    split at h
    · have := length_of_scanBracket h
      omega
    · have := length_dropWhile_le (· != lt) bs
      cases h
      omega

/-- The pieces of a document in order, and whether they reach its end: otherwise octets that are
no markup follow them. -/
def pieces (input : Octets) : List Markup × Bool :=
  match _h : scan input with
  | .done => ([], true)
  | .fault => ([], false)
  | .piece m rest =>
    let (ms, complete) := pieces rest
    (m :: ms, complete)
termination_by input.length
decreasing_by exact length_of_scan _h

end Markup

end SchemaBinding.Xml
