import Mathlib.Data.List.DropRight
import SchemaBinding.Proofs.Xml.WrittenTags

/-!
# Reading written elements

What is written is read back: a document in which an element is written gives that element with its
names resolved, or the first prefix that is bound nowhere.

## Main definitions

* `Reading.readOn`: the document when the rest of the octets has been read

## Main results

* `Markup.scan_startTag`, `Markup.scan_endTag`, `Markup.scan_text`: pieces of a written document
* `Reading.readOn_written`: elements that follow each other
* `Document.parse_written`: a document
-/

namespace SchemaBinding.Xml

open SchemaBinding.Text (Octets)
open Octet (lt gt slash bang question isSpace)

/-! ## Pieces of a written document -/

namespace Markup

/-- The pieces depend on what is found first. -/
theorem pieces_eq (input : Octets) :
    pieces input =
      match scan input with
      | .done => ([], true)
      | .fault => ([], false)
      | .piece m rest => (m :: (pieces rest).1, (pieces rest).2) := by
  rw [pieces]
  split
  all_goals
    next hscan => rw [hscan]

/-- A document is scanned piece by piece. -/
theorem pieces_of_scan {input rest : Octets} {m : Markup} (h : scan input = .piece m rest) :
    pieces input = (m :: (pieces rest).1, (pieces rest).2) := by
  rw [pieces_eq, h]

theorem pieces_congr {input input' : Octets} (h : scan input = scan input') :
    pieces input = pieces input' := by
  rw [pieces_eq, h, ← pieces_eq]

/-- Blanks in front of a piece are skipped. -/
theorem scan_dropWhile (input : Octets) : scan (input.dropWhile isSpace) = scan input := by
  unfold scan
  rw [List.dropWhile_idempotent]

theorem scan_lt (bs : Octets) : scan (lt :: bs) = scanBracket bs := by
  unfold scan
  rw [List.dropWhile_cons_of_neg (by decide)]
  exact if_pos rfl

/-- A tag ends at the first closing bracket. -/
theorem splitGt_append {content : Octets} (h : gt ∉ content) (rest : Octets) :
    splitGt (content ++ gt :: rest) = (content, rest) := by
  have hcontent : ∀ b ∈ content, (b != gt) = true :=
    fun b hb => bne_iff_ne.mpr fun heq => h (heq ▸ hb)
  have hend : ∀ b ∈ (gt :: rest).head?, (b != gt) = false := by
    rintro _ ⟨⟩
    decide
  obtain ⟨htake, hdrop⟩ := span_append hcontent hend
  unfold splitGt
  rw [htake, hdrop]
  rfl

/-- A comment does not end at three octets the last of which is no closing bracket. -/
theorem afterPrefix?_commentClose (b b' b'' : UInt8) (bs : Octets) (h : b'' ≠ gt) :
    afterPrefix? commentClose (b :: b' :: b'' :: bs) = none := by
  have hne : ¬ (0x3E : UInt8) = b'' := fun heq => h heq.symm
  unfold afterPrefix? commentClose
  simp only [afterPrefixBy?, id_eq]
  rw [if_neg hne, ite_self, ite_self]

/-- A comment without `>` in it ends where it has been written to the end. -/
theorem splitAt?_commentClose {content : Octets} (h : gt ∉ content) (rest : Octets) :
    splitAt? commentClose (content ++ (commentClose ++ rest)) = some (content, rest) := by
  induction content with
  | nil => rfl
  | cons b content ih =>
    have hcontent : gt ∉ content := fun hmem => h (List.mem_cons_of_mem _ hmem)
    have hnone : afterPrefix? commentClose (b :: (content ++ (commentClose ++ rest))) = none := by
      match content with
      | [] => exact afterPrefix?_commentClose _ _ _ _ (by decide)
      | [c] => exact afterPrefix?_commentClose _ _ _ _ (by decide)
      | c :: d :: content =>
        refine afterPrefix?_commentClose _ _ _ _ ?_
        rintro rfl
        exact hcontent (List.mem_cons_of_mem _ List.mem_cons_self)
    rw [List.cons_append, splitAt?, hnone]
    dsimp only
    rw [ih hcontent]
    rfl

/-- A comment is a piece that says nothing. -/
theorem scan_comment {content : String} (h : '>' ∉ content.toList) (rest : Octets) :
    scan (Text.encode ("<!--" ++ content ++ "-->") ++ rest) = .piece .other rest := by
  have hopen : Text.encode "<!--" = [lt, bang, 0x2D, 0x2D] := by decide
  have hclose : Text.encode "-->" = commentClose := by decide
  have hgt : gt ∉ Text.encode content := not_mem_encode (by decide) h
  have hsplit := splitAt?_commentClose hgt rest
  rw [Text.encode_append, Text.encode_append, hopen, hclose, List.append_assoc, List.append_assoc]
  show scan (lt :: bang :: 0x2D :: 0x2D :: (Text.encode content ++ (commentClose ++ rest))) = _
  rw [scan_lt, scanBracket, if_pos rfl]
  have hbody : afterPrefix? commentOpen
      (0x2D :: 0x2D :: (Text.encode content ++ (commentClose ++ rest))) =
      some (Text.encode content ++ (commentClose ++ rest)) := rfl
  unfold scanDeclaration
  rw [hbody]
  dsimp only
  rw [hsplit]

/-- A processing instruction is a piece that says nothing. -/
theorem scan_instruction {content : String} (hne : content ≠ "") (h : '>' ∉ content.toList)
    (rest : Octets) : scan (Text.encode ("<?" ++ content ++ "?>") ++ rest) = .piece .other rest := by
  have hopen : Text.encode "<?" = [lt, question] := by decide
  have hclose : Text.encode "?>" = [question, gt] := by decide
  have hgt : gt ∉ Text.encode content ++ [question] := by
    rw [List.mem_append, not_or]
    exact ⟨not_mem_encode (by decide) h, by decide⟩
  have hlength := List.length_pos_iff.mpr (Text.encode_ne_nil hne)
  have hsplit := splitGt_append hgt rest
  rw [List.append_assoc] at hsplit
  rw [Text.encode_append, Text.encode_append, hopen, hclose, List.append_assoc, List.append_assoc]
  show scan (lt :: question :: (Text.encode content ++ ([question] ++ gt :: rest))) = _
  rw [scan_lt, scanBracket, if_neg (by decide), if_pos rfl]
  unfold scanInstruction
  rw [hsplit]
  dsimp only
  rw [if_pos]
  rw [List.length_append, List.getLast?_concat]
  exact ⟨Nat.succ_le_succ hlength, rfl⟩

/-- A tag is told apart from other markup by how its name begins. -/
theorem scan_tag {name inTag : String} (hname : IsTagName name) (rest : Octets) :
    scan (lt :: (Text.encode (name ++ inTag) ++ rest)) =
      scanTag (Text.encode (name ++ inTag) ++ rest) := by
  obtain ⟨b, bs, hcons, hplain⟩ := hname.encode_eq_cons
  have hhead : (Text.encode name).head? = some b := by rw [hcons, List.head?_cons]
  have hbang : b ≠ bang := by
    rintro rfl
    exact hname.head '!' (by decide) (Text.head?_toList_of_encode (by decide) hhead)
  have hquestion : b ≠ question := by
    rintro rfl
    exact hname.head '?' (by decide) (Text.head?_toList_of_encode (by decide) hhead)
  have hslash : b ≠ slash := by
    rintro rfl
    exact hplain slash List.mem_cons_self (by decide)
  rw [scan_lt, Text.encode_append, hcons, List.cons_append, List.cons_append, scanBracket,
    if_neg hbang, if_neg hquestion, if_neg hslash]

section Tags

variable {name inTag : String} {attributes : List (String × String)}

/-- A start tag is scanned as its name with its attributes. -/
theorem scan_startTag (hname : IsTagName name) (h : WritesAttributes attributes inTag)
    (rest : Octets) :
    scan (Text.encode ("<" ++ (name ++ inTag) ++ ">") ++ rest) =
      .piece (.start (Text.encode (name ++ inTag))) rest := by
  have hopen : Text.encode "<" = [lt] := by decide
  have hclose : Text.encode ">" = [gt] := by decide
  rw [Text.encode_append, Text.encode_append "<", hopen, hclose, List.append_assoc,
    List.append_assoc]
  refine (scan_tag hname _).trans ?_
  unfold scanTag
  rw [List.singleton_append, splitTag_written hname.toIsName h]
  exact if_neg (getLast?_written hname.toIsName h)

theorem scan_emptyTag (hname : IsTagName name) (h : WritesAttributes attributes inTag)
    (rest : Octets) :
    scan (Text.encode ("<" ++ (name ++ inTag) ++ "/>") ++ rest) =
      .piece (.empty (Text.encode (name ++ inTag))) rest := by
  have hopen : Text.encode "<" = [lt] := by decide
  have hclose : Text.encode "/>" = [slash, gt] := by decide
  rw [Text.encode_append, Text.encode_append "<", hopen, hclose, List.append_assoc,
    List.append_assoc]
  refine (scan_tag hname _).trans ?_
  unfold scanTag
  rw [List.cons_append, List.singleton_append, splitTag_written_slash hname.toIsName h]
  dsimp only
  rw [List.getLast?_concat, if_pos rfl, List.dropLast_concat]

/-- White space at the end is cut off. -/
theorem trimEnd_append {xs ys : Octets} (hxs : ∀ b ∈ xs.getLast?, isSpace b = false)
    (hys : ∀ b ∈ ys, isSpace b = true) : trimEnd (xs ++ ys) = xs := by
  have hreverse : ∀ b ∈ ys.reverse, isSpace b = true := fun b hb => hys b (List.mem_reverse.mp hb)
  have hhead : ∀ b ∈ xs.reverse.head?, isSpace b = false := by rwa [List.head?_reverse]
  unfold trimEnd
  rw [List.reverse_append, (span_append hreverse hhead).2, List.reverse_reverse]

/-- An end tag is scanned as its name, with the blanks behind it. -/
theorem scan_endTag {closing : String} (hname : IsName name) (hclosing : IsSpaces closing)
    (rest : Octets) :
    scan (Text.encode ("</" ++ (name ++ closing) ++ ">") ++ rest) =
      .piece (.finish (Text.encode name)) rest := by
  have hopen : Text.encode "</" = [lt, slash] := by decide
  have hclose : Text.encode ">" = [gt] := by decide
  have hnotSpace : ∀ b ∈ Text.encode name, isSpace b = false := fun b hb =>
    Bool.eq_false_iff.mpr fun hspace => hname.not_mem_reserved hb (mem_reserved_of_isSpace hspace)
  have hgt : gt ∉ Text.encode (name ++ closing) := by
    rw [Text.encode_append, List.mem_append, not_or]
    exact ⟨fun hmem => hname.not_mem_reserved hmem (by decide),
      fun hmem => (plain_of_isSpace (hclosing.forall_isSpace _ hmem)).1 rfl⟩
  have hfinish : finishName (Text.encode (name ++ closing)) = Text.encode name := by
    obtain ⟨b, bs, hcons, -⟩ := hname.encode_eq_cons
    have hb : isSpace b = false := hnotSpace b (hcons ▸ List.mem_cons_self)
    unfold finishName
    rw [Text.encode_append, if_neg, trimEnd_append _ hclosing.forall_isSpace]
    · exact fun b hb => hnotSpace b (List.mem_of_getLast? hb)
    · rw [hcons, List.cons_append, List.all_cons, hb, Bool.false_and]
      exact Bool.false_ne_true
  rw [Text.encode_append, Text.encode_append "</", hopen, hclose, List.append_assoc,
    List.append_assoc]
  show scan (lt :: slash :: (Text.encode (name ++ closing) ++ gt :: rest)) = _
  rw [scan_lt, scanBracket, if_neg (by decide), if_neg (by decide), if_pos rfl,
    splitGt_append hgt]
  dsimp only
  rw [hfinish]

end Tags

theorem mem_spaces_of_isSpace {b : UInt8} (h : isSpace b = true) :
    b.toNat < 0x80 ∧ Char.ofNat b.toNat ∈ spaces := by
  rcases eq_of_isSpace h with rfl | rfl | rfl | rfl <;> decide

/-- A text that is not empty is not written as nothing. -/
theorem encode_escape_ne_nil {text : String} (h : IsText text) :
    Text.encode (escape text) ≠ [] := by
  intro hnil
  have hread := readText?_escape text
  rw [hnil] at hread
  obtain rfl : "" = text := Option.some.inj hread
  exact absurd h.not_blank (by decide)

/-- A text that counts has no white space at its ends as it is written. -/
theorem isSpace_ends {text : String} (h : IsText text) :
    (∀ b ∈ (Text.encode (escape text)).head?, isSpace b = false) ∧
      ∀ b ∈ (Text.encode (escape text)).getLast?, isSpace b = false := by
  have hspaces : ∀ c ∈ spaces, c ≠ '&' ∧ c ≠ ';' := by simp [spaces]
  refine ⟨fun b hb => Bool.eq_false_iff.mpr fun hspace => ?_,
    fun b hb => Bool.eq_false_iff.mpr fun hspace => ?_⟩
  · obtain ⟨hascii, hc⟩ := mem_spaces_of_isSpace hspace
    exact h.head _ hc
      (head?_toList_escape (hspaces _ hc).1 (Text.head?_toList_of_encode hascii hb))
  · obtain ⟨hascii, hc⟩ := mem_spaces_of_isSpace hspace
    exact h.last _ hc
      (getLast?_toList_escape (hspaces _ hc).2 (Text.getLast?_toList_of_encode hascii hb))

/-- A text ends with the next tag. White space before that is not part of it. -/
theorem scan_text {text : String} (h : IsText text) {rest more : Octets}
    (hrest : rest.dropWhile isSpace = lt :: more) :
    scan (Text.encode (escape text) ++ rest) =
      .piece (.text (Text.encode (escape text))) (rest.dropWhile isSpace) := by
  obtain ⟨hhead, hlast⟩ := isSpace_ends h
  have hlt : lt ∉ Text.encode (escape text) := not_mem_encode (by decide) (not_mem_escape (by decide) _)
  have hspaces : ∀ b ∈ rest.takeWhile isSpace, isSpace b = true := fun b => List.mem_takeWhile_imp
  have hsplit : rest = rest.takeWhile isSpace ++ lt :: more := by
    rw [← hrest, List.takeWhile_append_dropWhile]
  cases hs : Text.encode (escape text) with
  | nil => exact absurd hs (encode_escape_ne_nil h)
  | cons b bs =>
    rw [hs] at hhead hlast hlt
    have hb : isSpace b = false := hhead b rfl
    obtain ⟨hne, hbs⟩ := not_or.mp (mt List.mem_cons.mpr hlt)
    have hcontent : ∀ d ∈ bs ++ rest.takeWhile isSpace, (d != lt) = true := by
      intro d hd
      rw [bne_iff_ne]
      rintro rfl
      rcases List.mem_append.mp hd with hd | hd
      · exact hbs hd
      · exact absurd (hspaces _ hd) (by decide)
    have hend : ∀ d ∈ (lt :: more).head?, (d != lt) = false := by
      rintro _ ⟨⟩
      decide
    obtain ⟨htake, hdrop⟩ := span_append hcontent hend
    rw [List.append_assoc, ← hsplit] at htake hdrop
    unfold scan
    rw [List.cons_append, List.dropWhile_cons_of_neg (by rw [hb]; exact Bool.false_ne_true)]
    dsimp only
    rw [if_neg fun heq => hne heq.symm, htake, hdrop, ← List.cons_append,
      trimEnd_append hlast hspaces, hrest]

end Markup

/-! ## Reading on -/

namespace Reading

/-- The document that is read when the rest of the octets has been taken in. -/
def readOn (limits : Limits) (r : Reading) (input : Octets) : Result Document :=
  (Markup.pieces input).1.foldlM (Reading.feed limits) r >>=
    Document.ofReading (Markup.pieces input).2

variable {limits : Limits} {r : Reading}

/-- One piece is read, and then the rest of the document. -/
theorem readOn_of_scan {input rest : Octets} {m : Markup} (h : Markup.scan input = .piece m rest) :
    r.readOn limits input = r.feed limits m >>= fun r => r.readOn limits rest := by
  unfold readOn
  rw [Markup.pieces_of_scan h, List.foldlM_cons]
  cases r.feed limits m <;> rfl

theorem readOn_congr {input input' : Octets} (h : Markup.scan input = Markup.scan input') :
    r.readOn limits input = r.readOn limits input' := by
  unfold readOn
  rw [Markup.pieces_congr h]

theorem readOn_nil : r.readOn limits [] = Document.ofReading true r := by
  unfold readOn
  rw [Markup.pieces_eq]
  rfl

/-- Blanks in front of a document make no difference to its reading. -/
theorem readOn_dropWhile (input : Octets) :
    r.readOn limits (input.dropWhile isSpace) = r.readOn limits input :=
  readOn_congr (Markup.scan_dropWhile input)

/-- White space, comments and instructions make no difference. -/
theorem readOn_filler {filler : String} (h : IsFiller filler) (rest : Octets) :
    r.readOn limits (Text.encode filler ++ rest) = r.readOn limits rest := by
  induction h with
  | none => rfl
  | space hspaces _ ih =>
    rw [Text.encode_append, List.append_assoc, ← readOn_dropWhile,
      List.dropWhile_append_of_pos hspaces.forall_isSpace, readOn_dropWhile, ih]
  | comment hcontent _ ih =>
    rw [Text.encode_append, List.append_assoc, readOn_of_scan (Markup.scan_comment hcontent _)]
    exact ih
  | instruction hne hcontent _ ih =>
    rw [Text.encode_append, List.append_assoc,
      readOn_of_scan (Markup.scan_instruction hne hcontent _)]
    exact ih

/-- A tag follows some filler when white space has been passed over: its own, or that of a comment
or an instruction. -/
theorem dropWhile_filler {filler : String} (h : IsFiller filler) (rest : Octets) :
    ∃ more, (Text.encode filler ++ lt :: rest).dropWhile isSpace = lt :: more := by
  induction h with
  | none => exact ⟨rest, List.dropWhile_cons_of_neg (by decide)⟩
  | space hspaces _ ih =>
    obtain ⟨more, hmore⟩ := ih
    refine ⟨more, ?_⟩
    rw [Text.encode_append, List.append_assoc,
      List.dropWhile_append_of_pos hspaces.forall_isSpace, hmore]
  | @comment content filler _ _ _ =>
    have hopen : Text.encode "<!--" = [lt, bang, 0x2D, 0x2D] := by decide
    refine ⟨[bang, 0x2D, 0x2D] ++ (Text.encode content ++ (Text.encode "-->" ++
      (Text.encode filler ++ lt :: rest))), ?_⟩
    simp only [Text.encode_append, hopen, List.append_assoc]
    exact List.dropWhile_cons_of_neg (by decide)
  | @instruction content filler _ _ _ _ =>
    have hopen : Text.encode "<?" = [lt, question] := by decide
    refine ⟨[question] ++ (Text.encode content ++ (Text.encode "?>" ++
      (Text.encode filler ++ lt :: rest))), ?_⟩
    simp only [Text.encode_append, hopen, List.append_assoc]
    exact List.dropWhile_cons_of_neg (by decide)

/-- A tag begins the element that it stands for, if it is not nested too deep. -/
theorem begin_written {name inTag : String} {attributes : List (String × String)} {scopes : Scopes}
    (hname : IsName name) (h : WritesAttributes attributes inTag)
    (hscopes : ∀ as ∈ attributes :: scopes, (as.map Prod.fst).Nodup)
    (hcontext : r.context = contextOf scopes) (hdepth : r.stack.length + 1 ≤ limits.xmlDepth) :
    r.begin limits (Text.encode (name ++ inTag)) = RawElement.resolveTag scopes name attributes := by
  have hcheck : limits.check .xmlDepth (r.stack.length + 1) = .ok () :=
    Limits.check_eq_ok_iff.mpr hdepth
  unfold Reading.begin
  rw [hcheck, hcontext]
  exact ofTag_written hname h hscopes

/-- An element that has just begun has no text, and its own declarations are in force in it. -/
theorem of_resolveTag {name : String} {attributes : List (String × String)} {scopes : Scopes}
    {e : Element} (h : RawElement.resolveTag scopes name attributes = .ok e) :
    e.text = none ∧ e.children = [] ∧ e.namespaces = contextOf (attributes :: scopes) := by
  unfold RawElement.resolveTag at h
  obtain ⟨qualified, -, h⟩ := bind_eq_ok_iff.mp h
  obtain ⟨resolved, -, h⟩ := bind_eq_ok_iff.mp h
  cases h
  exact ⟨rfl, rfl, rfl⟩

/-- Text is that of the innermost open element. -/
theorem readOn_text {words : String} {text : Option String} (h : WritesText text words)
    {tag : Octets} {e : Element} {children : Array Element} {es : List OpenElement}
    (hstack : r.stack = ⟨tag, e, children⟩ :: es) (htext : e.text = none) {rest : Octets}
    (hrest : ∃ more, rest.dropWhile isSpace = lt :: more) :
    r.readOn limits (Text.encode words ++ rest) =
      readOn limits { r with stack := ⟨tag, { e with text }, children⟩ :: es } rest := by
  obtain ⟨stack, root⟩ := r
  subst hstack
  cases h with
  | none =>
    have hempty : Text.encode "" = [] := by decide
    rw [hempty, List.nil_append, ← htext]
    cases e
    rfl
  | @some filler text hfiller h =>
    obtain ⟨more, hmore⟩ := hrest
    have happend : e.appendText text = { e with text := some text } := by
      unfold Element.appendText
      rw [if_neg (by rw [h.not_blank]; exact Bool.false_ne_true), htext, Option.getD_none,
        String.empty_append]
    rw [Text.encode_append, List.append_assoc, readOn_filler hfiller,
      readOn_of_scan (Markup.scan_text h hmore), Reading.feed, readText?_escape]
    show readOn limits (addText _ text) _ = _
    unfold addText
    dsimp only
    rw [happend, readOn_dropWhile]

/-- Elements that are added to an open one are its children, in order. -/
theorem foldl_addElement {tag : Octets} {e : Element} (children : Array Element)
    {es : List OpenElement} {root : Option Element} (added : List Element) :
    added.foldl addElement ⟨⟨tag, e, children⟩ :: es, root⟩ =
      ⟨⟨tag, e, children ++ added⟩ :: es, root⟩ := by
  induction added generalizing children with
  | nil => rfl
  | cons a added ih =>
    rw [List.foldl_cons, Array.appendList_cons]
    exact ih (children.push a)

/-- An end tag closes the innermost open element, which is of the same name. -/
theorem readOn_endTag {name closing : String} (hname : IsName name) (hclosing : IsSpaces closing)
    {e : Element} {children : Array Element} {es : List OpenElement} {root : Option Element}
    (rest : Octets) :
    readOn limits ⟨⟨Text.encode name, e, children⟩ :: es, root⟩
        (Text.encode ("</" ++ (name ++ closing) ++ ">") ++ rest) =
      readOn limits (addElement ⟨es, root⟩ { e with children := children.toList }) rest := by
  rw [readOn_of_scan (Markup.scan_endTag hname hclosing _), Reading.feed]
  dsimp only
  rw [if_pos rfl]
  rfl

/-- Before the next tag there is nothing but white space, or there is a comment or an instruction.
-/
theorem dropWhile_written {es : List RawElement} {written : String} (h : Writes es written)
    (rest : Octets) :
    ∃ more, (Text.encode written ++ lt :: rest).dropWhile isSpace = lt :: more := by
  have hopen : Text.encode "<" = [lt] := by decide
  cases h with
  | none hfiller => exact dropWhile_filler hfiller rest
  | element hfiller | empty hfiller =>
    simp only [Text.encode_append, hopen, List.append_assoc, List.singleton_append]
    exact dropWhile_filler hfiller _

/-- The context inside elements that are added is that of the place where they are added. -/
theorem context_addElement (r : Reading) (e : Element) :
    (r.addElement e).context = r.context ∧ (r.addElement e).stack.length = r.stack.length := by
  obtain ⟨stack, root⟩ := r
  cases stack with
  | nil => exact ⟨rfl, rfl⟩
  | cons p ps => exact ⟨rfl, rfl⟩

/-- An element is read with its children, if they are. -/
theorem readOn_element {name inTag words content closing : String}
    {attributes : List (String × String)} {text : Option String} {children : List RawElement}
    {scopes : Scopes} (hname : IsTagName name) (hinTag : WritesAttributes attributes inTag)
    (hwords : WritesText text words) (hcontent : Writes children content)
    (hclosing : IsSpaces closing)
    (hscopes : ∀ as ∈ attributes :: scopes, (as.map Prod.fst).Nodup)
    (hcontext : r.context = contextOf scopes) (hdepth : r.stack.length + 1 ≤ limits.xmlDepth)
    (hchildren : ∀ inside : Reading, inside.context = contextOf (attributes :: scopes) →
      inside.stack.length = r.stack.length + 1 → ∀ rest,
      inside.readOn limits (Text.encode content ++ rest) =
        RawElement.resolve.resolveAll (attributes :: scopes) children >>= fun added =>
          readOn limits (added.foldl addElement inside) rest) (rest : Octets) :
    r.readOn limits (Text.encode ("<" ++ (name ++ inTag) ++ ">") ++ (Text.encode words ++
        (Text.encode content ++ (Text.encode ("</" ++ (name ++ closing) ++ ">") ++ rest)))) =
      RawElement.resolve scopes ⟨name, attributes, text, children⟩ >>= fun e =>
        readOn limits (r.addElement e) rest := by
  rw [readOn_of_scan (Markup.scan_startTag hname hinTag _), Reading.feed,
    begin_written hname.toIsName hinTag hscopes hcontext hdepth,
    Tag.name_written hname.toIsName hinTag, RawElement.resolve]
  cases hres : RawElement.resolveTag scopes name attributes with
  | error fault => rfl
  | ok e =>
    obtain ⟨htext, -, hnamespaces⟩ := of_resolveTag hres
    let inside : Reading := { r with stack := ⟨Text.encode name, { e with text }, #[]⟩ :: r.stack }
    have hinside : inside.context = contextOf (attributes :: scopes) := hnamespaces
    -- The text ends with the next tag, that of a child or the end tag.
    have hahead : ∃ more, (Text.encode content ++ (Text.encode ("</" ++ (name ++ closing) ++ ">") ++
        rest)).dropWhile isSpace = lt :: more := by
      have hopen : Text.encode "</" = [lt, slash] := by decide
      simp only [Text.encode_append, hopen, List.append_assoc, List.cons_append]
      exact dropWhile_written hcontent _
    show readOn limits { r with stack := ⟨Text.encode name, e, #[]⟩ :: r.stack } _ = _
    rw [readOn_text hwords rfl htext hahead]
    show inside.readOn limits _ = _
    rw [hchildren inside hinside rfl]
    cases RawElement.resolve.resolveAll (attributes :: scopes) children with
    | error fault => rfl
    | ok added =>
      show readOn limits (added.foldl addElement inside) _ = _
      have hadded : ((#[] : Array Element) ++ added).toList = added := by simp
      rw [foldl_addElement, readOn_endTag hname.toIsName hclosing, hadded]
      rfl

/-- An element without text and children is read from one tag. -/
theorem readOn_emptyTag {name inTag : String} {attributes : List (String × String)}
    {scopes : Scopes} (hname : IsTagName name) (hinTag : WritesAttributes attributes inTag)
    (hscopes : ∀ as ∈ attributes :: scopes, (as.map Prod.fst).Nodup)
    (hcontext : r.context = contextOf scopes) (hdepth : r.stack.length + 1 ≤ limits.xmlDepth)
    (rest : Octets) :
    r.readOn limits (Text.encode ("<" ++ (name ++ inTag) ++ "/>") ++ rest) =
      RawElement.resolve scopes ⟨name, attributes, none, []⟩ >>= fun e =>
        readOn limits (r.addElement e) rest := by
  rw [readOn_of_scan (Markup.scan_emptyTag hname hinTag _), Reading.feed,
    begin_written hname.toIsName hinTag hscopes hcontext hdepth, RawElement.resolve]
  cases hres : RawElement.resolveTag scopes name attributes with
  | error fault => rfl
  | ok e =>
    obtain ⟨htext, hchildren, -⟩ := of_resolveTag hres
    have he : { e with text := none, children := [] } = e := by
      rw [← htext, ← hchildren]
      cases e
      rfl
    show readOn limits (r.addElement e) rest =
      readOn limits (r.addElement { e with text := none, children := [] }) rest
    rw [he]

/-- What follows an element is read after it. -/
theorem readOn_cons {scopes : Scopes} (hcontext : r.context = contextOf scopes) {e : RawElement}
    {es : List RawElement} {input next rest : Octets}
    (h : r.readOn limits input =
      e.resolve scopes >>= fun resolved => readOn limits (r.addElement resolved) next)
    (hnext : ∀ r' : Reading, r'.context = contextOf scopes → r'.stack.length = r.stack.length →
      r'.readOn limits next = RawElement.resolve.resolveAll scopes es >>= fun added =>
        readOn limits (added.foldl addElement r') rest) :
    r.readOn limits input = RawElement.resolve.resolveAll scopes (e :: es) >>= fun added =>
      readOn limits (added.foldl addElement r) rest := by
  rw [h, RawElement.resolve.resolveAll]
  cases e.resolve scopes with
  | error fault => rfl
  | ok resolved =>
    obtain ⟨hcontext', hlength⟩ := context_addElement r resolved
    show readOn limits (r.addElement resolved) _ = _
    rw [hnext _ (hcontext'.trans hcontext) hlength]
    cases RawElement.resolve.resolveAll scopes es <;> rfl

/-- **Elements that are written one after the other are read one after the other.** By induction on
how they are written. Declarations inside an element are in force in its children, and not in what
follows it. -/
theorem readOn_written {es : List RawElement} {written : String} (h : Writes es written)
    {scopes : Scopes} (hscopes : ∀ as ∈ scopes, (as.map Prod.fst).Nodup) {r : Reading}
    (hcontext : r.context = contextOf scopes)
    (hdepth : r.stack.length + RawElement.height.heights es ≤ limits.xmlDepth) (rest : Octets) :
    r.readOn limits (Text.encode written ++ rest) =
      RawElement.resolve.resolveAll scopes es >>= fun added =>
        readOn limits (added.foldl addElement r) rest := by
  induction h generalizing scopes r rest with
  | none hfiller => exact readOn_filler hfiller rest
  | @element filler name inTag words content closing written attributes text children es hfiller
      hname hnodup hinTag hwords hcontent hclosing _ ihChildren ihNext =>
    have hsplit : Text.encode (filler ++ ("<" ++ (name ++ inTag) ++ ">") ++ words ++ content ++
        ("</" ++ (name ++ closing) ++ ">") ++ written) ++ rest =
        Text.encode filler ++ (Text.encode ("<" ++ (name ++ inTag) ++ ">") ++
          (Text.encode words ++ (Text.encode content ++
            (Text.encode ("</" ++ (name ++ closing) ++ ">") ++ (Text.encode written ++ rest))))) := by
      simp only [Text.encode_append, List.append_assoc]
    -- The children are read with the declarations of the element, what follows without them.
    have hinner : ∀ as ∈ attributes :: scopes, (as.map Prod.fst).Nodup :=
      List.forall_mem_cons.mpr ⟨hnodup, hscopes⟩
    rw [RawElement.height.heights, RawElement.height] at hdepth
    rw [hsplit, readOn_filler hfiller]
    refine readOn_cons hcontext ?_ fun r' hcontext' hlength =>
      ihNext hscopes hcontext' (by omega) rest
    exact readOn_element hname hinTag hwords hcontent hclosing hinner hcontext (by omega)
      (fun inside hinside hlength rest => ihChildren hinner hinside (by omega) rest) _
  | @empty filler name inTag written attributes es hfiller hname hnodup hinTag _ ihNext =>
    have hinner : ∀ as ∈ attributes :: scopes, (as.map Prod.fst).Nodup :=
      List.forall_mem_cons.mpr ⟨hnodup, hscopes⟩
    rw [RawElement.height.heights, RawElement.height] at hdepth
    rw [Text.encode_append, Text.encode_append filler, List.append_assoc, List.append_assoc,
      readOn_filler hfiller]
    refine readOn_cons hcontext ?_ fun r' hcontext' hlength =>
      ihNext hscopes hcontext' (by omega) rest
    exact readOn_emptyTag hname hinTag hinner hcontext (by omega) _

end Reading

/-! ## Documents -/

namespace Document

/-- There is no byte order mark in front of a tag and white space before it. -/
theorem skipByteOrderMark_of_dropWhile {octets more : Octets}
    (h : octets.dropWhile isSpace = lt :: more) : skipByteOrderMark octets = octets := by
  cases octets with
  | nil => cases h
  | cons b bs =>
    have hb : ¬ (0xEF : UInt8) = b := by
      rintro rfl
      rw [List.dropWhile_cons_of_neg (by decide)] at h
      cases h
    unfold skipByteOrderMark afterPrefix? byteOrderMark afterPrefixBy?
    rw [id, if_neg hb, Option.getD_none]

/-- A document that is written has no byte order mark. -/
theorem skipByteOrderMark_written {e : RawElement} {text : String} (h : Writes [e] text) :
    skipByteOrderMark (Text.encode text) = Text.encode text := by
  have hopen : Text.encode "<" = [lt] := by decide
  have hahead : ∃ more, (Text.encode text).dropWhile isSpace = lt :: more := by
    cases h with
    | element hfiller | empty hfiller =>
      simp only [Text.encode_append, hopen, List.append_assoc, List.singleton_append]
      exact Reading.dropWhile_filler hfiller _
  obtain ⟨more, hmore⟩ := hahead
  exact skipByteOrderMark_of_dropWhile hmore

/-- **What is written is read back.** However an element is written with all that is in it, and
whatever white space, comments and instructions stand between its tags: if it is not nested deeper
than the limit, the document gives the element with the same texts, children and attributes, each
name resolved by the nearest declaration of its prefix, or else the first prefix that is bound
nowhere. -/
theorem parse_written {e : RawElement} {text : String} (h : Writes [e] text) {limits : Limits}
    (hdepth : e.height ≤ limits.xmlDepth) :
    parse limits (Text.encode text) = (e.resolve []).map fun root => ⟨some root⟩ := by
  have hheights : Reading.start.stack.length + RawElement.height.heights [e] ≤ limits.xmlDepth := by
    rw [RawElement.height.heights, RawElement.height.heights, Nat.max_zero]
    exact (Nat.zero_add _).trans_le hdepth
  have hscopes : ∀ as ∈ ([] : Scopes), (as.map Prod.fst).Nodup := nofun
  have hread := Reading.readOn_written h hscopes rfl hheights []
  rw [List.append_nil] at hread
  rw [parse_eq, skipByteOrderMark_written h]
  refine hread.trans ?_
  rw [RawElement.resolve.resolveAll, RawElement.resolve.resolveAll]
  cases e.resolve [] with
  | error fault => rfl
  | ok root => exact Reading.readOn_nil

/-! ## An element with two children -/

/-- An element with a declaration behind an attribute that needs it, and a child that declares the
prefix anew. -/
def familyElement : RawElement where
  name := "p:a"
  attributes := [("xmlns", "u"), ("p:k", "1 < 2"), ("xmlns:p", "v")]
  text := some "x & y"
  children := [⟨"b", [], none, []⟩, ⟨"p:c", [("xmlns:p", "w")], none, []⟩]

/-- One way to write it. -/
def familyText : String :=
  "<?xml version=\"1.0\"?>\n<p:a xmlns=\"u\" p:k='1 &lt; 2' xmlns:p=\"v\">\n  x &amp; y" ++
    "<!-- c -->\n  <b/>\n  <p:c xmlns:p = \"w\"></p:c >\n</p:a>\n"

theorem writes_family : Writes [familyElement] familyText := by
  have ha : IsTagName "p:a" := by decide
  have hb : IsTagName "b" := by decide
  have hc : IsTagName "p:c" := by decide
  have hxmlns : IsName "xmlns" := by decide
  have hk : IsName "p:k" := by decide
  have hp : IsName "xmlns:p" := by decide
  have hnone : WritesAttributes [] "" := .nil (by decide)
  have hinner : WritesAttributes [("xmlns:p", "w")]
      (" " ++ "xmlns:p" ++ " " ++ "=" ++ " " ++ "\"" ++ escape "w" ++ "\"" ++ "") :=
    .cons (by decide) (by decide) hp (by decide) (by decide) (by decide) hnone
  have hlast : WritesAttributes [("xmlns:p", "v")]
      (" " ++ "xmlns:p" ++ "" ++ "=" ++ "" ++ "\"" ++ escape "v" ++ "\"" ++ "") :=
    .cons (by decide) (by decide) hp (by decide) (by decide) (by decide) hnone
  have hsecond : WritesAttributes [("p:k", "1 < 2"), ("xmlns:p", "v")]
      (" " ++ "p:k" ++ "" ++ "=" ++ "" ++ "'" ++ escape "1 < 2" ++ "'" ++ _) :=
    .cons (by decide) (by decide) hk (by decide) (by decide) (by decide) hlast
  have houter : WritesAttributes [("xmlns", "u"), ("p:k", "1 < 2"), ("xmlns:p", "v")]
      (" " ++ "xmlns" ++ "" ++ "=" ++ "" ++ "\"" ++ escape "u" ++ "\"" ++ _) :=
    .cons (by decide) (by decide) hxmlns (by decide) (by decide) (by decide) hsecond
  have hline : IsFiller ("\n" ++ "") := .space (by decide) .none
  have hindent : IsFiller ("\n  " ++ "") := .space (by decide) .none
  have hcomment : IsFiller ("<!--" ++ " c " ++ "-->" ++ _) := .comment (by decide) hindent
  have hprolog : IsFiller ("<?" ++ "xml version=\"1.0\"" ++ "?>" ++ _) :=
    .instruction (by decide) (by decide) hline
  have htext : WritesText (some "x & y") (_ ++ escape "x & y") :=
    .some hindent (by decide)
  have hlastChild : Writes [⟨"p:c", [("xmlns:p", "w")], none, []⟩] (_ ++ ("<" ++ ("p:c" ++ _) ++
      ">") ++ "" ++ "" ++ ("</" ++ ("p:c" ++ " ") ++ ">") ++ _) :=
    .element hindent hc (by decide) hinner .none (.none .none) (by decide) (.none hline)
  have hchildren : Writes [⟨"b", [], none, []⟩, ⟨"p:c", [("xmlns:p", "w")], none, []⟩]
      (_ ++ ("<" ++ ("b" ++ "") ++ "/>") ++ _) :=
    .empty hcomment hb (by decide) hnone hlastChild
  have hwritten : Writes [familyElement] (_ ++ ("<" ++ ("p:a" ++ _) ++ ">") ++ _ ++ _ ++
      ("</" ++ ("p:a" ++ "") ++ ">") ++ _) :=
    .element hprolog ha (by decide) houter htext hchildren (by decide) (.none hline)
  refine cast (congrArg (Writes [familyElement]) ?_) hwritten
  decide +kernel

/-- What a document holds, as far as it can be compared. -/
def outline (document : Document) :
    Option (QName × List (QName × String) × Option String × List QName) :=
  document.root.map fun e => (e.name, e.attributes, e.text, e.children.map Element.name)

/-- The element has the namespace of the later declaration, and so has its attribute; of its
children, one is in the default namespace, and the other in that of its own declaration. -/
theorem parse_written_family :
    (parse .standard (Text.encode familyText)).toOption.bind outline =
      some (⟨some "v", "a"⟩, [(⟨some "v", "k"⟩, "1 < 2")], some "x & y",
        [⟨some "u", "b"⟩, ⟨some "w", "c"⟩]) := by
  rw [parse_written writes_family (by decide)]
  decide +kernel

end Document

end SchemaBinding.Xml
