import Mathlib.Data.List.TakeWhile
import SchemaBinding.Proofs.Xml.Written

/-!
# Written tags

A tag that is written is found as a whole: it ends with its `>`, as there is none in names and in
escaped values. Its attributes are read back with the values that they were written for, and so the
tag gives the element that it stands for.

## Main results

* `splitTag_written`: where a tag ends
* `RawAttribute.scan_written`, `Tag.attributes_written`: the attributes in it
* `ofTag_written`: the element that it begins
-/

namespace SchemaBinding.Xml

open SchemaBinding.Text (Octets)
open Octet (lt gt slash bang question equals quote apostrophe isSpace isQuote)

/-! ## Octets of names and white space -/

/-- An octet that is an ASCII character is in the encoding only if that character is in the text. -/
theorem not_mem_encode {s : String} {b : UInt8} (hb : b.toNat < 0x80)
    (h : Char.ofNat b.toNat ∉ s.toList) : b ∉ Text.encode s :=
  fun hmem => h (Text.mem_toList_of_mem_encode hb hmem)

/-- Blanks are written in octets that are blank. -/
theorem IsSpaces.forall_isSpace {s : String} (h : IsSpaces s) :
    ∀ b ∈ Text.encode s, isSpace b = true := by
  have hspaces : (spaces.all fun c => (String.utf8EncodeChar c).all isSpace) = true := by decide
  simp only [List.all_eq_true] at hspaces
  intro b hb
  rw [Text.encode_eq] at hb
  obtain ⟨c, hc, hbc⟩ := List.mem_flatMap.mp hb
  exact hspaces c (h c hc) b hbc

/-- White space is one of four octets. -/
theorem eq_of_isSpace {b : UInt8} (h : isSpace b = true) :
    b = 0x20 ∨ b = 0x09 ∨ b = 0x0D ∨ b = 0x0A := by
  simpa [isSpace, or_assoc] using h

/-- The octets that are in no name. -/
def reserved : Octets := [0x20, 0x09, 0x0D, 0x0A, lt, gt, slash, equals, quote, apostrophe]

/-- Blanks are reserved. -/
theorem mem_reserved_of_isSpace {b : UInt8} (h : isSpace b = true) : b ∈ reserved := by
  rcases eq_of_isSpace h with rfl | rfl | rfl | rfl <;> decide

theorem mem_reserved_of_isQuote {b : UInt8} (h : isQuote b = true) : b ∈ reserved := by
  unfold isQuote at h
  simp only [Bool.or_eq_true, beq_iff_eq] at h
  rcases h with rfl | rfl
  all_goals decide

/-- A name is written without reserved octets. -/
theorem IsName.not_mem_reserved {s : String} (h : IsName s) {b : UInt8}
    (hb : b ∈ Text.encode s) : b ∉ reserved := by
  have hreserved : (reserved.all fun b => b.toNat < 0x80 ∧
      Char.ofNat b.toNat ∈ spaces ++ ['<', '>', '/', '=', '"', '\'']) = true := by decide
  simp only [List.all_eq_true, decide_eq_true_eq] at hreserved
  intro hmem
  obtain ⟨hascii, hchar⟩ := hreserved b hmem
  exact not_mem_encode hascii (fun hc => h.not_mem _ hc hchar) hb

/-- A name begins with an octet of its own. -/
theorem IsName.encode_eq_cons {s : String} (h : IsName s) :
    ∃ b bs, Text.encode s = b :: bs ∧ ∀ d ∈ b :: bs, d ∉ reserved := by
  cases hs : Text.encode s with
  | nil => exact absurd hs (Text.encode_ne_nil h.ne_empty)
  | cons b bs => exact ⟨b, bs, rfl, fun d hd => h.not_mem_reserved (hs ▸ hd)⟩

/-- White space neither ends a tag nor opens a value. -/
theorem plain_of_isSpace {b : UInt8} (h : isSpace b = true) : b ≠ gt ∧ isQuote b = false := by
  rcases eq_of_isSpace h with rfl | rfl | rfl | rfl <;> decide

/-- The quotes around a value are one octet each, which is not in the value. -/
theorem encode_quote {q : String} (h : q ∈ ["\"", "'"]) :
    ∃ b, Text.encode q = [b] ∧ isQuote b = true ∧ ∀ s, b ∉ Text.encode (escape s) := by
  have hquotes : ∀ q ∈ ["\"", "'"], q = "\"" ∨ q = "'" := by decide
  rcases hquotes q h with rfl | rfl
  · exact ⟨quote, by decide, by decide,
      fun s => not_mem_encode (by decide) (not_mem_escape (by decide) s)⟩
  · exact ⟨apostrophe, by decide, by decide,
      fun s => not_mem_encode (by decide) (not_mem_escape (by decide) s)⟩

/-- Octets of a kind are told apart from what follows them. -/
theorem span_append {p : UInt8 → Bool} {xs ys : Octets} (hxs : ∀ b ∈ xs, p b = true)
    (hys : ∀ b ∈ ys.head?, p b = false) :
    (xs ++ ys).takeWhile p = xs ∧ (xs ++ ys).dropWhile p = ys := by
  rw [List.takeWhile_append_of_pos hxs, List.dropWhile_append_of_pos hxs]
  cases ys with
  | nil => exact ⟨List.append_nil xs, rfl⟩
  | cons b ys =>
    have hb : p b = false := hys b rfl
    rw [List.takeWhile_cons_of_neg (by rw [hb]; exact Bool.false_ne_true),
      List.dropWhile_cons_of_neg (by rw [hb]; exact Bool.false_ne_true)]
    exact ⟨List.append_nil xs, rfl⟩

/-! ## Where a tag ends -/

namespace Markup

/-- A tag does not end where there is neither a quote nor a closing bracket. -/
theorem splitTag_plain {xs : Octets} (h : ∀ b ∈ xs, b ≠ gt ∧ isQuote b = false) (ys : Octets) :
    splitTag none (xs ++ ys) = (xs ++ (splitTag none ys).1, (splitTag none ys).2) := by
  induction xs with
  | nil => rfl
  | cons b xs ih =>
    obtain ⟨hgt, hquote⟩ := h b List.mem_cons_self
    rw [List.cons_append, splitTag, if_neg hgt, hquote, if_neg Bool.false_ne_true,
      ih fun d hd => h d (List.mem_cons_of_mem _ hd)]
    rfl

/-- A tag does not end between quotes. -/
theorem splitTag_quoted {q : UInt8} {xs : Octets} (h : q ∉ xs) (ys : Octets) :
    splitTag (some q) (xs ++ q :: ys) = (xs ++ q :: (splitTag none ys).1, (splitTag none ys).2) := by
  induction xs with
  | nil =>
    rw [List.nil_append, splitTag, if_pos rfl]
    rfl
  | cons b xs ih =>
    have hb : b ≠ q := fun heq => h (heq ▸ List.mem_cons_self)
    rw [List.cons_append, splitTag, if_neg hb, ih fun hq => h (List.mem_cons_of_mem _ hq)]
    rfl

/-- Octets that neither end a tag nor open a value. -/
def IsPlain (xs : Octets) : Prop := ∀ b ∈ xs, b ≠ gt ∧ isQuote b = false

theorem IsPlain.append {xs ys : Octets} (hxs : IsPlain xs) (hys : IsPlain ys) :
    IsPlain (xs ++ ys) :=
  fun b hb => (List.mem_append.mp hb).elim (hxs b) (hys b)

theorem isPlain_spaces {s : String} (h : IsSpaces s) : IsPlain (Text.encode s) :=
  fun b hb => plain_of_isSpace (h.forall_isSpace b hb)

theorem isPlain_name {s : String} (h : IsName s) : IsPlain (Text.encode s) := by
  intro b hb
  have hreserved := h.not_mem_reserved hb
  refine ⟨?_, Bool.eq_false_iff.mpr fun hq => hreserved (mem_reserved_of_isQuote hq)⟩
  rintro rfl
  exact hreserved (by decide)

/-- Up to the quote that opens its value, an attribute is plain. -/
theorem isPlain_key {before name beforeEquals afterEquals : String} (hbefore : IsSpaces before)
    (hname : IsName name) (hbeforeEquals : IsSpaces beforeEquals)
    (hafterEquals : IsSpaces afterEquals) :
    IsPlain (Text.encode (before ++ name ++ beforeEquals ++ "=" ++ afterEquals)) := by
  have hequals : IsPlain (Text.encode "=") := by
    have hall : ((Text.encode "=").all fun b => b ≠ gt ∧ isQuote b = false) = true := by decide
    simpa only [IsPlain, List.all_eq_true, decide_eq_true_eq] using hall
  simp only [Text.encode_append]
  exact ((((isPlain_spaces hbefore).append (isPlain_name hname)).append
    (isPlain_spaces hbeforeEquals)).append hequals).append (isPlain_spaces hafterEquals)

/-- A tag does not end within its attributes. -/
theorem splitTag_attributes {attributes : List (String × String)} {inTag : String}
    (h : WritesAttributes attributes inTag) (ys : Octets) :
    splitTag none (Text.encode inTag ++ ys) =
      (Text.encode inTag ++ (splitTag none ys).1, (splitTag none ys).2) := by
  induction h with
  | nil hafter => exact splitTag_plain (isPlain_spaces hafter) ys
  | @cons before beforeEquals afterEquals q name value written attributes _ hbefore hname
      hbeforeEquals hafterEquals hq _ ih =>
    have hkey := isPlain_key hbefore hname hbeforeEquals hafterEquals
    obtain ⟨b, hencode, hquote, hvalue⟩ := encode_quote hq
    have hgt : b ≠ gt := by
      rintro rfl
      exact absurd hquote (by decide)
    have hvalue := splitTag_quoted (hvalue value) (Text.encode written ++ ys)
    have hquoted : splitTag none (b :: (Text.encode (escape value) ++
        b :: (Text.encode written ++ ys))) =
        (b :: (Text.encode (escape value) ++ b :: (Text.encode written ++ (splitTag none ys).1)),
          (splitTag none ys).2) := by
      rw [splitTag, if_neg hgt, hquote, if_pos rfl, hvalue, ih]
    have happend : ∀ zs, Text.encode (before ++ name ++ beforeEquals ++ "=" ++ afterEquals ++ q ++
        escape value ++ q ++ written) ++ zs =
        Text.encode (before ++ name ++ beforeEquals ++ "=" ++ afterEquals) ++
          (b :: (Text.encode (escape value) ++ b :: (Text.encode written ++ zs))) := by
      intro zs
      simp only [Text.encode_append, hencode, List.append_assoc, List.cons_append, List.nil_append]
    rw [happend, happend, splitTag_plain hkey, hquoted]

/-- A tag ends where it has been written to the end. -/
theorem splitTag_written {name inTag : String} {attributes : List (String × String)}
    (hname : IsName name) (h : WritesAttributes attributes inTag) (rest : Octets) :
    splitTag none (Text.encode (name ++ inTag) ++ gt :: rest) =
      (Text.encode (name ++ inTag), rest) := by
  have hgt : splitTag none (gt :: rest) = ([], rest) := by rw [splitTag, if_pos rfl]
  rw [Text.encode_append, List.append_assoc, splitTag_plain (isPlain_name hname),
    splitTag_attributes h, hgt, List.append_nil]

/-- A slash before the end belongs to the tag. -/
theorem splitTag_written_slash {name inTag : String} {attributes : List (String × String)}
    (hname : IsName name) (h : WritesAttributes attributes inTag) (rest : Octets) :
    splitTag none (Text.encode (name ++ inTag) ++ slash :: gt :: rest) =
      (Text.encode (name ++ inTag) ++ [slash], rest) := by
  have hquote : isQuote slash = false := by decide
  have hgt : splitTag none (slash :: gt :: rest) = ([slash], rest) := by
    rw [splitTag, if_neg (by decide), hquote, if_neg Bool.false_ne_true, splitTag, if_pos rfl]
  rw [Text.encode_append, List.append_assoc, splitTag_plain (isPlain_name hname),
    splitTag_attributes h, hgt, List.append_assoc]

/-- No tag ends in a slash unless one is written at its end. -/
theorem getLast?_written {name inTag : String} {attributes : List (String × String)}
    (hname : IsName name) (h : WritesAttributes attributes inTag) :
    (Text.encode (name ++ inTag)).getLast? ≠ some slash := by
  have hspaces : ∀ {s : String}, IsSpaces s → (Text.encode s).getLast? ≠ some slash := by
    intro s hs hlast
    exact absurd (hs.forall_isSpace _ (List.mem_of_getLast? hlast)) (by decide)
  have hinTag : (Text.encode inTag).getLast? ≠ some slash := by
    induction h with
    | nil hafter => exact hspaces hafter
    | @cons _ _ _ q _ _ written _ _ _ _ _ _ hq _ ih =>
      obtain ⟨b, hencode, hquote, -⟩ := encode_quote hq
      rw [Text.encode_append, Text.encode_append, List.getLast?_append, List.getLast?_append,
        hencode]
      cases hlast : (Text.encode written).getLast? with
      | some d => exact fun heq => ih (hlast.trans heq)
      | none =>
        intro heq
        obtain rfl : b = slash := Option.some.inj heq
        exact absurd hquote (by decide)
  rw [Text.encode_append, List.getLast?_append]
  cases hlast : (Text.encode inTag).getLast? with
  | some d => exact fun heq => hinTag (hlast.trans heq)
  | none =>
    intro heq
    exact hname.not_mem_reserved (List.mem_of_getLast? heq) (by decide)

end Markup

/-! ## Attributes -/

/-- An attribute as it is found in a tag. -/
def RawAttribute.ofWritten (attr : String × String) : RawAttribute :=
  ⟨Text.encode attr.1, Text.encode (escape attr.2)⟩

namespace RawAttribute

/-- A value is scanned from quote to quote. -/
theorem scanValue_written {b : UInt8} {afterEquals value : Octets}
    (hspaces : ∀ d ∈ afterEquals, isSpace d = true) (hquote : isQuote b = true) (hvalue : b ∉ value)
    (rest : Octets) :
    scanValue (afterEquals ++ b :: (value ++ b :: rest)) = some (value, rest) := by
  have hstart : ∀ d ∈ (b :: (value ++ b :: rest)).head?, isSpace d = false := by
    rintro _ ⟨⟩
    refine Bool.eq_false_iff.mpr fun hspace => ?_
    rw [(plain_of_isSpace hspace).2] at hquote
    cases hquote
  have hcontent : ∀ d ∈ value, (d != b) = true :=
    fun d hd => bne_iff_ne.mpr fun heq => hvalue (heq ▸ hd)
  have hend : ∀ d ∈ (b :: rest).head?, (d != b) = false := by
    rintro _ ⟨⟩
    exact bne_self_eq_false b
  obtain ⟨htake, hdrop⟩ := span_append hcontent hend
  unfold scanValue
  rw [(span_append hspaces hstart).2]
  dsimp only
  rw [if_pos hquote, hdrop, htake]

/-- The first attribute in a tag is the one that is written first. -/
theorem scan_written {before name beforeEquals afterEquals q : String} (hbefore : IsSpaces before)
    (hname : IsName name) (hbeforeEquals : IsSpaces beforeEquals)
    (hafterEquals : IsSpaces afterEquals) (hq : q ∈ ["\"", "'"]) (value written : String) :
    scan (Text.encode (before ++ name ++ beforeEquals ++ "=" ++ afterEquals ++ q ++ escape value ++
      q ++ written)) = .found (ofWritten (name, value)) (Text.encode written) := by
  obtain ⟨b, hencode, hquote, hvalue⟩ := encode_quote hq
  obtain ⟨n, ns, hcons, hplain⟩ := hname.encode_eq_cons
  have hequals : Text.encode "=" = [equals] := by decide
  let rest : Octets := Text.encode afterEquals ++
    b :: (Text.encode (escape value) ++ b :: Text.encode written)
  have hinput : Text.encode (before ++ name ++ beforeEquals ++ "=" ++ afterEquals ++ q ++
      escape value ++ q ++ written) =
      Text.encode before ++ n :: (ns ++ (Text.encode beforeEquals ++ equals :: rest)) := by
    simp only [Text.encode_append, hcons, hequals, hencode, List.append_assoc, List.cons_append,
      List.nil_append, rest]
  have hstart : ∀ d ∈ (n :: (ns ++ (Text.encode beforeEquals ++ equals :: rest))).head?,
      isSpace d = false := by
    rintro _ ⟨⟩
    exact Bool.eq_false_iff.mpr fun hspace =>
      hplain n List.mem_cons_self (mem_reserved_of_isSpace hspace)
  have hkey : ∀ d ∈ ns, isKey d = true := by
    intro d hd
    have hreserved := hplain d (List.mem_cons_of_mem _ hd)
    unfold isKey
    rw [Bool.and_eq_true, bne_iff_ne, Bool.not_eq_true']
    refine ⟨?_, Bool.eq_false_iff.mpr fun hspace => hreserved (mem_reserved_of_isSpace hspace)⟩
    rintro rfl
    exact hreserved (by decide)
  have hstop : ∀ d ∈ (Text.encode beforeEquals ++ equals :: rest).head?, isKey d = false := by
    intro d hd
    cases hs : Text.encode beforeEquals with
    | nil =>
      rw [hs] at hd
      cases hd
      decide
    | cons c cs =>
      rw [hs] at hd
      obtain rfl : c = d := Option.some.inj hd
      unfold isKey
      rw [hbeforeEquals.forall_isSpace c (hs ▸ List.mem_cons_self), Bool.not_true, Bool.and_false]
  have hvalueStart : ∀ d ∈ (equals :: rest).head?, isSpace d = false := by
    rintro _ ⟨⟩
    decide
  obtain ⟨htake, hdrop⟩ := span_append hkey hstop
  unfold scan
  rw [hinput, (span_append hbefore.forall_isSpace hstart).2]
  dsimp only
  rw [hdrop, (span_append hbeforeEquals.forall_isSpace hvalueStart).2]
  dsimp only
  rw [if_pos rfl, scanValue_written hafterEquals.forall_isSpace hquote (hvalue value), htake]
  unfold ofWritten
  rw [hcons]

/-- There is no attribute in blanks. -/
theorem scan_spaces {s : String} (h : IsSpaces s) : scan (Text.encode s) = .done := by
  unfold scan
  rw [List.dropWhile_eq_nil_iff.mpr fun b hb => h.forall_isSpace b hb]

/-- All attributes of a tag are scanned, none of them twice. -/
theorem allAfter_written {attributes : List (String × String)} {inTag : String}
    (h : WritesAttributes attributes inTag) (hnodup : (attributes.map Prod.fst).Nodup)
    {seen : List Octets} (hseen : ∀ a ∈ attributes, Text.encode a.1 ∉ seen) :
    allAfter seen (Text.encode inTag) = (attributes.map ofWritten, true) := by
  induction h generalizing seen with
  | nil hafter =>
    rw [allAfter]
    split
    · rfl
    · next hscan => rw [scan_spaces hafter] at hscan; cases hscan
    · next hscan => rw [scan_spaces hafter] at hscan; cases hscan
  | @cons _ _ _ _ name value _ attributes _ hbefore hname hbeforeEquals hafterEquals hq _ ih =>
    have hscanned := scan_written hbefore hname hbeforeEquals hafterEquals hq value
    obtain ⟨hnew, hnodup⟩ := List.nodup_cons.mp hnodup
    rw [allAfter]
    split
    · next hscan => rw [hscanned] at hscan; cases hscan
    · next hscan => rw [hscanned] at hscan; cases hscan
    · next a rest hscan =>
      rw [hscanned] at hscan
      cases hscan
      have hkey : (ofWritten (name, value)).key ∉ seen := hseen _ List.mem_cons_self
      have hseen' : ∀ a ∈ attributes, Text.encode a.1 ∉ (ofWritten (name, value)).key :: seen := by
        intro a ha hmem
        rcases List.mem_cons.mp hmem with heq | hmem
        · exact hnew (Text.encode_inj.mp heq ▸ List.mem_map_of_mem ha)
        · exact hseen a (List.mem_cons_of_mem _ ha) hmem
      rw [if_neg hkey, ih hnodup hseen']
      rfl

end RawAttribute

namespace Tag

variable {name inTag : String} {attributes : List (String × String)}

theorem head?_written (h : WritesAttributes attributes inTag) :
    ∀ b ∈ (Text.encode inTag).head?, isSpace b = true := by
  intro b hb
  cases h with
  | nil hafter => exact hafter.forall_isSpace b (List.mem_of_mem_head? hb)
  | @cons before _ _ _ _ _ _ _ hne hbefore =>
    cases hs : Text.encode before with
    | nil => exact absurd hs (Text.encode_ne_nil hne)
    | cons c cs =>
      simp only [Text.encode_append, hs, List.cons_append] at hb
      obtain rfl : c = b := Option.some.inj hb
      exact hbefore.forall_isSpace c (hs ▸ List.mem_cons_self)

/-- A name ends with white space or with the tag. -/
theorem span_written (hname : IsName name) (h : WritesAttributes attributes inTag) :
    (Text.encode (name ++ inTag)).takeWhile (fun b => !isSpace b) = Text.encode name ∧
      (Text.encode (name ++ inTag)).dropWhile (fun b => !isSpace b) = Text.encode inTag := by
  rw [Text.encode_append]
  refine span_append (fun b hb => ?_) fun b hb => ?_
  · rw [Bool.not_eq_true']
    exact Bool.eq_false_iff.mpr fun hspace =>
      hname.not_mem_reserved hb (mem_reserved_of_isSpace hspace)
  · rw [head?_written h b hb, Bool.not_true]

/-- The name of a tag is scanned up to the first attribute. -/
theorem name_written (hname : IsName name) (h : WritesAttributes attributes inTag) :
    Tag.name (Text.encode (name ++ inTag)) = Text.encode name :=
  (span_written hname h).1

/-- The attributes in a tag are those that have been written, and the tag has nothing else. -/
theorem attributes_written (hname : IsName name) (h : WritesAttributes attributes inTag)
    (hnodup : (attributes.map Prod.fst).Nodup) :
    Tag.attributes (Text.encode (name ++ inTag)) =
      (attributes.map RawAttribute.ofWritten, true) := by
  unfold Tag.attributes RawAttribute.all
  rw [(span_written hname h).2]
  exact RawAttribute.allAfter_written h hnodup nofun

end Tag

/-! ## Elements -/

/-- An attribute is read as it was before it was written. -/
theorem foldlM_feed (attributes : List (String × String)) (read : TagReading) :
    (attributes.map RawAttribute.ofWritten).foldlM TagReading.feed read =
      .ok (attributes.foldl (fun read a => read.take a.1 a.2) read) := by
  induction attributes generalizing read with
  | nil => rfl
  | cons a attributes ih =>
    have hfeed : read.feed (.ofWritten a) = .ok (read.take a.1 a.2) := by
      unfold TagReading.feed RawAttribute.ofWritten
      rw [Text.decode?_encode]
      dsimp only
      rw [readText?_escape]
    rw [List.map_cons, List.foldlM_cons, hfeed, List.foldl_cons]
    exact ih _

/-- **A tag gives the element that it stands for.** -/
theorem ofTag_written {name inTag : String} {attributes : List (String × String)}
    {scopes : Scopes} (hname : IsName name) (h : WritesAttributes attributes inTag)
    (hscopes : ∀ as ∈ attributes :: scopes, (as.map Prod.fst).Nodup) :
    Element.ofTag (contextOf scopes) (Text.encode (name ++ inTag)) =
      RawElement.resolveTag scopes name attributes := by
  have hread := Tag.attributes_written hname h (hscopes attributes List.mem_cons_self)
  rw [Element.ofTag_eq, hread, foldlM_feed]
  exact ofReading_eq_resolveTag hscopes (Tag.name_written hname h)

end SchemaBinding.Xml
