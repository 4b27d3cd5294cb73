import SchemaBinding.Proofs.Outcome
import SchemaBinding.Xml.Document

/-!
# Nesting

Of the limits, a document is read with the one on the nesting of elements. That limit bounds the
height of what is read, and does nothing else: with a greater one the same document is read, or the
same fault is found. No document is nested deeper than it has octets.

## Main definitions

* `Error.IsExcess`: the errors of exceeded limits
* `Tightens`: a result with a tighter limit
* `Reading.Nested`: what has been read is nested within a bound

## Main results

* `Reading.tightens_feed`, `Reading.Nested.feed`: one piece of a document
* `Markup.length_pieces`: a document has no more pieces than octets
* `Document.parse_nesting`: all pieces
-/

namespace SchemaBinding

/-- An error that says that a limit is exceeded. -/
def Error.IsExcess (e : Error) : Prop := ∃ excess, e = .limitExceeded excess

namespace Xml

open SchemaBinding.Text (Octets)

/-! ## Results with a tighter limit -/

/-- With a tighter limit there is the same result, or the limit is exceeded. -/
def Tightens {α : Type} (tight loose : Result α) : Prop :=
  (∃ e : Error, e.IsExcess ∧ tight = .error e) ∨ loose = tight

namespace Tightens

variable {α β : Type}

theorem refl (x : Result α) : Tightens x x := .inr rfl

theorem bind {x x' : Result α} {f f' : α → Result β} (hx : Tightens x x')
    (hf : ∀ a, Tightens (f a) (f' a)) : Tightens (x >>= f) (x' >>= f') := by
  rcases hx with ⟨e, he, rfl⟩ | rfl
  · exact .inl ⟨e, he, rfl⟩
  · cases x' with
    | error e => exact .refl _
    | ok a => exact hf a

theorem foldlM {f f' : β → α → Result β} (hf : ∀ b a, Tightens (f b a) (f' b a)) (as : List α)
    (b : β) : Tightens (as.foldlM f b) (as.foldlM f' b) := by
  induction as generalizing b with
  | nil => exact .refl _
  | cons a as ih =>
    rw [List.foldlM_cons, List.foldlM_cons]
    exact (hf b a).bind ih

end Tightens

/-! ## Heights -/

namespace Element

/-- Children are no higher than a bound if each of them is not. -/
theorem heights_le {bound : Nat} {es : List Element} (h : ∀ e ∈ es, e.height ≤ bound) :
    height.heights es ≤ bound := by
  induction es with
  | nil => exact Nat.zero_le _
  | cons e es ih =>
    rw [height.heights]
    exact Nat.max_le.mpr ⟨h e List.mem_cons_self, ih fun e' he' => h e' (List.mem_cons_of_mem e he')⟩

/-- An element is one higher than its children. -/
theorem height_eq (e : Element) : e.height = height.heights e.children + 1 := by
  cases e
  rw [height]

/-- The element of a tag whose attributes have been read. -/
def ofReading (read : TagReading) (content : Octets) : Result Element :=
  match Text.decode? (Tag.name content) with
  | none => .error (.xml .elementName)
  | some tag => do
    let name ← Result.ofName (read.namespaces.resolve tag)
    read.attributes.foldlM addAttribute ⟨name, [], none, [], read.namespaces⟩

theorem ofTag_eq (context : NamespaceContext) (content : Octets) :
    ofTag context content =
      (Tag.attributes content).1.foldlM TagReading.feed ⟨context, []⟩ >>= fun read =>
        if (Tag.attributes content).2 = true then ofReading read content
        else .error (.xml .malformedAttribute) := by
  unfold ofTag
  refine congrArg (_ >>= ·) (funext fun read => ?_)
  show (if (Tag.attributes content).2 = true then ofReading read content else _) = _
  split <;> rfl

/-- An element that has just begun has no children. -/
theorem children_ofTag {context : NamespaceContext} {content : Octets} {e : Element}
    (h : ofTag context content = .ok e) : e.children = [] := by
  rw [ofTag_eq] at h
  obtain ⟨read, -, h⟩ := bind_eq_ok_iff.mp h
  split at h
  · unfold ofReading at h
    split at h
    · cases h
    · obtain ⟨name, -, h⟩ := bind_eq_ok_iff.mp h
      refine of_foldlM (P := fun e => e.children = []) rfl (fun attr _ e e' he h' => ?_) h
      obtain ⟨_, -, h'⟩ := bind_eq_ok_iff.mp h'
      cases h'
      exact he
  · cases h

/-- An element that has just begun is of height one. -/
theorem height_ofTag {context : NamespaceContext} {content : Octets} {e : Element}
    (h : ofTag context content = .ok e) : e.height = 1 := by
  rw [height_eq, children_ofTag h]
  rfl

end Element

/-! ## What has been read -/

namespace Reading

/-- The open elements are nested within a bound, and so are the children that they have. -/
def StackNested (bound : Nat) : List OpenElement → Prop
  | [] => True
  | e :: es =>
    es.length + 1 ≤ bound ∧ (∀ c ∈ e.children, es.length + 1 + c.height ≤ bound) ∧
      StackNested bound es

/-- All that has been read is nested within a bound. -/
structure Nested (bound : Nat) (r : Reading) : Prop where
  stack : StackNested bound r.stack
  root : ∀ e, r.root = some e → e.height ≤ bound

/-- Nothing is nested at the beginning. -/
theorem nested_start (bound : Nat) : start.Nested bound := ⟨trivial, nofun⟩

variable {limits limits' : Limits} {r r' : Reading} {bound : Nat}

/-- An element is not begun if it would be nested too deep. -/
theorem depth_le_of_begin {content : Octets} {e : Element} (h : r.begin limits content = .ok e) :
    r.stack.length + 1 ≤ limits.xmlDepth ∧ e.height = 1 := by
  obtain ⟨_, hcheck, h⟩ := bind_eq_ok_iff.mp h
  refine ⟨?_, Element.height_ofTag h⟩
  cases hlimit : limits.check .xmlDepth (r.stack.length + 1) with
  | error excess =>
    rw [hlimit] at hcheck
    cases hcheck
  | ok _ => exact Limits.check_eq_ok_iff.mp hlimit

namespace Nested

theorem addText (h : r.Nested bound) (text : String) : (r.addText text).Nested bound := by
  unfold Reading.addText
  split
  · exact h
  · next p ps hstack =>
    obtain ⟨hlength, hchildren, hps⟩ : StackNested bound (p :: ps) := hstack ▸ h.stack
    exact ⟨⟨hlength, hchildren, hps⟩, h.root⟩

theorem addElement (h : r.Nested bound) {e : Element} (he : r.stack.length + e.height ≤ bound) :
    (r.addElement e).Nested bound := by
  unfold Reading.addElement
  split
  · next hstack =>
    rw [hstack] at he
    refine ⟨h.stack, fun root hroot => ?_⟩
    cases hroot
    simpa using he
  · next p ps hstack =>
    obtain ⟨hlength, hchildren, hps⟩ : StackNested bound (p :: ps) := hstack ▸ h.stack
    rw [hstack, List.length_cons] at he
    refine ⟨⟨hlength, fun c hc => ?_, hps⟩, h.root⟩
    rcases Array.mem_push.mp hc with hc | rfl
    · exact hchildren c hc
    · exact he

/-- A piece of a document that is taken in is nested within the limit. -/
theorem feed (h : r.Nested limits.xmlDepth) {m : Markup} (hfeed : r.feed limits m = .ok r') :
    r'.Nested limits.xmlDepth := by
  cases m with
  | start content =>
    obtain ⟨e, hbegin, hfeed⟩ := bind_eq_ok_iff.mp hfeed
    cases hfeed
    obtain ⟨hdepth, -⟩ := depth_le_of_begin hbegin
    exact ⟨⟨hdepth, fun c hc => absurd hc (Array.not_mem_empty c), h.stack⟩, h.root⟩
  | empty content =>
    obtain ⟨e, hbegin, hfeed⟩ := bind_eq_ok_iff.mp hfeed
    cases hfeed
    obtain ⟨hdepth, hheight⟩ := depth_le_of_begin hbegin
    exact h.addElement (hheight ▸ hdepth)
  | finish name =>
    rw [Reading.feed] at hfeed
    split at hfeed
    · cases hfeed
    · next e es hstack =>
      split at hfeed
      · cases hfeed
        obtain ⟨hlength, hchildren, hes⟩ : StackNested _ (e :: es) := hstack ▸ h.stack
        have hrest : Nested limits.xmlDepth { r with stack := es } := ⟨hes, h.root⟩
        refine hrest.addElement ?_
        -- The children of the element are the highest ones below it.
        have hheights : Element.height.heights e.children.toList ≤
            limits.xmlDepth - (es.length + 1) :=
          Element.heights_le fun c hc => by
            have := hchildren c (Array.mem_toList_iff.mp hc)
            omega
        show es.length + (OpenElement.close e).height ≤ _
        rw [Element.height_eq]
        show es.length + (Element.height.heights e.children.toList + 1) ≤ _
        omega
      · cases hfeed
  | text octets =>
    rw [Reading.feed] at hfeed
    split at hfeed
    · cases hfeed
      exact h.addText _
    · cases hfeed
  | literal octets =>
    cases hfeed
    exact h.addText _
  | other =>
    cases hfeed
    exact h

end Nested

/-! ## A greater limit -/

/-- A tag that begins an element is cut off by the tighter limit first. -/
theorem tightens_begin (hlimits : limits.xmlDepth ≤ limits'.xmlDepth) (r : Reading)
    (content : Octets) : Tightens (r.begin limits content) (r.begin limits' content) := by
  refine Tightens.bind ?_ fun _ => .refl _
  unfold Limits.check Result.ofLimit
  split
  · exact .inl ⟨_, ⟨_, rfl⟩, rfl⟩
  · next h =>
    have h' : ¬ limits'.maximum .xmlDepth < r.stack.length + 1 := by
      simp only [Limits.maximum] at h ⊢
      omega
    rw [if_neg h']
    exact .refl _

/-- A piece of a document is taken in as it is with a greater limit. -/
theorem tightens_feed (hlimits : limits.xmlDepth ≤ limits'.xmlDepth) (r : Reading) (m : Markup) :
    Tightens (r.feed limits m) (r.feed limits' m) := by
  cases m with
  | start content => exact (tightens_begin hlimits r content).bind fun _ => .refl _
  | empty content => exact (tightens_begin hlimits r content).bind fun _ => .refl _
  | finish name | text octets | literal octets | other => exact .refl _

end Reading

/-! ## A limit that is not reached -/

/-- What is wrong with the markup is no excess of nesting. -/
theorem not_isExcess_xml (fault : Fault) : ¬ (Error.xml fault).IsExcess := by
  rintro ⟨excess, h⟩
  cases h

theorem not_isExcess_ofName {α : Type} {name : Except String α} {e : Error}
    (h : Result.ofName name = .error e) : ¬ e.IsExcess := by
  cases name with
  | ok a => cases h
  | error nsPrefix =>
    cases h
    rintro ⟨excess, h⟩
    cases h

/-- A tag has no limit by itself. -/
theorem Element.not_isExcess_of_ofTag {context : NamespaceContext} {content : Octets} {e : Error}
    (h : ofTag context content = .error e) : ¬ e.IsExcess := by
  rw [ofTag_eq] at h
  rcases bind_eq_error_iff.mp h with h | ⟨read, -, h⟩
  · refine of_foldlM_eq_error (E := fun e => ¬ e.IsExcess) (fun a _ t e h => ?_) h
    unfold TagReading.feed at h
    split at h
    · cases h
      exact not_isExcess_xml _
    · split at h
      · cases h
        exact not_isExcess_xml _
      · cases h
  · split at h
    · unfold ofReading at h
      split at h
      · cases h
        exact not_isExcess_xml _
      · rcases bind_eq_error_iff.mp h with h | ⟨name, -, h⟩
        · exact not_isExcess_ofName h
        · refine of_foldlM_eq_error (E := fun e => ¬ e.IsExcess) (fun attr _ e f h => ?_) h
          rcases bind_eq_error_iff.mp h with h | ⟨_, -, h⟩
          · exact not_isExcess_ofName h
          · cases h
    · cases h
      exact not_isExcess_xml _

namespace Reading

variable {limits : Limits} {r r' : Reading}

/-- The elements that are open are as many after a child has been added. -/
theorem length_addElement (r : Reading) (e : Element) :
    (r.addElement e).stack.length = r.stack.length := by
  unfold addElement
  split <;> simp [*]

theorem length_addText (r : Reading) (text : String) :
    (r.addText text).stack.length = r.stack.length := by
  unfold addText
  split <;> simp [*]

/-- With a piece at most one more element is open. -/
theorem length_feed {m : Markup} (h : r.feed limits m = .ok r') :
    r'.stack.length ≤ r.stack.length + 1 := by
  cases m with
  | start content =>
    obtain ⟨e, -, h⟩ := bind_eq_ok_iff.mp h
    cases h
    exact Nat.le_refl _
  | empty content =>
    obtain ⟨e, -, h⟩ := bind_eq_ok_iff.mp h
    cases h
    rw [length_addElement]
    omega
  | finish name =>
    rw [feed] at h
    split at h
    · cases h
    · next e es hstack =>
      split at h
      · cases h
        rw [length_addElement, hstack, List.length_cons]
        exact Nat.le_succ_of_le (Nat.le_succ _)
      · cases h
  | text octets =>
    rw [feed] at h
    split at h
    · cases h
      rw [length_addText]
      omega
    · cases h
  | literal octets =>
    cases h
    rw [length_addText]
    omega
  | other =>
    cases h
    exact Nat.le_succ _

/-- Where one more element may be open, no piece exceeds the limit. -/
theorem not_isExcess_of_feed {m : Markup} {e : Error}
    (hdepth : r.stack.length + 1 ≤ limits.xmlDepth) (h : r.feed limits m = .error e) :
    ¬ e.IsExcess := by
  have hcheck : limits.check .xmlDepth (r.stack.length + 1) = .ok () :=
    Limits.check_eq_ok_iff.mpr hdepth
  -- The limit is tested only where an element begins, and there it holds.
  have hbegin : ∀ content, r.begin limits content = Element.ofTag r.context content := by
    intro content
    unfold begin
    rw [hcheck]
    rfl
  cases m with
  | start content | empty content =>
    rw [feed, hbegin] at h
    rcases bind_eq_error_iff.mp h with h | ⟨_, -, h⟩
    · exact Element.not_isExcess_of_ofTag h
    · cases h
  | finish name =>
    rw [feed] at h
    split at h
    · cases h
      exact not_isExcess_xml _
    · split at h
      · cases h
      · cases h
        exact not_isExcess_xml _
  | text octets =>
    rw [feed] at h
    split at h
    · cases h
    · cases h
      exact not_isExcess_xml _
  | literal octets | other => cases h

/-- Where as many more elements may be open as there are pieces, none exceeds the limit. -/
theorem not_isExcess_of_foldlM {ms : List Markup} {e : Error}
    (hdepth : r.stack.length + ms.length ≤ limits.xmlDepth)
    (h : ms.foldlM (feed limits) r = .error e) : ¬ e.IsExcess := by
  induction ms generalizing r with
  | nil => cases h
  | cons m ms ih =>
    rw [List.length_cons] at hdepth
    rw [List.foldlM_cons] at h
    rcases bind_eq_error_iff.mp h with h | ⟨r', hfeed, h⟩
    · exact not_isExcess_of_feed (by omega) h
    · have := length_feed hfeed
      exact ih (by omega) h

end Reading

/-- Each piece takes an octet. -/
theorem Markup.length_pieces (input : Octets) : (pieces input).1.length ≤ input.length := by
  fun_induction pieces input with
  | case1 => exact Nat.zero_le _
  | case2 => exact Nat.zero_le _
  | case3 input m rest h ms complete hpieces ih =>
    have hlength := length_of_scan h
    rw [hpieces] at ih
    exact Nat.le_trans (Nat.succ_le_succ ih) hlength

/-! ## Documents -/

namespace Document

theorem length_skipByteOrderMark (octets : Octets) :
    (skipByteOrderMark octets).length ≤ octets.length := by
  unfold skipByteOrderMark
  cases h : afterPrefix? byteOrderMark octets with
  | none => exact Nat.le_refl _
  | some rest =>
    have := length_afterPrefix? h
    simp only [Option.getD_some]
    omega

/-- What is read when all pieces have been taken in. -/
def ofReading (complete : Bool) (read : Reading) : Result Document :=
  if complete = true then read.finish.map Document.mk else .error (.xml .markup)

theorem parse_eq (limits : Limits) (octets : Octets) :
    parse limits octets =
      (Markup.pieces (skipByteOrderMark octets)).1.foldlM (Reading.feed limits) .start >>=
        ofReading (Markup.pieces (skipByteOrderMark octets)).2 := by
  unfold parse
  refine congrArg (_ >>= ·) (funext fun read => ?_)
  unfold ofReading
  cases (Markup.pieces (skipByteOrderMark octets)).2 with
  | false => rfl
  | true => cases read.finish <;> rfl

/-- What is read with a limit is nested within it. -/
theorem height_le_of_parse {limits : Limits} {octets : Octets} {document : Document}
    {root : Element} (h : parse limits octets = .ok document) (hroot : document.root = some root) :
    root.height ≤ limits.xmlDepth := by
  rw [parse_eq] at h
  obtain ⟨read, hread, h⟩ := bind_eq_ok_iff.mp h
  have hnested : read.Nested limits.xmlDepth :=
    of_foldlM (P := Reading.Nested limits.xmlDepth) (Reading.nested_start _)
      (fun _ _ _ _ hr hfeed => hr.feed hfeed) hread
  unfold ofReading Reading.finish at h
  split at h
  · split at h
    · cases h
      exact hnested.root root hroot
    · cases h
  · cases h

/-- A document with no more octets than levels cannot be nested too deep. -/
theorem not_isExcess_of_parse {limits : Limits} {octets : Octets} {e : Error}
    (hlength : octets.length ≤ limits.xmlDepth) (h : parse limits octets = .error e) :
    ¬ e.IsExcess := by
  rw [parse_eq] at h
  rcases bind_eq_error_iff.mp h with h | ⟨read, -, h⟩
  · have hpieces := Markup.length_pieces (skipByteOrderMark octets)
    have hskip := length_skipByteOrderMark octets
    refine Reading.not_isExcess_of_foldlM ?_ h
    simp only [Reading.start, List.length_nil]
    omega
  · -- After the last piece the limit is not looked at any more.
    unfold ofReading Reading.finish at h
    split at h
    · split at h
      · cases h
      · cases h
        exact not_isExcess_xml _
    · cases h
      exact not_isExcess_xml _

/-- **The limit on nesting.** What is read with a limit is nested within it; with a greater limit
there is the same document, or the same fault unless the limit is exceeded. A limit that is not
below the number of octets is never exceeded. -/
theorem parse_nesting (octets : Octets) :
    (∀ limits limits' : Limits, limits.xmlDepth ≤ limits'.xmlDepth →
      (∀ document, parse limits octets = .ok document →
        (∀ root, document.root = some root → root.height ≤ limits.xmlDepth) ∧
          parse limits' octets = .ok document) ∧
      ∀ e, parse limits octets = .error e → ¬ e.IsExcess → parse limits' octets = .error e) ∧
    ∀ limits : Limits, octets.length ≤ limits.xmlDepth →
      ∀ e, parse limits octets = .error e → ¬ e.IsExcess := by
  refine ⟨fun limits limits' hlimits => ?_, fun limits hlength e h => not_isExcess_of_parse hlength h⟩
  have htightens : Tightens (parse limits octets) (parse limits' octets) := by
    rw [parse_eq, parse_eq]
    exact (Tightens.foldlM (fun r m => Reading.tightens_feed hlimits r m) _ _).bind fun _ => .refl _
  refine ⟨fun document h => ⟨fun root hroot => height_le_of_parse h hroot, ?_⟩, fun e h he => ?_⟩
  · rcases htightens with ⟨e, -, htight⟩ | heq
    · rw [h] at htight
      cases htight
    · exact heq.trans h
  · rcases htightens with ⟨e', hexcess, htight⟩ | heq
    · rw [h] at htight
      cases htight
      exact absurd hexcess he
    · exact heq.trans h

/-! ## Two nested elements -/

/-- An element in another one. -/
def nestedText : String := "<a><b/></a>"

/-- The same without the end of the inner element. -/
def unclosedText : String := "<a><b></a>"

/-- Limits that allow some depth. -/
def limitsOfDepth (depth : Nat) : Limits := { Limits.standard with xmlDepth := depth }

/-- Whether reading fails with a given error. -/
def failsWith (e : Error) : Result Document → Bool
  | .ok _ => false
  | .error e' => decide (e' = e)

theorem eq_error_of_failsWith {e : Error} {result : Result Document}
    (h : failsWith e result = true) : result = .error e := by
  cases result with
  | ok document => cases h
  | error e' => exact congrArg Except.error (of_decide_eq_true h)

/-- Two nested elements are read with a depth of two, and with a depth of one the limit is
exceeded. What has no end is refused with either. -/
theorem nested_facts :
    ((parse (limitsOfDepth 2) (Text.encode nestedText)).toOption.bind root).isSome = true ∧
      failsWith (.limitExceeded ⟨.xmlDepth, 2, 1⟩)
        (parse (limitsOfDepth 1) (Text.encode nestedText)) = true ∧
      failsWith (.xml .markup) (parse (limitsOfDepth 2) (Text.encode unclosedText)) = true ∧
      (Text.encode unclosedText).length ≤ 1000 := by
  decide +kernel

theorem parse_nesting_two :
    (∃ document root, parse (limitsOfDepth 2) (Text.encode nestedText) = .ok document ∧
      document.root = some root ∧ root.height ≤ 2 ∧
      parse .standard (Text.encode nestedText) = .ok document) ∧
    (∃ e, parse (limitsOfDepth 1) (Text.encode nestedText) = .error e ∧ e.IsExcess) ∧
    parse .standard (Text.encode unclosedText) = .error (.xml .markup) ∧
      ¬ (Error.xml .markup).IsExcess := by
  obtain ⟨hroot, hexcess, hmarkup, hlength⟩ := nested_facts
  obtain ⟨root, hroot⟩ := Option.isSome_iff_exists.mp hroot
  obtain ⟨document, hdocument, hroot⟩ := Option.bind_eq_some_iff.mp hroot
  have hdepth : (limitsOfDepth 2).xmlDepth ≤ Limits.standard.xmlDepth := by decide
  have hparse := eq_ok_of_toOption hdocument
  obtain ⟨hheight, hgreater⟩ :=
    ((parse_nesting (Text.encode nestedText)).1 _ _ hdepth).1 document hparse
  have hrefused := ((parse_nesting (Text.encode unclosedText)).1 _ _ hdepth).2 _
    (eq_error_of_failsWith hmarkup) (not_isExcess_xml _)
  refine ⟨⟨document, root, hparse, hroot, hheight root hroot, hgreater⟩,
    ⟨_, eq_error_of_failsWith hexcess, _, rfl⟩, hrefused, ?_⟩
  exact (parse_nesting (Text.encode unclosedText)).2 .standard hlength _ hrefused

end Document

end Xml

end SchemaBinding
