import Mathlib.Data.List.DropRight
import SchemaBinding.Path

/-!
# Paths taken apart

What stands between the slashes of a path, and which of it counts. The parent of a path and what is
below a path are given twice: by the characters they are written with, and by their components. A
path below another adds its components to those of the other, except for a `.` that it starts with.

## Main definitions

* `Path.counted`: the parts between slashes that count as components
* `Path.steps`: the components that a path adds to those of a path above it
* `Path.Same`: paths that are the same component by component
* `Path.EndsInName`: the last component is a name

## Main results

* `Path.splitSlash_join`: what is below the parent of a path, part by part
* `Path.parent_of_components`, `Path.join_of_chars`: parents and paths below others, by components
* `Path.same_join_join`: what is below the parent of what is below a path
-/

namespace SchemaBinding.Path

/-! ## Parts and slashes -/

/-- The parts of a text hold no slashes. -/
theorem slash_notMem_of_mem_splitSlash {cs part : Part} (h : part ∈ splitSlash cs) :
    slash ∉ part := by
  unfold splitSlash at h
  induction cs generalizing part with
  | nil =>
    rw [List.splitOn_nil, List.mem_singleton] at h
    simp [h]
  | cons c cs ih =>
    rw [List.splitOn_cons_eq_if_modifyHead] at h
    split at h
    · rcases List.mem_cons.mp h with rfl | h
      · simp
      · exact ih h
    · next hc =>
      cases hsplit : cs.splitOn slash with
      | nil => exact absurd hsplit (List.splitOn_ne_nil _ _)
      | cons first more =>
        rw [hsplit] at h ih
        rcases List.mem_cons.mp h with rfl | h
        · have := ih List.mem_cons_self
          simp only [beq_iff_eq] at hc
          simp [this, Ne.symm hc]
        · exact ih (List.mem_cons_of_mem _ h)

theorem splitSlash_ne_nil (cs : Part) : splitSlash cs ≠ [] := List.splitOn_ne_nil slash cs

/-- Parts without slashes are found again after they have been joined. -/
theorem splitSlash_joinSlash {parts : List Part} (hne : parts ≠ [])
    (h : ∀ part ∈ parts, slash ∉ part) : splitSlash (joinSlash parts) = parts :=
  List.splitOn_intercalate slash h hne

theorem joinSlash_splitSlash (cs : Part) : joinSlash (splitSlash cs) = cs :=
  List.intercalate_splitOn slash

theorem splitSlash_append_slash (cs ds : Part) :
    splitSlash (cs ++ slash :: ds) = splitSlash cs ++ splitSlash ds :=
  List.splitOn_append_cons_self cs ds

theorem trimIdle_cons (absolute : Bool) (first : Part) (more : List Part) :
    trimIdle absolute (first :: more) =
      if more.rdropWhile isIdle = [] then
        if first == [] || (absolute && isIdle first) then [] else [first]
      else first :: more.rdropWhile isIdle := by
  rw [trimIdle, List.rdropWhile]
  split
  · next h => rw [if_pos h]
  · next h => rw [if_neg h]

theorem isIdle_of_first {absolute : Bool} {first : Part}
    (h : (first == [] || (absolute && isIdle first)) = true) : isIdle first = true := by
  rcases Bool.or_eq_true_iff.mp h with h | h
  · simp [isIdle, h]
  · exact (Bool.and_eq_true_iff.mp h).2

/-- Parts are those that are kept and then idle ones. -/
theorem exists_trimIdle_append (absolute : Bool) (parts : List Part) :
    ∃ idles, parts = trimIdle absolute parts ++ idles ∧ ∀ part ∈ idles, isIdle part := by
  cases parts with
  | nil => exact ⟨[], rfl, nofun⟩
  | cons first more =>
    have hmore : more.rdropWhile isIdle ++ more.rtakeWhile isIdle = more :=
      List.rdropWhile_append_rtakeWhile ..
    have hidle : ∀ part ∈ more.rtakeWhile isIdle, isIdle part := fun _ => List.mem_rtakeWhile_imp
    rw [trimIdle_cons]
    split
    · next hkept =>
      rw [hkept, List.nil_append] at hmore
      rw [hmore] at hidle
      split
      · next hfirst =>
        exact ⟨first :: more, rfl, List.forall_mem_cons.mpr ⟨isIdle_of_first hfirst, hidle⟩⟩
      · exact ⟨more, rfl, hidle⟩
    · exact ⟨more.rtakeWhile isIdle, by rw [List.cons_append, hmore], hidle⟩

/-- The last part that is kept is not empty. -/
theorem getLast?_trimIdle (absolute : Bool) (parts : List Part) :
    (trimIdle absolute parts).getLast? ≠ some [] := by
  cases parts with
  | nil => nofun
  | cons first more =>
    rw [trimIdle_cons]
    split
    · split
      · nofun
      · next hfirst => simp_all
    · next hkept =>
      have hlast := List.rdropWhile_last_not isIdle more hkept
      rw [List.getLast?_cons_of_ne_nil hkept, List.getLast?_eq_some_getLast hkept]
      rintro h
      rw [Option.some.inj h] at hlast
      exact hlast rfl

/-- A path that ends in a name is trimmed at neither end. -/
theorem trimIdle_concat (absolute : Bool) (init : List Part) {name : Part}
    (hname : isIdle name = false) : trimIdle absolute (init ++ [name]) = init ++ [name] := by
  cases init with
  | nil =>
    rw [List.nil_append, trimIdle_cons, if_pos (List.rdropWhile_nil _), if_neg]
    have hne : name ≠ [] := by rintro rfl; cases hname
    simp [hne, hname]
  | cons first more =>
    rw [List.cons_append, trimIdle_cons, List.rdropWhile_concat_neg _ _ _ (by simp [hname])]
    simp

theorem exists_of_isAbsolute {path : Path} (h : path.isAbsolute = true) :
    ∃ cs, path.chars = slash :: cs := by
  rcases path with ⟨_ | ⟨c, cs⟩⟩
  · cases h
  · exact ⟨cs, by rw [Option.some.inj (beq_iff_eq.mp h)]⟩

theorem isAbsolute_of_splitSlash {cs : Part} {parts : List Part} (hparts : parts ≠ [])
    (h : splitSlash cs = [] :: parts) : (⟨cs⟩ : Path).isAbsolute = true := by
  cases parts with
  | nil => exact absurd rfl hparts
  | cons part parts =>
    rw [← joinSlash_splitSlash cs, h, joinSlash, List.intercalate_cons_cons]
    rfl

/-- A relative path has something in front of its first slash. -/
theorem splitSlash_body_ne {path : Path} (h : path.isAbsolute = false) {parts : List Part}
    (hparts : parts ≠ []) : splitSlash path.body ≠ [] :: parts := by
  intro hsplit
  rw [body, h, if_neg Bool.false_ne_true] at hsplit
  have habsolute := isAbsolute_of_splitSlash hparts hsplit
  rw [h] at habsolute
  cases habsolute

/-- The parent of a path of which something is kept. -/
theorem parent_of_trimIdle {path : Path} {init : List Part} {name : Part}
    (h : trimIdle path.isAbsolute (splitSlash path.body) = init ++ [name]) :
    path.parent = ⟨(if path.isAbsolute then [slash] else []) ++
      joinSlash (trimIdle path.isAbsolute init)⟩ := by
  unfold parent
  rw [h]
  split
  · next h => exact absurd h (by simp)
  · rw [List.dropLast_concat]
    split <;> rfl

/-- The parent of a path whose last component ends it. -/
theorem parent_eq {path : Path} {init : List Part} {name : Part}
    (hpath : splitSlash path.body = init ++ [name]) (hname : isIdle name = false) :
    path.parent = ⟨(if path.isAbsolute then [slash] else []) ++
      joinSlash (trimIdle path.isAbsolute init)⟩ :=
  parent_of_trimIdle (by rw [hpath, trimIdle_concat _ _ hname])

/-- A relative path is put after components with one slash between. -/
theorem join_eq {absolute : Bool} {kept : List Part} {relative : Path}
    (hslash : ∀ part ∈ kept, slash ∉ part) (hlast : kept.getLast? ≠ some [])
    (hrelative : relative.isAbsolute = false) :
    (⟨(if absolute then [slash] else []) ++ joinSlash kept⟩ : Path).join relative =
      ⟨(if absolute then [slash] else []) ++
        (if kept = [] then relative.chars else joinSlash kept ++ slash :: relative.chars)⟩ := by
  rcases eq_or_ne kept [] with rfl | hkept
  · cases absolute <;> simp [join, hrelative, joinSlash]
  · have hsplit := splitSlash_joinSlash hkept hslash
    have hne : joinSlash kept ≠ [] := by
      intro h
      rw [h] at hsplit
      exact hlast (by rw [← hsplit]; rfl)
    have hgetLast : (joinSlash kept).getLast? ≠ some slash := by
      intro h
      obtain ⟨cs, hcs⟩ := List.getLast?_eq_some_iff.mp h
      rw [hcs, splitSlash_append_slash] at hsplit
      exact hlast (by rw [← hsplit, List.getLast?_append]; rfl)
    have hgetLast' : ((if absolute then [slash] else []) ++ joinSlash kept).getLast? ≠
        some slash := by
      rwa [List.getLast?_append_of_ne_nil _ hne]
    unfold join
    rw [if_neg (by simp [hrelative, hne]), if_neg (by simpa using hgetLast'), if_neg hkept,
      List.append_assoc]

/-- A relative path below the parent of another path starts with the components of the parent. -/
theorem splitSlash_join {path relative : Path} {init : List Part} {name : Part}
    (hpath : splitSlash path.body = init ++ [name]) (hname : isIdle name = false)
    (hrelative : relative.isAbsolute = false) :
    (path.parent.join relative).isAbsolute = path.isAbsolute ∧
      splitSlash (path.parent.join relative).body =
        trimIdle path.isAbsolute init ++ splitSlash relative.chars := by
  obtain ⟨idles, hinit, -⟩ := exists_trimIdle_append path.isAbsolute init
  have hlast := getLast?_trimIdle path.isAbsolute init
  rw [parent_eq hpath hname]
  generalize trimIdle path.isAbsolute init = kept at hinit hlast ⊢
  have hslash : ∀ part ∈ kept, slash ∉ part := fun part hpart =>
    have hmem : part ∈ splitSlash path.body := by rw [hpath, hinit]; simp [hpart]
    slash_notMem_of_mem_splitSlash hmem
  rw [join_eq hslash hlast hrelative]
  have hchars : splitSlash (if kept = [] then relative.chars
      else joinSlash kept ++ slash :: relative.chars) = kept ++ splitSlash relative.chars := by
    split
    · next hkept => rw [hkept, List.nil_append]
    · next hkept => rw [splitSlash_append_slash, splitSlash_joinSlash hkept hslash]
  cases habsolute : path.isAbsolute with
  | true => exact ⟨rfl, hchars⟩
  | false =>
    have hfalse : (⟨if kept = [] then relative.chars
        else joinSlash kept ++ slash :: relative.chars⟩ : Path).isAbsolute = false := by
      rw [Bool.eq_false_iff]
      intro h
      obtain ⟨cs, hcs⟩ := exists_of_isAbsolute h
      dsimp only at hcs
      have hsplit : kept ++ splitSlash relative.chars = [] :: splitSlash cs := by
        rw [← hchars, hcs]
        exact splitSlash_append_slash [] cs
      cases kept with
      | nil =>
        rw [if_pos rfl] at hcs
        simp [isAbsolute, hcs] at hrelative
      | cons first kept =>
        -- An empty first component would make the path itself absolute.
        obtain rfl : first = [] := List.head_eq_of_cons_eq hsplit
        rw [hinit, List.cons_append, List.cons_append] at hpath
        exact absurd hpath (splitSlash_body_ne habsolute (by simp))
    refine ⟨hfalse, ?_⟩
    unfold body
    rw [if_neg Bool.false_ne_true, List.nil_append, hfalse]
    exact hchars

/-- Characters of a joined text are slashes or stand in one of its parts. -/
theorem mem_of_mem_joinSlash {parts : List Part} {c : Option Char} (hc : c ≠ slash)
    (h : c ∈ joinSlash parts) : ∃ part ∈ parts, c ∈ part := by
  unfold joinSlash at h
  induction parts with
  | nil => cases h
  | cons part parts ih =>
    cases parts with
    | nil =>
      rw [List.intercalate_singleton] at h
      exact ⟨part, List.mem_cons_self, h⟩
    | cons second parts =>
      rw [List.intercalate_cons_cons, List.mem_append, List.mem_append, List.mem_singleton] at h
      rcases h with (h | h) | h
      · exact ⟨part, List.mem_cons_self, h⟩
      · exact absurd h hc
      · obtain ⟨found, hfound, hmem⟩ := ih h
        exact ⟨found, List.mem_cons_of_mem _ hfound, hmem⟩

theorem mem_of_mem_splitSlash {cs part : Part} {c : Option Char} (hpart : part ∈ splitSlash cs)
    (hc : c ∈ part) : c ∈ cs := by
  unfold splitSlash at hpart
  induction cs generalizing part with
  | nil => simp_all
  | cons d cs ih =>
    rw [List.splitOn_cons_eq_if_modifyHead] at hpart
    split at hpart
    · rcases List.mem_cons.mp hpart with rfl | hpart
      · cases hc
      · exact List.mem_cons_of_mem _ (ih hpart hc)
    · cases hparts : cs.splitOn slash with
      | nil => exact absurd hparts (List.splitOn_ne_nil _ _)
      | cons first more =>
        rw [hparts] at hpart ih
        rcases List.mem_cons.mp hpart with rfl | hpart
        · rcases List.mem_cons.mp hc with rfl | hc
          · exact List.mem_cons_self
          · exact List.mem_cons_of_mem _ (ih List.mem_cons_self hc)
        · exact List.mem_cons_of_mem _ (ih (List.mem_cons_of_mem _ hpart) hc)

theorem mem_of_mem_trimIdle {absolute : Bool} {parts : List Part} {part : Part}
    (h : part ∈ trimIdle absolute parts) : part ∈ parts := by
  obtain ⟨idles, hparts, -⟩ := exists_trimIdle_append absolute parts
  rw [hparts]
  exact List.mem_append_left _ h

/-- The parent of a path has no other characters than the path. -/
theorem mem_of_mem_parent {path : Path} {c : Option Char} (hc : c ≠ slash)
    (h : c ∈ path.parent.chars) : c ∈ path.chars := by
  have habove : ∀ parts, (∀ part ∈ parts, part ∈ splitSlash path.body) →
      c ∈ joinSlash parts → c ∈ path.chars := by
    intro parts hparts h
    obtain ⟨part, hpart, hmem⟩ := mem_of_mem_joinSlash hc h
    have hbody := mem_of_mem_splitSlash (hparts part hpart) hmem
    unfold body at hbody
    split at hbody
    · exact List.mem_of_mem_tail hbody
    · exact hbody
  unfold parent at h
  split at h
  · cases h
  · dsimp only at h
    replace h : c ∈ joinSlash (trimIdle path.isAbsolute
        (trimIdle path.isAbsolute (splitSlash path.body)).dropLast) := by
      split at h
      · exact (List.mem_cons.mp h).resolve_left hc
      · exact h
    exact habove _ (fun part hpart => mem_of_mem_trimIdle
      ((List.dropLast_prefix _).subset (mem_of_mem_trimIdle hpart))) h

/-- A path that is joined to another one has no characters of its own but the slash between them. -/
theorem mem_join {base path : Path} {c : Option Char} (h : c ∈ (base.join path).chars) :
    c ∈ base.chars ∨ c = slash ∨ c ∈ path.chars := by
  unfold join at h
  split at h
  · exact .inr (.inr h)
  · split at h
    · exact (List.mem_append.mp h).imp_right .inr
    · exact (List.mem_append.mp h).imp_right List.mem_cons.mp

/-- What is below another path ends with the path. -/
theorem subset_join (base path : Path) : path.chars ⊆ (base.join path).chars := by
  unfold join
  split
  · exact List.Subset.refl _
  · split
    · exact List.subset_append_right _ _
    · exact fun _ h => List.mem_append_right _ (List.mem_cons_of_mem _ h)

theorem none_notMem_ofText (s : String) : none ∉ (ofText s).chars := by
  simp [ofText]

/-- A path of characters is the text that stands for it. -/
theorem ofText_text {path : Path} (h : none ∉ path.chars) : ofText path.text = path := by
  have hchars : path.chars.map (fun c => some (c.getD Text.replacement)) = path.chars := by
    conv_rhs => rw [← List.map_id path.chars]
    refine List.map_congr_left fun c hc => ?_
    cases c with
    | none => exact absurd hc h
    | some c => rfl
  rw [ofText, text, Text.replacing, String.toList_ofList, List.map_map]
  exact congrArg Path.mk hchars

/-! ## Components -/

/-- The parts that are not idle. -/
def withoutIdle (parts : List Part) : List Part := parts.filter fun part => !isIdle part

theorem withoutIdle_append (parts parts' : List Part) :
    withoutIdle (parts ++ parts') = withoutIdle parts ++ withoutIdle parts' :=
  List.filter_append ..

theorem withoutIdle_cons (part : Part) (parts : List Part) :
    withoutIdle (part :: parts) =
      if isIdle part then withoutIdle parts else part :: withoutIdle parts := by
  unfold withoutIdle
  rw [List.filter_cons]
  cases isIdle part <;> rfl

theorem withoutIdle_singleton {part : Part} (h : isIdle part = false) :
    withoutIdle [part] = [part] := by
  rw [withoutIdle_cons, h]
  rfl

theorem withoutIdle_withoutIdle (parts : List Part) :
    withoutIdle (withoutIdle parts) = withoutIdle parts := by
  simp [withoutIdle, List.filter_filter]

theorem withoutIdle_eq_nil {parts : List Part} (h : ∀ part ∈ parts, isIdle part) :
    withoutIdle parts = [] := by
  rw [withoutIdle, List.filter_eq_nil_iff]
  intro part hpart
  simp [h part hpart]

/-- Idle parts at the end make no difference to what counts. -/
theorem withoutIdle_rdropWhile (parts : List Part) :
    withoutIdle (parts.rdropWhile isIdle) = withoutIdle parts := by
  have hidle : withoutIdle (parts.rtakeWhile isIdle) = [] :=
    withoutIdle_eq_nil fun _ => List.mem_rtakeWhile_imp
  conv_rhs => rw [← List.rdropWhile_append_rtakeWhile (p := isIdle) (l := parts)]
  rw [withoutIdle_append, hidle, List.append_nil]

/-- The parts that count as components, of those between slashes. -/
def counted (absolute : Bool) : List Part → List Part
  | [] => []
  | first :: more =>
    if first == [] || (absolute && isIdle first) then withoutIdle more
    else first :: withoutIdle more

/-- The components of a path are those parts of its body that count. -/
theorem components_eq (path : Path) :
    path.components = counted path.isAbsolute (splitSlash path.body) := by
  unfold components
  cases splitSlash path.body <;> rfl

/-- After the first part all parts count but the idle ones. -/
theorem counted_append {absolute : Bool} {parts : List Part} (hparts : parts ≠ [])
    (more : List Part) :
    counted absolute (parts ++ more) = counted absolute parts ++ withoutIdle more := by
  cases parts with
  | nil => exact absurd rfl hparts
  | cons first rest =>
    rw [List.cons_append, counted, counted, withoutIdle_append]
    split <;> rfl

/-- Whether the first part counts matters only as long as it is not idle. -/
theorem withoutIdle_counted (absolute : Bool) (parts : List Part) :
    withoutIdle (counted absolute parts) = withoutIdle parts := by
  cases parts with
  | nil => rfl
  | cons first more =>
    rw [counted, withoutIdle_cons]
    split
    · next hfirst => rw [if_pos (isIdle_of_first hfirst), withoutIdle_withoutIdle]
    · rw [withoutIdle_cons, withoutIdle_withoutIdle]

/-- Below a root the first part is like the others. -/
theorem counted_true (parts : List Part) : counted true parts = withoutIdle parts := by
  cases parts with
  | nil => rfl
  | cons first more =>
    rw [counted, withoutIdle_cons]
    split
    · next hfirst => rw [if_pos (isIdle_of_first hfirst)]
    · next hfirst => rw [if_neg fun hidle => hfirst (by simp [hidle])]

/-- No component is empty. -/
theorem nil_notMem_components (path : Path) : [] ∉ path.components := by
  rw [components_eq]
  cases splitSlash path.body with
  | nil => exact List.not_mem_nil
  | cons first more =>
    have hmore : [] ∉ withoutIdle more := by simp [withoutIdle, isIdle]
    rw [counted]
    split
    · exact hmore
    · next hfirst =>
      intro h
      rcases List.mem_cons.mp h with rfl | h
      · exact hfirst rfl
      · exact hmore h

/-- What is left out at the end does not count. -/
theorem counted_trimIdle (absolute : Bool) (parts : List Part) :
    counted absolute (trimIdle absolute parts) = counted absolute parts := by
  cases parts with
  | nil => rfl
  | cons first more =>
    rw [trimIdle_cons, counted, ← withoutIdle_rdropWhile more]
    split
    · next hkept =>
      rw [hkept]
      split
      · rfl
      · next hfirst => rw [counted, if_neg hfirst]
    · rw [counted, withoutIdle_rdropWhile]

/-- The last part that is kept is a component. -/
theorem counted_of_trimIdle {absolute : Bool} {parts init : List Part} {name : Part}
    (h : trimIdle absolute parts = init ++ [name]) :
    counted absolute parts = counted absolute init ++ [name] := by
  rw [← counted_trimIdle, h]
  cases parts with
  | nil => exact absurd h.symm (by simp [trimIdle])
  | cons first more =>
    rw [trimIdle_cons] at h
    split at h
    · split at h
      · exact absurd h.symm (by simp)
      · next hfirst =>
        have hcounted : counted absolute [first] = [first] := by
          rw [counted, if_neg hfirst]
          rfl
        cases init with
        | nil =>
          rw [← List.head_eq_of_cons_eq h]
          exact hcounted
        | cons second rest => exact absurd (List.tail_eq_of_cons_eq h).symm (by simp)
    · next hkept =>
      have hlast := List.rdropWhile_last_not isIdle more hkept
      cases init with
      | nil => exact absurd (List.tail_eq_of_cons_eq h) hkept
      | cons second rest =>
        have hname : isIdle name = false := by
          simpa [List.tail_eq_of_cons_eq h] using hlast
        rw [counted_append (List.cons_ne_nil _ _), withoutIdle_singleton hname]

/-! ### Parents -/

/-- The components of a path that is written as parts between slashes. -/
theorem components_of_joinSlash {absolute : Bool} {kept : List Part}
    (hslash : ∀ part ∈ kept, slash ∉ part) (hfirst : absolute = false → kept.head? ≠ some []) :
    (⟨(if absolute then [slash] else []) ++ joinSlash kept⟩ : Path).isAbsolute = absolute ∧
      (⟨(if absolute then [slash] else []) ++ joinSlash kept⟩ : Path).components =
        counted absolute kept := by
  have hsplit : counted absolute (splitSlash (joinSlash kept)) = counted absolute kept := by
    rcases eq_or_ne kept [] with rfl | hkept
    · cases absolute <;> rfl
    · rw [splitSlash_joinSlash hkept hslash]
  cases absolute with
  | true => exact ⟨rfl, (components_eq _).trans hsplit⟩
  | false =>
    have hrelative : (⟨joinSlash kept⟩ : Path).isAbsolute = false := by
      rw [Bool.eq_false_iff]
      intro habsolute
      obtain ⟨cs, hcs⟩ := exists_of_isAbsolute habsolute
      dsimp only at hcs
      rcases eq_or_ne kept [] with rfl | hkept
      · cases hcs
      · apply hfirst rfl
        rw [← splitSlash_joinSlash hkept hslash, hcs]
        exact congrArg List.head? (splitSlash_append_slash [] cs)
    refine ⟨hrelative, (components_eq _).trans ?_⟩
    rw [body, if_neg Bool.false_ne_true, List.nil_append, hrelative]
    exact hsplit

/-- The parent of a path is the path without its last component. -/
theorem parent_of_components {path : Path} (h : path.components ≠ []) :
    path.parent.isAbsolute = path.isAbsolute ∧
      path.parent.components = path.components.dropLast := by
  rcases List.eq_nil_or_concat' (trimIdle path.isAbsolute (splitSlash path.body)) with
    hkept | ⟨init, name, hkept⟩
  · rw [components_eq, ← counted_trimIdle, hkept] at h
    exact absurd rfl h
  · obtain ⟨idles, hsplit, -⟩ := exists_trimIdle_append path.isAbsolute (splitSlash path.body)
    obtain ⟨idles', hinit, -⟩ := exists_trimIdle_append path.isAbsolute init
    rw [hkept] at hsplit
    rw [parent_of_trimIdle hkept, components_eq path, counted_of_trimIdle hkept,
      List.dropLast_concat, ← counted_trimIdle _ init]
    apply components_of_joinSlash
    · intro part hpart
      have hmem : part ∈ splitSlash path.body := by
        rw [hsplit]
        simp [mem_of_mem_trimIdle hpart]
      exact slash_notMem_of_mem_splitSlash hmem
    · intro hrelative hfirst
      obtain ⟨more, hmore⟩ := List.head?_eq_some_iff.mp hfirst
      rw [hinit, hmore, List.cons_append, List.cons_append, List.cons_append] at hsplit
      exact splitSlash_body_ne hrelative (by simp) hsplit

/-- Only an empty path has neither a root nor a component. -/
theorem chars_eq_nil_iff {path : Path} :
    path.chars = [] ↔ path.isAbsolute = false ∧ path.components = [] := by
  constructor
  · intro h
    obtain rfl : path = ⟨[]⟩ := by rw [← h]
    exact ⟨rfl, rfl⟩
  · rintro ⟨hrelative, h⟩
    rw [components_eq, hrelative] at h
    have hbody : path.body = path.chars := by rw [body, hrelative, if_neg Bool.false_ne_true]
    cases hsplit : splitSlash path.body with
    | nil => exact absurd hsplit (splitSlash_ne_nil _)
    | cons first more =>
      rw [hsplit, counted, Bool.false_and, Bool.or_false] at h
      split at h
      · next hfirst =>
        obtain rfl := beq_iff_eq.mp hfirst
        rcases eq_or_ne more [] with rfl | hmore
        · rw [← hbody, ← joinSlash_splitSlash path.body, hsplit]
          rfl
        · exact absurd hsplit (splitSlash_body_ne hrelative hmore)
      · cases h

/-! ### Paths below others -/

/-- The components that a relative path adds to those of a path above it. -/
def steps (path : Path) : List Part := withoutIdle path.components

theorem steps_eq {path : Path} (h : path.isAbsolute = false) :
    path.steps = withoutIdle (splitSlash path.chars) := by
  rw [steps, components_eq, withoutIdle_counted, body, h, if_neg Bool.false_ne_true]

theorem isAbsolute_append {cs : Part} (hcs : cs ≠ []) (ds : Part) :
    (⟨cs ++ ds⟩ : Path).isAbsolute = (⟨cs⟩ : Path).isAbsolute := by
  cases cs with
  | nil => exact absurd rfl hcs
  | cons c cs => rfl

/-- After a slash all parts count but the idle ones. -/
theorem components_append_slash (cs ds : Part) :
    (⟨cs ++ slash :: ds⟩ : Path).components =
      (⟨cs⟩ : Path).components ++ withoutIdle (splitSlash ds) := by
  rw [components_eq, components_eq ⟨cs⟩]
  cases cs with
  | nil => exact counted_true (splitSlash ds)
  | cons c cs =>
    rw [isAbsolute_append (List.cons_ne_nil c cs), ← counted_append (splitSlash_ne_nil _), body,
      body, isAbsolute_append (List.cons_ne_nil c cs), ← splitSlash_append_slash]
    split <;> rfl

theorem join_of_isEmpty {base : Path} (h : base.chars = []) (path : Path) :
    base.join path = path := by
  simp [join, h]

/-- A relative path is put after the components of a path that is not empty. -/
theorem join_of_chars {base path : Path} (hbase : base.chars ≠ []) (h : path.isAbsolute = false) :
    (base.join path).isAbsolute = base.isAbsolute ∧
      (base.join path).components = base.components ++ path.steps := by
  rw [steps_eq h]
  unfold join
  rw [if_neg (by simp [h, hbase])]
  split
  · next hslash =>
    obtain ⟨cs, hcs⟩ := List.getLast?_eq_some_iff.mp (beq_iff_eq.mp hslash)
    obtain rfl : base = ⟨cs ++ [slash]⟩ := by rw [← hcs]
    refine ⟨isAbsolute_append hbase _, ?_⟩
    have hend : withoutIdle (splitSlash []) = [] := rfl
    dsimp only
    rw [List.append_assoc, List.singleton_append, components_append_slash,
      components_append_slash, hend, List.append_nil]
  · exact ⟨isAbsolute_append hbase _, components_append_slash _ _⟩

/-- Relative paths put together are a relative path that adds what both add. -/
theorem join_of_relative {base path : Path} (hbase : base.isAbsolute = false)
    (h : path.isAbsolute = false) :
    (base.join path).isAbsolute = false ∧ (base.join path).steps = base.steps ++ path.steps := by
  rcases eq_or_ne base.chars [] with hempty | hne
  · obtain rfl : base = ⟨[]⟩ := by rw [← hempty]
    rw [join_of_isEmpty rfl]
    exact ⟨h, rfl⟩
  · obtain ⟨habsolute, hcomponents⟩ := join_of_chars hne h
    refine ⟨habsolute.trans hbase, ?_⟩
    rw [steps, hcomponents, withoutIdle_append, steps, steps, withoutIdle_withoutIdle]

/-- Paths that are the same component by component. -/
def Same (path path' : Path) : Prop :=
  path.isAbsolute = path'.isAbsolute ∧ path.components = path'.components

instance (path path' : Path) : Decidable (path.Same path') :=
  inferInstanceAs (Decidable (_ ∧ _))

/-- A path whose last component is a name, neither `.` nor `..`. -/
def EndsInName (path : Path) : Prop :=
  ∃ name, path.components.getLast? = some name ∧ name ≠ dot ∧ name ≠ doubleDot

/-- A path that ends in a name has components before this one. -/
theorem EndsInName.exists_components {path : Path} (h : path.EndsInName) :
    ∃ init name, path.components = init ++ [name] ∧ isIdle name = false := by
  obtain ⟨name, hlast, hdot, -⟩ := h
  obtain ⟨init, hcomponents⟩ := List.getLast?_eq_some_iff.mp hlast
  refine ⟨init, name, hcomponents, ?_⟩
  have hne : name ≠ [] := by
    rintro rfl
    exact nil_notMem_components path (List.mem_of_getLast? hlast)
  simp [isIdle, hne, hdot]

/-- To go from a path by one relative path and from there by another is to go by the two put
together. -/
theorem same_join_join (base : Path) {first second : Path} (hfirst : first.isAbsolute = false)
    (hsecond : second.isAbsolute = false) (hname : first.EndsInName) :
    ((base.join first).parent.join second).Same (base.join (first.parent.join second)) := by
  rcases eq_or_ne base.chars [] with hempty | hne
  · rw [join_of_isEmpty hempty, join_of_isEmpty hempty]
    exact ⟨rfl, rfl⟩
  obtain ⟨init, name, hcomponents, hidle⟩ := hname.exists_components
  have hfirstNe : first.components ≠ [] := by simp [hcomponents]
  obtain ⟨hparent, hparentComponents⟩ := parent_of_components hfirstNe
  have hsteps : first.steps = first.parent.steps ++ [name] := by
    rw [steps, steps, hparentComponents, hcomponents, List.dropLast_concat, withoutIdle_append,
      withoutIdle_singleton hidle]
  obtain ⟨hjoin, hjoinComponents⟩ := join_of_chars hne hfirst
  rw [hsteps, ← List.append_assoc] at hjoinComponents
  have hjoinNe : (base.join first).components ≠ [] := by simp [hjoinComponents]
  obtain ⟨habove, haboveComponents⟩ := parent_of_components hjoinNe
  rw [hjoinComponents, List.dropLast_concat] at haboveComponents
  have haboveNe : (base.join first).parent.chars ≠ [] := by
    rw [ne_eq, chars_eq_nil_iff, habove, hjoin, haboveComponents]
    rintro ⟨hrelative, hnil⟩
    exact hne (chars_eq_nil_iff.mpr ⟨hrelative, (List.append_eq_nil_iff.mp hnil).1⟩)
  obtain ⟨hreached, hreachedComponents⟩ := join_of_chars haboveNe hsecond
  obtain ⟨hrelative, hrelativeSteps⟩ := join_of_relative (hparent.trans hfirst) hsecond
  obtain ⟨hdirect, hdirectComponents⟩ := join_of_chars hne hrelative
  constructor
  · rw [hreached, habove, hjoin, hdirect]
  · rw [hreachedComponents, haboveComponents, hdirectComponents, hrelativeSteps,
      List.append_assoc]

end SchemaBinding.Path
