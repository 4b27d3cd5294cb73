import SchemaBinding.Binding.Naming
import SchemaBinding.Proofs.Xsd.PlainNames

/-!
# What synthesized names tell

A name is synthesized from another one step by step: each step puts one of four suffixes behind the
name so far. Some of the suffixes begin with others, but each has a `#` in front and none after it,
and no declared name has one. So a synthesized name falls apart at its `#`s, into the name that it
was made from and a word for each step.

## Main definitions

* `Naming.Step`: the ways to make a name from another
* `Naming.synthesized`: the name that steps make of a name

## Main results

* `Naming.splitOn_synthesized`: what stands between the `#`s of a synthesized name
* `Naming.isNCName_synthesized`: a synthesized name is no name without colon
* `Naming.synthesized_readable`: a synthesized name tells what it was made from and by which steps,
  and no type is declared under it
-/

namespace SchemaBinding.Binding.Naming

/-- A way to make a name from another. -/
inductive Step where
  | type
  | listType
  | listItem
  | list
  deriving DecidableEq, Repr

/-- The name that a step makes of another. -/
def Step.apply : Step → String → String
  | .type => anonymousType
  | .listType => anonymousListType
  | .listItem => anonymousListItem
  | .list => anonymousList

/-- The name that steps make of another, one after the other. -/
def synthesized (start : String) (steps : List Step) : String :=
  steps.foldl (fun name step => step.apply name) start

@[simp] theorem synthesized_nil (start : String) : synthesized start [] = start := rfl

@[simp] theorem synthesized_cons (start : String) (step : Step) (steps : List Step) :
    synthesized start (step :: steps) = synthesized (step.apply start) steps := rfl

/-! ## Words -/

/-- What a step puts behind a name and a `#`. -/
def Step.word : Step → List Char
  | .type => "anonymousType".toList
  | .listType => "anonymousListType".toList
  | .listItem => "anonymousListItem".toList
  | .list => "anonymousList".toList

theorem Step.toList_apply (step : Step) (name : String) :
    (step.apply name).toList = name.toList ++ '#' :: step.word := by
  cases step <;> exact String.toList_append

theorem Step.hash_notMem_word (step : Step) : '#' ∉ step.word := by
  cases step <;> decide

theorem Step.word_inj {step step' : Step} : step.word = step'.word ↔ step = step' := by
  cases step <;> cases step' <;> decide

/-- Between the `#`s of a synthesized name stand the parts of the name that it was made from, and
then a word for each step. -/
theorem splitOn_synthesized (start : String) (steps : List Step) :
    (synthesized start steps).toList.splitOn '#' =
      start.toList.splitOn '#' ++ steps.map Step.word := by
  induction steps generalizing start with
  | nil => rw [synthesized_nil, List.map_nil, List.append_nil]
  | cons step steps ih =>
    rw [synthesized_cons, ih, step.toList_apply, List.splitOn_append_cons_self,
      List.splitOn_eq_singleton step.hash_notMem_word, List.append_assoc, List.map_cons,
      List.singleton_append]

/-! ## Names -/

variable {start start' : String} {steps steps' : List Step}

theorem splitOn_of_isNCName (h : Xml.isNCName start = true) :
    start.toList.splitOn '#' = [start.toList] :=
  List.splitOn_eq_singleton (Xml.not_mem_of_isNCName h (by decide))

/-- A `#` stays in a name, whatever is made of it. -/
theorem hash_mem_synthesized (hsteps : steps ≠ []) :
    '#' ∈ (synthesized start steps).toList := by
  by_contra h
  -- Without a `#` there would be one part only, and that is in front of all words.
  have hsplit := splitOn_synthesized start steps
  rw [List.splitOn_eq_singleton h] at hsplit
  have hlength := congrArg List.length hsplit
  have hstart := List.length_pos_iff.mpr (List.splitOn_ne_nil '#' start.toList)
  have hwords := List.length_pos_iff.mpr hsteps
  rw [List.length_singleton, List.length_append, List.length_map] at hlength
  omega

/-- A synthesized name is no name without colon. -/
theorem isNCName_synthesized (hsteps : steps ≠ []) :
    Xml.isNCName (synthesized start steps) = false := by
  rw [Bool.eq_false_iff]
  intro h
  exact Xml.not_mem_of_isNCName h (by decide) (hash_mem_synthesized hsteps)

/-- A name and steps can be read off what the steps make of the name. -/
theorem synthesized_inj (h : Xml.isNCName start = true) (h' : Xml.isNCName start' = true)
    (heq : synthesized start steps = synthesized start' steps') :
    start = start' ∧ steps = steps' := by
  have hsplit := splitOn_synthesized start steps
  rw [heq, splitOn_synthesized, splitOn_of_isNCName h, splitOn_of_isNCName h',
    List.singleton_append, List.singleton_append] at hsplit
  obtain ⟨hstart, hwords⟩ := List.cons_eq_cons.mp hsplit.symm
  have hinj : Function.Injective Step.word := fun _ _ => Step.word_inj.mp
  exact ⟨String.toList_inj.mp hstart, List.map_injective_iff.mpr hinj hwords⟩

/-- What steps make of a declared name tells that name and the steps, and as long as there are any
steps, it is not a name that can be declared, and no type of a set that is read has it. -/
theorem synthesized_readable :
    (∀ start start' steps steps', Xml.isNCName start = true → Xml.isNCName start' = true →
      (synthesized start steps = synthesized start' steps' ↔ start = start' ∧ steps = steps')) ∧
    (∀ start steps, steps ≠ [] → Xml.isNCName (synthesized start steps) = false) ∧
    ∀ set, Xsd.SchemaSet.Accepted set → ∀ id n, (set.type id).name = some n →
      ∀ start steps, steps ≠ [] → n ≠ synthesized start steps := by
  refine ⟨fun start start' steps steps' h h' => ⟨synthesized_inj h h', ?_⟩,
    fun start steps hsteps => isNCName_synthesized hsteps, ?_⟩
  · rintro ⟨rfl, rfl⟩
    rfl
  · rintro set hset id n hn start steps hsteps rfl
    exact hset.plainNames.type hn (hash_mem_synthesized hsteps)

/-! ### A list of lists -/

/-- A schema that declares a type. -/
def declaringText : String :=
  "<schema xmlns=\"http://www.w3.org/2001/XMLSchema\"><complexType name=\"note\"/></schema>"

set_option maxRecDepth 100000 in
theorem declaring_facts : (Xsd.SchemaSet.readText declaringText).isOk = true ∧
    ((Xsd.SchemaSet.ofText declaringText).type ⟨46⟩).name = some "note" := by
  decide +kernel

/-- Two steps whose suffixes begin alike make different names of one name, and neither is that of
the type. -/
theorem synthesized_readable_note :
    synthesized "note" [.list, .type] ≠ synthesized "note" [.listType] ∧
    Xml.isNCName "note#anonymousListType" = false ∧ "note" ≠ "note#anonymousListType" := by
  refine ⟨fun h => ?_, synthesized_readable.2.1 "note" [.listType] (by decide),
    synthesized_readable.2.2 _ (Xsd.SchemaSet.accepted_ofText declaring_facts.1) _ _
      declaring_facts.2 "note" [.listType] (by decide)⟩
  exact absurd ((synthesized_readable.1 "note" "note" _ _ (by decide) (by decide)).mp h).2
    (by decide)

end SchemaBinding.Binding.Naming
