import Mathlib.Data.List.Forall2
import SchemaBinding.Proofs.Outcome
import SchemaBinding.Xsd.Parse

/-!
# Accepted schema sets

The schema sets that are read from documents. The documents are found first, then read, and what has
been read is completed: bases are checked, and content is inherited.

## Main definitions

* `SchemaSet.Accepted`: the sets that are read from some location
* `SchemaSet.ofText`: the set of a text that holds a document

## Main results

* `SchemaSet.exists_of_parse`: the stages of reading a set
* `SchemaSet.of_inherit`, `SchemaSet.of_complete`: what is kept when content is inherited
-/

namespace SchemaBinding.Xsd.SchemaSet

/-- A set that is read from a location. -/
def Accepted (set : SchemaSet) : Prop :=
  ∃ files limits location, (SchemaSet.parse files limits location).1 = .ok set

/-- What is read from a text in memory. -/
def readText (text : String) : Result SchemaSet :=
  (SchemaSet.parse .empty .standard (.inMemory text)).1

/-- The set of a text; the built-in types alone if the text is refused. -/
def ofText (text : String) : SchemaSet :=
  match readText text with
  | .ok set => set
  | .error _ => .builtin

theorem parse_ofText {text : String} (h : (readText text).isOk = true) :
    (parse .empty .standard (.inMemory text)).1 = .ok (ofText text) := by
  show readText text = _
  unfold ofText
  cases hr : readText text with
  | ok set => rfl
  | error e =>
    rw [hr] at h
    cases h

theorem accepted_ofText {text : String} (h : (readText text).isOk = true) :
    (ofText text).Accepted :=
  ⟨_, _, _, parse_ofText h⟩

/-! ## The stages of reading -/

/-- What holds of the built-in types, and does not depend on the sources of schemas, holds of a set
before anything is declared. -/
theorem of_ofDocuments {P : SchemaSet → Prop} (hbuiltin : P .builtin)
    (hsources : ∀ set uri source, P set → P (modifySchema set uri fun s =>
      { s with sources := s.sources ++ [source] })) (documents : List SchemaDocument) (log : Log) :
    P (Draft.ofDocuments documents log).set := by
  have h : ∀ (ds : List SchemaDocument) (set : SchemaSet), P set →
      P (ds.foldl (fun set d => set.modifySchema d.context.targetNamespace fun s =>
        { s with sources := s.sources ++ [d.context.source] }) set) := by
    intro ds
    induction ds with
    | nil => exact fun _ h => h
    | cons d ds ih => exact fun set h => ih _ (hsources set _ _ h)
  exact h documents .builtin hbuiltin

/-- Before anything is declared, a set depends on the namespaces and the sources of documents. -/
theorem ofDocuments_set_congr {documents documents' : List SchemaDocument} {log log' : Log}
    (h : List.Forall₂ (fun d d' => d'.context.targetNamespace = d.context.targetNamespace ∧
      d'.context.source = d.context.source) documents documents') :
    (Draft.ofDocuments documents' log').set = (Draft.ofDocuments documents log).set := by
  unfold Draft.ofDocuments
  generalize builtin = set
  induction h generalizing set with
  | nil => rfl
  | cons hd _ ih =>
    rw [List.foldl_cons, List.foldl_cons, hd.1, hd.2]
    exact ih _

/-- A set that is read from a location is that of its documents, completed. -/
theorem exists_of_parse {files : FileSystem} {limits : Limits} {location : Location}
    {set : SchemaSet} (h : (parse files limits location).1 = .ok set) :
    ∃ documents log draft, SchemaDocument.loadAll files limits location = (.ok documents, log) ∧
      (readDocuments documents).run.run (.ofDocuments documents log) = (.ok ⟨⟩, draft) ∧
      complete limits draft = .ok set := by
  unfold parse at h
  split at h
  · cases h
  · next documents log hload =>
    split at h
    · cases h
    · next set' log' hs =>
      cases h
      unfold ofDocuments at hs
      generalize hread : (readDocuments documents).run.run (.ofDocuments documents log) = outcome
        at hs
      obtain ⟨result, draft⟩ := outcome
      cases result with
      | error _ => cases hs
      | ok _ => exact ⟨documents, log, draft, hload, hread, congrArg Prod.fst hs⟩

/-- When the documents have been found and read, what remains is to complete the set. -/
theorem parse_eq_complete {files : FileSystem} {limits : Limits} {location : Location}
    {documents : List SchemaDocument} {log : Log} {draft : Draft}
    (hload : SchemaDocument.loadAll files limits location = (.ok documents, log))
    (hread : (readDocuments documents).run.run (.ofDocuments documents log) = (.ok ⟨⟩, draft)) :
    (parse files limits location).1 = complete limits draft := by
  unfold parse ofDocuments
  rw [hload]
  dsimp only
  rw [hread]
  dsimp only
  cases complete limits draft with
  | error e => rfl
  | ok set => rfl

/-- A set is complete when its bases have been checked and its types have what they inherit. -/
theorem inheritAll_of_complete {limits : Limits} {draft : Draft} {set : SchemaSet}
    (hs : complete limits draft = .ok set) : draft.set.checkBases = .ok ⟨⟩ ∧
      draft.set.inheritAll draft.waiting = .ok set := by
  unfold complete at hs
  obtain ⟨_, hbases, hs⟩ := bind_eq_ok_iff.mp hs
  obtain ⟨read, hread, hs⟩ := bind_eq_ok_iff.mp hs
  obtain ⟨_, -, hs⟩ := bind_eq_ok_iff.mp hs
  cases hs
  exact ⟨hbases, hread⟩

section Complete

variable {P : SchemaSet → Prop}
  (hP : ∀ set id content, P set → P (setContent set id content))
include hP

/-- Inheriting changes the content of a type, and nothing else. -/
theorem of_inherit {set set' : SchemaSet} {waiting : TypeId × Inheritance} (h : P set)
    (hs : set.inherit waiting = .ok set') : P set' := by
  obtain ⟨id, inheritance⟩ := waiting
  cases inheritance with
  | extension =>
    simp only [inherit] at hs
    split at hs
    · cases hs
      exact h
    · cases hs
      exact hP _ _ _ h
  | simpleContent =>
    simp only [inherit] at hs
    split at hs
    · cases hs
      exact hP _ _ _ h
    · cases hs

theorem of_foldlM_inherit {waiting : List (TypeId × Inheritance)} {set set' : SchemaSet}
    (h : P set) (hs : waiting.foldlM inherit set = .ok set') : P set' :=
  of_foldlM h (fun _ _ _ _ hmid hs => of_inherit hP hmid hs) hs

/-- What holds of a set that has been read holds when it has been completed, if it does not depend
on the content of types. Bases have been checked then. -/
theorem of_complete {limits : Limits} {draft : Draft} {set : SchemaSet}
    (h : draft.set.checkBases = .ok ⟨⟩ → P draft.set) (hs : complete limits draft = .ok set) :
    P set := by
  obtain ⟨hbases, hs⟩ := inheritAll_of_complete hs
  exact of_foldlM_inherit hP (h hbases) hs

end Complete

end SchemaBinding.Xsd.SchemaSet
