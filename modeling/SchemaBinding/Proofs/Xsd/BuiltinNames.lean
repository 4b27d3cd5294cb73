import SchemaBinding.Proofs.Xsd.Completion
import SchemaBinding.Proofs.Xsd.Finished

/-!
# Names of built-in types

A document may belong to the namespace of the schema language, but it cannot define a built-in type
again: the name is taken when the document is declared, and types that are found while it is read
have no names. So a type of an accepted set that has the name of a built-in type, in that namespace,
is the built-in type.

## Main results

* `SchemaSet.exists_findType?_of_isBuiltin`: built-in types are found under their names
* `SchemaSet.isSimple_or_anyType`: built-in types are simple, but for the root of all types
* `Draft.stable_unnamed`: types that are found while reading
* `Draft.Stages.hasType_of_isBuiltin`: the built-in names of a draft
* `SchemaSet.Accepted.heading_of_isBuiltin`: the built-in names of an accepted set
-/

namespace SchemaBinding.Xsd

namespace SchemaSet

/-- A built-in type is found under its name before anything is declared. -/
theorem exists_findType?_of_isBuiltin {n : String} (h : Builtin.isBuiltin n = true) :
    ∃ id, builtin.findType? ⟨some schemaNamespace, n⟩ = some id := by
  have hall : ∀ n ∈ Builtin.anyType :: Builtin.anySimpleType ::
      (Builtin.atomic ++ Builtin.lists.map Prod.fst),
      (builtin.findType? ⟨some schemaNamespace, n⟩).isSome = true := by
    decide +kernel
  refine Option.isSome_iff_exists.mp (hall n ?_)
  simp only [Builtin.isBuiltin, Bool.or_eq_true, beq_iff_eq, List.contains_iff_mem,
    List.any_eq_true] at h
  simp only [List.mem_cons, List.mem_append, List.mem_map]
  rcases h with ((h | h) | h) | h
  · exact .inl h
  · exact .inr (.inl h)
  · exact .inr (.inr (.inl h))
  · exact .inr (.inr (.inr h))

/-- The built-in types are simple, but for the root of all types. -/
theorem isSimple_or_anyType {id : TypeId} (h : builtin.HasType id) :
    (builtin.type id).isSimple = true ∨ (builtin.type id).name = some Builtin.anyType := by
  have hall : ∀ t ∈ builtinTypes.drop 2, t.isSimple = true := by decide +kernel
  rcases cases_builtin h with rfl | rfl | ⟨-, hmem⟩
  · exact .inr rfl
  · exact .inl rfl
  · exact .inl (hall _ hmem)

/-- What is found among the built-in types is found when the schemas of documents have been added.
-/
theorem findType?_ofDocuments {q : Xml.QName} {id : TypeId} (h : builtin.findType? q = some id)
    (documents : List SchemaDocument) (log : Log) :
    (Draft.ofDocuments documents log).set.findType? q = some id := by
  refine of_ofDocuments (P := fun set => set.findType? q = some id) h ?_ documents log
  intro set uri source h
  let f (s : Schema) : Schema := { s with sources := s.sources ++ [source] }
  show (set.modifySchema uri f).findType? q = some id
  rw [findType?_modifySchema (f := f) (fun _ => rfl) fun _ => rfl]
  exact h

end SchemaSet

namespace Draft

/-- The types that are found while reading have no names. -/
theorem stable_unnamed (size : Nat) : Draft.Stable fun d =>
    ∀ i t, size ≤ i → d.set.types[i]? = some t → t.name = none where
  log _ _ h := h
  waiting _ _ h := h
  addType d namespaceUri base kind h i t hi ht := by
    change (d.set.types.push _)[i]? = some t at ht
    rw [Array.getElem?_push] at ht
    split at ht
    · cases ht
      rfl
    · exact h i t hi ht
  addElement _ _ _ h := h
  addAttribute _ _ _ h := h
  defineType d id base kind h i t hi ht := by
    change (d.set.types.modify id.index _)[i]? = some t at ht
    rw [Array.getElem?_modify] at ht
    split at ht
    · obtain ⟨t₀, ht₀, rfl⟩ := Option.map_eq_some_iff.mp ht
      exact h i t₀ hi ht₀
    · exact h i t hi ht
  modifyElement _ _ _ _ h := h
  modifyAttribute _ _ _ _ h := h

/-- A type that has the name of a built-in one was there before anything was declared. -/
theorem Stages.hasType_of_isBuiltin {documents : List SchemaDocument} {globals : List Global}
    {d₁ d₂ : Draft} {log : Log} (h : Stages documents globals (.ofDocuments documents log) d₁ d₂)
    (hkept : ∀ I, Draft.Stable I → I d₁ → I d₂) {id : TypeId} {n : String}
    (hid : d₂.set.HasType id) (hns : (d₂.set.type id).namespaceUri = schemaNamespace)
    (hname : (d₂.set.type id).name = some n) (hn : Builtin.isBuiltin n = true) :
    (ofDocuments documents log).set.HasType id := by
  refine Classical.byContradiction fun hold => ?_
  by_cases hid₁ : d₁.set.HasType id
  · -- A declared type would be found in the place of the built-in one.
    obtain ⟨g, hg, hpart⟩ := List.mem_map.mp (h.declares.new (.type id) hold hid₁)
    obtain ⟨_, -, _, -, hstands⟩ := h.defined g hg
    obtain ⟨-, _, -, hfound⟩ := h.readFrom hg hpart hstands
    obtain ⟨i, hi⟩ := SchemaSet.exists_findType?_of_isBuiltin hn
    have hi := SchemaSet.findType?_ofDocuments hi documents log
    have hfound' : d₂.set.findType? ⟨some schemaNamespace, n⟩ = some i :=
      h.advances.findType?_eq ▸ h.declares.findType? _ i hi
    obtain ⟨-, hlocal, huri⟩ := h.advances.sound.listed.findType? hfound
    have hq : _ = (⟨some schemaNamespace, n⟩ : Xml.QName) :=
      qName_ext (hns ▸ huri) rfl (Option.some.inj (hlocal.symm.trans hname))
    rw [hq, hfound'] at hfound
    cases hfound
    exact hold (h.start.sound.listed.findType? hi).1
  · have hnone := hkept _ (stable_unnamed d₁.set.types.size)
      (fun i t hi ht => absurd (Array.getElem?_eq_none hi ▸ ht) nofun) id.index
      (d₂.set.type id) (Nat.le_of_not_lt hid₁) (by
        unfold SchemaSet.type
        rw [Array.getElem?_eq_getElem hid]
        rfl)
    rw [hname] at hnone
    cases hnone

end Draft

/-- A type of an accepted set that has the name of a built-in type, in the namespace of the schema
language, is that type. -/
theorem SchemaSet.Accepted.heading_of_isBuiltin {set : SchemaSet} (h : set.Accepted) {id : TypeId}
    {n : String} (hid : set.HasType id) (hns : (set.type id).namespaceUri = schemaNamespace)
    (hname : (set.type id).name = some n) (hn : Builtin.isBuiltin n = true) :
    builtin.HasType id ∧ (set.type id).heading = (builtin.type id).heading := by
  obtain ⟨files, limits, location, h⟩ := h
  obtain ⟨documents, log, draft, -, hread, hs⟩ := exists_of_parse h
  obtain ⟨globals, d₁, hstages, hkept⟩ := Draft.exists_stages_of_read hread
  obtain ⟨hgrows, hhas⟩ : draft.set.Grows set ∧ (set.HasType id → draft.set.HasType id) :=
    of_complete (P := fun set => draft.set.Grows set ∧ (set.HasType id → draft.set.HasType id))
      (fun set i content h => ⟨h.1.trans (grows_setContent set i content),
        fun hid => h.2 (hasType_setContent.mp hid)⟩) (fun _ => ⟨.refl _, fun hid => hid⟩) hs
  have hid := hhas hid
  have hheading := hgrows.type id hid
  have hns' : (draft.set.type id).namespaceUri = schemaNamespace :=
    (congrArg (·.2.1) hheading).symm.trans hns
  have hname' : (draft.set.type id).name = some n := (congrArg (·.1) hheading).symm.trans hname
  have hold := hstages.hasType_of_isBuiltin hkept hid hns' hname' hn
  refine ⟨hstages.start.hasType_builtin hold, ?_⟩
  rw [hheading, (hstages.type_eq hold).1, hstages.start.type_eq]

end SchemaBinding.Xsd
