import SchemaBinding.Proofs.Xsd.Declaration

/-!
# Names in schema sets

A component gets its name when it is declared, and the name must be a name without colon. So no
component of a set that is read from documents has a name with a `#` or a `/` in it, and no name
that is synthesized can be confused with a declared one.

## Main definitions

* `SchemaSet.NCNames`: the names of types, elements and attributes are names without colon
* `SchemaSet.PlainNames`: no type has a name with a `#`

## Main results

* `SchemaSet.lasting_ncNames`: declaring and reading components
* `SchemaSet.Accepted.ncNames`: the names in a set that was read
* `SchemaSet.Accepted.plainNames`: the names of its types
-/

namespace SchemaBinding.Xsd

section Arrays

variable {α : Type} {P : α → Prop} {xs : Array α}

theorem forall_mem_modify (h : ∀ x ∈ xs, P x) (i : Nat) {f : α → α} (hf : ∀ x, P x → P (f x)) :
    ∀ x ∈ xs.modify i f, P x := by
  intro x hx
  obtain ⟨j, hj, rfl⟩ := Array.mem_iff_getElem.mp hx
  rw [Array.getElem_modify]
  split
  · exact hf _ (h _ (Array.getElem_mem _))
  · exact h _ (Array.getElem_mem _)

theorem forall_getD {d : α} (h : ∀ x ∈ xs, P x) (hd : P d) (i : Nat) : P (xs[i]?.getD d) := by
  cases hx : xs[i]? with
  | none => exact hd
  | some x => exact h x (Array.mem_of_getElem? hx)

end Arrays

namespace SchemaSet

/-- The names of types, elements and attributes are names without colon. -/
structure NCNames (set : SchemaSet) : Prop where
  types : ∀ t ∈ set.types, ∀ n, t.name = some n → Xml.isNCName n = true
  elements : ∀ e ∈ set.elements, Xml.isNCName e.name = true
  attributes : ∀ a ∈ set.attributes, Xml.isNCName a.name = true

/-- No type has a name with a `#` in it. -/
def PlainNames (set : SchemaSet) : Prop := ∀ t ∈ set.types, ∀ n, t.name = some n → '#' ∉ n.toList

/-- What all names of types have in common holds of a type at a place; where there is none,
`anyType` is read. -/
theorem forall_name {P : String → Prop} {set : SchemaSet}
    (h : ∀ t ∈ set.types, ∀ n, t.name = some n → P n) (hany : P Builtin.anyType) {id : TypeId}
    {n : String} (hn : (set.type id).name = some n) : P n := by
  refine forall_getD (P := fun t : TypeDefinition => ∀ n, t.name = some n → P n) h ?_ id.index n hn
  rintro _ ⟨⟩
  exact hany

theorem PlainNames.type {set : SchemaSet} (h : set.PlainNames) {id : TypeId} {n : String}
    (hn : (set.type id).name = some n) : '#' ∉ n.toList :=
  forall_name h (by decide) hn

namespace NCNames

variable {set : SchemaSet} (h : set.NCNames)
include h

theorem plainNames : set.PlainNames :=
  fun t ht n hn => Xml.not_mem_of_isNCName (h.types t ht n hn) (by decide)

/-- A character that names cannot have is in no name of a type. -/
theorem not_mem_type {c : Char} (hc : Xml.isNameChar c = false) {id : TypeId} {n : String}
    (hn : (set.type id).name = some n) : c ∉ n.toList :=
  Xml.not_mem_of_isNCName (forall_name h.types (by decide) hn) hc

theorem not_mem_element {c : Char} (hc : Xml.isNameChar c = false) (id : ElementId) :
    c ∉ (set.element id).name.toList :=
  forall_getD (P := fun e : ElementDeclaration => c ∉ e.name.toList)
    (fun e he => Xml.not_mem_of_isNCName (h.elements e he) hc) List.not_mem_nil id.index

theorem not_mem_attribute {c : Char} (hc : Xml.isNameChar c = false) (id : AttributeId) :
    c ∉ (set.attr id).name.toList :=
  forall_getD (P := fun a : AttributeDeclaration => c ∉ a.name.toList)
    (fun a ha => Xml.not_mem_of_isNCName (h.attributes a ha) hc) List.not_mem_nil id.index

theorem addType {t : TypeDefinition} (ht : ∀ n, t.name = some n → Xml.isNCName n = true) :
    (set.addType t).2.NCNames :=
  ⟨Array.forall_mem_push.mpr ⟨ht, h.types⟩, h.elements, h.attributes⟩

/-- A change that leaves the name of a type alone. -/
theorem modifyType (id : TypeId) {f : TypeDefinition → TypeDefinition}
    (hf : ∀ t, (f t).name = t.name) : (set.modifyType id f).NCNames :=
  ⟨forall_mem_modify h.types id.index fun t ht n hn => ht n (hf t ▸ hn), h.elements, h.attributes⟩

theorem setContent (id : TypeId) (content : Content) : (set.setContent id content).NCNames := by
  apply h.modifyType id
  intro t
  split <;> rfl

end NCNames

theorem ncNames_builtin : NCNames builtin := by
  refine ⟨fun t ht n hn => ?_, nofun, nofun⟩
  have hall : ∀ t ∈ builtinTypes, Xml.isNCName t.displayName = true := by decide +kernel
  have hname := hall t (List.mem_toArray.mp ht)
  rwa [TypeDefinition.displayName, hn] at hname

/-! ## Sets that are read -/

/-- Names without colon last: what is declared has such a name, and types that are read have none.
-/
theorem lasting_ncNames : Draft.Lasting fun d => d.set.NCNames where
  log _ _ h := h
  waiting _ _ h := h
  addType _ _ _ _ h := h.addType nofun
  addElement _ _ he h := ⟨h.types, Array.forall_mem_push.mpr ⟨he, h.elements⟩, h.attributes⟩
  addAttribute _ _ ha h := ⟨h.types, h.elements, Array.forall_mem_push.mpr ⟨ha, h.attributes⟩⟩
  defineType _ id _ _ h := h.modifyType id fun _ => rfl
  modifyElement _ id _ hf h :=
    ⟨h.types, forall_mem_modify h.elements id.index fun e he => (hf e).symm ▸ he, h.attributes⟩
  modifyAttribute _ id _ hf h :=
    ⟨h.types, h.elements, forall_mem_modify h.attributes id.index fun a ha => (hf a).symm ▸ ha⟩
  groups _ _ h := h
  attributeGroups _ _ h := h
  declareType _ _ _ _ _ hname h := h.addType fun _ hn => Option.some.inj hn ▸ hname
  modifySchema _ _ _ _ h := ⟨h.types, h.elements, h.attributes⟩

/-- The names in a set that is read are names without colon. -/
theorem Accepted.ncNames {set : SchemaSet} (h : set.Accepted) : set.NCNames := by
  obtain ⟨files, limits, location, h⟩ := h
  obtain ⟨documents, log, draft, -, hread, hs⟩ := exists_of_parse h
  have hdraft : ((readDocuments documents).run.run (.ofDocuments documents log)).2.set.NCNames :=
    keeps_readDocuments lasting_ncNames documents _
      (of_ofDocuments ncNames_builtin (fun _ _ _ h => ⟨h.types, h.elements, h.attributes⟩)
        documents log)
  rw [hread] at hdraft
  exact of_complete (fun _ id content h => h.setContent id content) (fun _ => hdraft) hs

/-- No type of a set that is read has a name with a `#`. -/
theorem Accepted.plainNames {set : SchemaSet} (h : set.Accepted) : set.PlainNames :=
  h.ncNames.plainNames

end SchemaSet

end SchemaBinding.Xsd
