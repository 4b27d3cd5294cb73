import SchemaBinding.Binding.Loading
import SchemaBinding.Proofs.Xsd.PlainNames

/-!
# Names under which types are bound

The name of a definition is a declared name, which has no `#`, or that of an anonymous definition.
The items of repeated groups and the lists of repeated content are named apart from both, so a
definition is never looked up under such a name.

## Main definitions

* `Naming.IsList`: the names of lists that are in no scope

## Main results

* `Naming.anonymousListItem_inj`, `Naming.anonymousListItem_not_isList`: the suffixes are kept apart
* `typeName_ne_anonymousListItem`, `typeName_not_isList`: the names of definitions
-/

namespace SchemaBinding.Binding

namespace Naming

theorem anonymousListItem_inj {a b : String} (h : anonymousListItem a = anonymousListItem b) :
    a = b :=
  String.append_left_inj _ |>.mp h

theorem ne_anonymousListItem {n : String} (h : '#' ∉ n.toList) (owner : String) :
    n ≠ anonymousListItem owner := by
  rintro rfl
  exact h (by simp [anonymousListItem])

/-- Whether a name is that of the list of some repeated content. -/
def IsList (n : String) : Prop := ∃ owner, n = anonymousListType owner

theorem isList_anonymousListType (owner : String) : IsList (anonymousListType owner) := ⟨owner, rfl⟩

/-- The suffixes of the two kinds of repeated content end in different letters. -/
theorem anonymousListItem_not_isList (owner : String) : ¬ IsList (anonymousListItem owner) := by
  rintro ⟨other, h⟩
  have hl := congrArg (fun s : String => s.toList.getLast?) h
  simp [anonymousListItem, anonymousListType] at hl

theorem anonymousType_ne_anonymousListItem (owner other : String) :
    anonymousType owner ≠ anonymousListItem other := by
  intro h
  have hl := congrArg (fun s : String => s.toList.getLast?) h
  simp [anonymousType, anonymousListItem] at hl

/-- The suffixes of an anonymous definition and of a list differ in the letter before `Type`. -/
theorem anonymousType_not_isList (owner : String) : ¬ IsList (anonymousType owner) := by
  rintro ⟨other, h⟩
  have hl := congrArg (fun s : String => s.toList.reverse[4]?) h
  simp [anonymousType, anonymousListType] at hl

end Naming

section TypeName

variable {schemas : Xsd.SchemaSet} {definition : Xsd.TypeDefinition} {fieldName n : String}

/-- A definition is bound under its own name, or under that of an anonymous definition. -/
theorem typeName_eq_ok (h : typeName schemas definition fieldName = .ok n) :
    definition.name = some n ∨ ∃ owner, n = Naming.anonymousType owner := by
  unfold typeName at h
  split at h
  · next hn =>
    cases h
    exact .inl hn
  · split at h
    · cases h
      exact .inr ⟨_, rfl⟩
    · cases h
  · split at h
    · cases h
    · cases h
      exact .inr ⟨_, rfl⟩

/-- A definition with a name is bound under it. -/
theorem typeName_of_name (h : definition.name = some n) :
    typeName schemas definition fieldName = .ok n := by
  unfold typeName
  rw [h]

variable {id : Xsd.TypeId}

/-- No definition is bound under the name of an item of a repeated group. -/
theorem typeName_ne_anonymousListItem (hset : schemas.PlainNames)
    (h : typeName schemas (schemas.type id) fieldName = .ok n) (owner : String) :
    n ≠ Naming.anonymousListItem owner := by
  rcases typeName_eq_ok h with hn | ⟨other, rfl⟩
  · exact Naming.ne_anonymousListItem (hset.type hn) owner
  · exact Naming.anonymousType_ne_anonymousListItem other owner

/-- No definition is bound under the name of a list of repeated content. -/
theorem typeName_not_isList (hset : schemas.PlainNames)
    (h : typeName schemas (schemas.type id) fieldName = .ok n) : ¬ Naming.IsList n := by
  rintro ⟨owner, rfl⟩
  rcases typeName_eq_ok h with hn | ⟨other, heq⟩
  · exact hset.type hn (by simp [Naming.anonymousListType])
  · exact Naming.anonymousType_not_isList other ⟨owner, heq.symm⟩

end TypeName

end SchemaBinding.Binding
