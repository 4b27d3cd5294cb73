import SchemaBinding.Proofs.Binding.Reached
import SchemaBinding.Proofs.Repository.Publication

/-!
# References to built-in types

A reference is looked up by its local name before its namespace counts. So a reference to a built-in
type means a type of a schema if there is one of that name, published or built before, and only else
the primitive that stands for the built-in type. The items of a list type are an exception: if they
are of a built-in type, they are always of the primitive.

## Main results

* `resultOf_load_builtin`: what a reference to a built-in type is bound to
* `not_forall_resultOf_load_builtin`: a built-in type that is bound to one of a schema
-/

namespace SchemaBinding.Binding

open Repository (Primitive Reachable Store TypeRef)
open Xsd (SchemaSet TypeDefinition TypeId)

section Builtin

variable {setting : Setting} {b : Build} {id : TypeId} {n : String}

/-- Binding a built-in type changes nothing. -/
theorem ends_loadStep_builtin (load : Loader)
    (hns : (setting.set.type id).namespaceUri = Xsd.schemaNamespace)
    (hname : (setting.set.type id).name = some n) (fieldName : String) :
    Ends b (loadStep setting load id fieldName) fun res b' => b' = b ∧
      res = match b.scope.lookup? b.store setting.registry n with
        | some found => .ok found
        | none => primitiveFor n := by
  unfold loadStep
  simp only [ends_bind, typeName_of_name hname, ends_liftExcept, ends_lookup?]
  cases b.scope.lookup? b.store setting.registry n with
  | some found => exact ⟨rfl, rfl⟩
  | none =>
    rw [if_pos hns, ends_liftExcept]
    exact ⟨rfl, rfl⟩

/-- The items of a list that are of a built-in type are of its primitive. -/
theorem ends_buildList_builtin {definition : TypeDefinition} {l : String}
    (hl : definition.name = some l)
    (hns : (setting.set.type id).namespaceUri = Xsd.schemaNamespace)
    (hname : (setting.set.type id).name = some n) :
    Ends b (buildList setting definition id) fun res b' =>
      match Primitive.ofBuiltin? n with
      | some p => ∃ list, res = .ok (.list list) ∧ (b'.store.list list).item = .primitive p
      | none => res = .error (.missingItemType l n) := by
  have hdisplay : (setting.set.type id).displayName = n := by
    unfold TypeDefinition.displayName
    rw [hname]
    rfl
  unfold buildList
  rw [hl]
  dsimp only
  rw [if_pos hns, hdisplay]
  cases Primitive.ofBuiltin? n with
  | none => rfl
  | some p => exact ⟨_, rfl, congrArg _ (Store.list_addList _ _)⟩

end Builtin

/-- **What a reference to a built-in type is bound to.** Whatever has been compiled before, and
whatever has been built of the schema, binding the built-in type of a name changes nothing. It gives
the primitive that stands for the type, or says that there is none, just if no type of the name is
published by another schema or built before; and else it gives that type, which is one of a schema.
The items of a list type that are of the built-in type are of the primitive in either case. -/
theorem resultOf_load_builtin {r : Repository} (hr : Reachable r) {set : SchemaSet}
    (hset : set.Accepted) (request : Request) (log : Log) {b : Build}
    (hb : Reached ⟨set, r.registry⟩ (.start r.store request.name log) b) {id : TypeId} {n : String}
    (hns : (set.type id).namespaceUri = Xsd.schemaNamespace)
    (hname : (set.type id).name = some n) (depth : Nat) (fieldName : String) :
    let step := loadWithin ⟨set, r.registry⟩ (depth + 1) id fieldName
    b.after step = b ∧
    (b.resultOf step = primitiveFor n ↔ b.scope.lookup? b.store r.registry n = none) ∧
    (∀ t, b.scope.lookup? b.store r.registry n = some t →
      b.resultOf step = .ok t ∧ b.store.nameOf t = n ∧ ∃ s, b.store.schemaOf? t = some s) ∧
    (∀ definition l, definition.name = some l →
      Ends b (buildList ⟨set, r.registry⟩ definition id) fun res b' =>
        match Primitive.ofBuiltin? n with
        | some p => ∃ list, res = .ok (.list list) ∧ (b'.store.list list).item = .primitive p
        | none => res = .error (.missingItemType l n)) := by
  intro step
  have hsound : Sound r.registry b.store b.scope :=
    hb.sound hset.plainNames (sound_start hr.consistent.fits request.name log)
  obtain ⟨hafter, hresult⟩ : b.after step = b ∧ b.resultOf step =
      match b.scope.lookup? b.store r.registry n with
      | some found => .ok found
      | none => primitiveFor n :=
    @ends_loadStep_builtin ⟨set, r.registry⟩ b id n _ hns hname fieldName
  refine ⟨hafter, ⟨fun hp => ?_, fun hnone => ?_⟩, fun t ht => ?_, fun definition l hl => ?_⟩
  · cases ht : b.scope.lookup? b.store r.registry n with
    | none => rfl
    | some t =>
      obtain ⟨s, hs⟩ := hsound.schemaOf?_of_lookup? ht
      rw [hp, ht] at hresult
      unfold primitiveFor at hresult
      split at hresult
      · cases hresult
        cases hs
      · cases hresult
  · rw [hresult, hnone]
  · rw [hresult, ht]
    exact ⟨rfl, hsound.nameOf_of_lookup? ht, hsound.schemaOf?_of_lookup? ht⟩
  · exact ends_buildList_builtin hl hns hname

/-! ## A captured reference -/

/-- A schema that has a type of its own under the name of a built-in one. The type of the first
element is that type, and the type of the second one is the built-in one. -/
def capturingText : String :=
  "<schema xmlns=\"http://www.w3.org/2001/XMLSchema\" xmlns:t=\"t\" targetNamespace=\"t\">" ++
  "<complexType name=\"string\"/><element name=\"a\" type=\"t:string\"/>" ++
  "<element name=\"b\" type=\"string\"/></schema>"

/-- The set of that schema, as the first one that is compiled. -/
def capturingSetting : Setting := ⟨.ofText capturingText, .empty⟩

/-- The build of that schema when its first element has been bound. -/
def capturingBuild : Build :=
  (Build.start .empty "s" #[]).after (load capturingSetting ⟨46⟩ "a")

theorem reached_capturingBuild :
    Reached capturingSetting (.start .empty "s" #[]) capturingBuild :=
  .loaded _ _ _ .start

section Captured

set_option maxRecDepth 100000

/-- The schema is accepted. When the second element is bound, the name of its type means the complex
type of the schema. -/
theorem capturing_facts :
    (SchemaSet.readText capturingText).isOk = true ∧
    capturingBuild.scope.lookup? capturingBuild.store .empty "string" = some (.complex ⟨0⟩) ∧
    (capturingSetting.set.type ⟨2⟩).namespaceUri = Xsd.schemaNamespace ∧
    (capturingSetting.set.type ⟨2⟩).name = some "string" ∧
    capturingBuild.resultOf (load capturingSetting ⟨2⟩ "b") = .ok (.complex ⟨0⟩) := by
  decide +kernel

theorem accepted_capturing : (SchemaSet.ofText capturingText).Accepted :=
  SchemaSet.accepted_ofText capturing_facts.1

/-- The built-in type is bound to the complex type of the schema. -/
theorem resultOf_load_builtin_capturing :
    capturingBuild.resultOf (loadWithin capturingSetting 1 ⟨2⟩ "b") = .ok (.complex ⟨0⟩) := by
  obtain ⟨-, hlookup, hns, hname, -⟩ := capturing_facts
  exact ((resultOf_load_builtin .empty accepted_capturing ⟨"s", "p", false⟩ #[]
    reached_capturingBuild hns hname 0 "b").2.2.1 _ hlookup).1

/-- References to built-in types are captured: they are not always bound to the primitives that
stand for the types. -/
theorem not_forall_resultOf_load_builtin :
    ¬ ∀ r, Reachable r → ∀ set, SchemaSet.Accepted set → ∀ (request : Request) log b,
      Reached ⟨set, r.registry⟩ (.start r.store request.name log) b → ∀ id n,
      (set.type id).namespaceUri = Xsd.schemaNamespace → (set.type id).name = some n →
      ∀ fieldName, b.resultOf (load ⟨set, r.registry⟩ id fieldName) = primitiveFor n := by
  intro h
  obtain ⟨-, -, hns, hname, hfound⟩ := capturing_facts
  have hprimitive := h .empty .empty _ accepted_capturing ⟨"s", "p", false⟩ #[] capturingBuild
    reached_capturingBuild ⟨2⟩ "string" hns hname "b"
  rw [show load ⟨_, Repository.empty.registry⟩ ⟨2⟩ "b" = load capturingSetting ⟨2⟩ "b" from rfl,
    hfound] at hprimitive
  exact absurd hprimitive (by decide)

end Captured

end SchemaBinding.Binding
