import Mathlib.Data.List.ReduceOption
import SchemaBinding.Proofs.Binding.Loading

/-!
# Sound compilations

The build of a schema starts sound if the published types are what they should be, and binding one
global declaration after the other keeps it so. What comes out is a schema whose types are the scope
of the build, and whose fields have settled types.

## Main definitions

* `Binds`: what binding global declarations promises

## Main results

* `sound_start`: the invariant at the start
* `binds_globalField?`, `binds_declaration`, `binds_globalFields`: global declarations
* `binds_bindSchema`, `types_bindSchema`: the whole build
-/

namespace SchemaBinding.Binding

open Repository (Field Store TypeRef)

variable {setting : Setting} {b b' : Build}

theorem sound_start {store : Store} (h : Fits setting.registry store) (schemaName : String)
    (log : Log) : setting.Sound (.start store schemaName log) :=
  ⟨h, nofun, nofun, nofun, nofun, nofun, nofun, nofun⟩

/-- What binding a global declaration promises: the type of its field is settled. -/
def Binds (setting : Setting) (b : Build) (fields : List Field) (b' : Build) : Prop :=
  Advances setting none b b' ∧ ∀ f ∈ fields, setting.Settled b' f.type

theorem binds_globalField? (declared : String) {field : BuildM Field}
    (hfield : Ends b field fun r b' =>
      Advances setting none b b' ∧ ∀ f, r = .ok f → setting.Settled b' f.type) :
    Passes b (globalField? declared field) fun f b' => Binds setting b f.toList b' := by
  unfold globalField?
  rw [passes_bind, passes_run]
  apply hfield.mono
  rintro (failure | f) b₁ ⟨hadv, hf⟩
  · exact ⟨hadv.quiet rfl rfl, List.forall_mem_nil _⟩
  · refine ⟨hadv, ?_⟩
    rintro _ ⟨⟩
    · exact hf f rfl
    · next hm => cases hm

/-- Declarations one after the other. -/
theorem binds_mapM {α : Type} {step : α → StepM (Option Field)}
    (hstep : ∀ a b, setting.Sound b →
      Passes b (step a) fun f b' => Binds setting b f.toList b') (xs : List α)
    (h : setting.Sound b) :
    Passes b (xs.mapM step) fun fields b' => Binds setting b fields.reduceOption b' := by
  induction xs generalizing b with
  | nil => exact ⟨.refl _ h, List.forall_mem_nil _⟩
  | cons a xs ih =>
    rw [List.mapM_cons]
    simp only [passes_bind, passes_pure]
    apply (hstep a b h).mono
    rintro f b₁ ⟨hadv, hf⟩
    apply (ih hadv.sound).mono
    rintro fields b₂ ⟨hadv', hfields⟩
    refine ⟨hadv.trans hadv', fun g hg => ?_⟩
    cases f with
    | none =>
      rw [List.reduceOption_cons_of_none] at hg
      exact hfields g hg
    | some f =>
      rw [List.reduceOption_cons_of_some] at hg
      rcases List.mem_cons.mp hg with rfl | hg
      · exact hadv'.settled hadv.sound (hf g (by simp))
      · exact hfields g hg

/-- A field is made of a type that has been bound, and nothing else is done. -/
def FieldOfType (field : TypeRef → BuildM Field) : Prop :=
  ∀ t b, Ends b (field t) fun r b' => b' = b ∧ ∀ f, r = .ok f → f.type = t

theorem fieldOfType_elementField (e : Xsd.ElementDeclaration) :
    FieldOfType fun type => do return elementField (← get).store e type :=
  fun _ _ => ⟨rfl, by rintro _ ⟨⟩; rfl⟩

theorem fieldOfType_attributeField (a : Xsd.AttributeDeclaration) :
    FieldOfType fun type => pure (attributeField a type) :=
  fun _ _ => ⟨rfl, by rintro _ ⟨⟩; rfl⟩

/-- A global declaration, the field of which is made of the type that is bound for it. -/
theorem binds_declaration (hset : setting.set.PlainNames) (declared : String) (id : Xsd.TypeId)
    (fieldName : String) {field : TypeRef → BuildM Field} (hfield : FieldOfType field)
    (h : setting.Sound b) :
    Passes b (globalField? declared (load setting id fieldName >>= field)) fun f b' =>
      Binds setting b f.toList b' := by
  apply binds_globalField? declared
  rw [ends_bind]
  apply (loads_load hset b id fieldName h).mono
  rintro (failure | t) b₁ ⟨hadv, ht⟩
  · exact ⟨hadv, ok_of_error⟩
  · apply (hfield t b₁).mono
    rintro r _ ⟨rfl, htype⟩
    exact ⟨hadv, fun f hf => (htype f hf).symm ▸ ht t rfl⟩

/-- All global declarations. -/
theorem binds_globalFields (hset : setting.set.PlainNames) (source : Xsd.Schema)
    (h : setting.Sound b) :
    Passes b (globalFields setting source) (Binds setting b) := by
  unfold globalFields
  simp only [passes_bind, passes_pure]
  apply (binds_mapM (fun _ _ => binds_declaration hset _ _ _ (fieldOfType_elementField _)) _ h).mono
  rintro elements b₁ ⟨hadv, he⟩
  apply (binds_mapM (fun _ _ => binds_declaration hset _ _ _ (fieldOfType_attributeField _)) _
    hadv.sound).mono
  rintro attributes b₂ ⟨hadv', ha⟩
  refine ⟨hadv.trans hadv', fun f hf => ?_⟩
  rcases List.mem_append.mp hf with hf | hf
  · exact hadv'.settled hadv.sound (he f hf)
  · exact ha f hf

/-! ## Schemas -/

section Schema

variable (store : Store) (request : Request) (source : Xsd.Schema) (log : Log)

/-- A schema that is bound, with the build that made it: the types of the schema are those in the
scope, and its fields are of settled types. -/
theorem binds_bindSchema (hset : setting.set.PlainNames) (hf : Fits setting.registry store) :
    Binds setting (.start store request.name log)
      (bindSchema setting store request source log).1.fields
      (bindSchema setting store request source log).2 :=
  binds_globalFields hset source (sound_start hf request.name log)

theorem types_bindSchema :
    (bindSchema setting store request source log).1.types =
      (bindSchema setting store request source log).2.scope.locals :=
  rfl

end Schema

end SchemaBinding.Binding
