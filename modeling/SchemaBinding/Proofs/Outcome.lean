import Mathlib.Data.List.Forall2
import SchemaBinding.Error

/-!
# Outcomes of steps

What can be said of a step over a state when it has been run: of its result, and of the state in
which it ends. A step that may fail keeps what it has changed by then, so what is said of it is said
of its failures too. The rules follow the way in which steps are put together.

## Main definitions

* `Passes s step post`: `post` holds of the result and the final state of a step run from `s`
* `Ends s step post`: the same of a step that may fail
* `Returns s step post`: the same of a step that may fail, unless it does
* `Keeps I step`: the step leads from states with `I` to states with `I`
* `Simulates R P step step'`: if the one step succeeds, so does the other one

## Main results

* `ends_bind`, `ends_pure`, `ends_throw`, …: rules
* `Ends.mono`, `Ends.and`: consequences of what is known of a step
* `returns_bind`, `returns_pure`, …: the same rules for steps that do not fail
* `ends_mapM`, `ends_mapM_of_keeps`, `returns_mapM`: what comes of steps that are taken one after
  the other
* `Keeps.bind`, `keeps_mapM`, …: steps put together of steps that keep an invariant
* `Simulates.bind`, `simulates_forM`, …: two runs of steps that are put together alike
-/

namespace SchemaBinding

variable {σ ε α β : Type}

/-- A step that cannot fail, run from `s`, ends with a result and a state for which `post`
holds. -/
def Passes (s : σ) (step : StateM σ α) (post : α → σ → Prop) : Prop :=
  post (step.run s).1 (step.run s).2

/-- A step that may fail, run from `s`, ends with a result or a failure and a state for which
`post` holds. -/
def Ends (s : σ) (step : ExceptT ε (StateM σ) α) (post : Except ε α → σ → Prop) : Prop :=
  Passes s step.run post

/-- Nothing is asked of the result of what has none. -/
theorem ok_of_error {P : α → Prop} {e : ε} (a : α) (h : Except.error e = Except.ok a) : P a := by
  cases h

/-- Nothing is asked of the failure of what has a result. -/
theorem error_of_ok {P : ε → Prop} {a : α} (e : ε) (h : Except.ok a = Except.error e) : P e := by
  cases h

/-- Nothing is asked of what is not there. -/
theorem some_of_none {P : α → Prop} (a : α) (h : none = some a) : P a := by
  cases h

/-- What holds of a value holds of all that is there, if that is the value. -/
theorem some_of_some {P : α → Prop} {a : α} (ha : P a) (b : α) (h : some a = some b) : P b := by
  obtain rfl := Option.some.inj h
  exact ha

theorem eq_ok_of_toOption {x : Except ε α} {a : α} (h : x.toOption = some a) : x = .ok a := by
  cases x with
  | ok found => exact congrArg Except.ok (Option.some.inj h)
  | error e => cases h

/-- A result that is there is what is found if it is. -/
theorem eq_ok_getD_of_isOk {x : Except ε α} (h : x.isOk = true) (a : α) :
    x = .ok (x.toOption.getD a) := by
  cases x with
  | ok found => rfl
  | error e => cases h

/-- Two results are the same but for the failures if they are when one of them succeeds. -/
theorem toOption_eq_of_iff {x x' : Except ε α} (h : ∀ a, x = .ok a ↔ x' = .ok a) :
    x.toOption = x'.toOption := by
  cases x with
  | ok a => rw [(h a).mp rfl]
  | error e =>
    cases x' with
    | error e' => rfl
    | ok a => cases (h a).mpr rfl

/-- Two results are the same up to `f` if one of them succeeds when the other one does. -/
theorem toOption_map_eq {x x' : Except ε α} {f : α → β}
    (h : ∀ a, x = .ok a → ∃ b, x' = .ok b ∧ f b = f a)
    (h' : ∀ b, x' = .ok b → ∃ a, x = .ok a ∧ f a = f b) :
    x.toOption.map f = x'.toOption.map f := by
  cases x with
  | ok a =>
    obtain ⟨b, rfl, hb⟩ := h a rfl
    exact congrArg some hb.symm
  | error e =>
    cases x' with
    | error e' => rfl
    | ok b =>
      obtain ⟨a, ha, -⟩ := h' b rfl
      cases ha

/-- A computation that goes on after another one has a result just if both have. -/
theorem bind_eq_ok_iff {x : Except ε α} {f : α → Except ε β} {b : β} :
    x >>= f = .ok b ↔ ∃ a, x = .ok a ∧ f a = .ok b := by
  cases x with
  | error e => exact ⟨nofun, fun ⟨_, h, _⟩ => nomatch h⟩
  | ok a => exact ⟨fun h => ⟨a, rfl, h⟩, fun ⟨_, h, hf⟩ => Except.ok.inj h ▸ hf⟩

/-- A computation that goes on after another one fails just if one of them does. -/
theorem bind_eq_error_iff {x : Except ε α} {f : α → Except ε β} {e : ε} :
    x >>= f = .error e ↔ x = .error e ∨ ∃ a, x = .ok a ∧ f a = .error e := by
  cases x with
  | error e' =>
    refine ⟨fun h => .inl (congrArg Except.error (Except.error.inj h)), ?_⟩
    rintro (h | ⟨_, h, -⟩)
    · exact congrArg Except.error (Except.error.inj h)
    · cases h
  | ok a => exact ⟨fun h => .inr ⟨a, rfl, h⟩, fun | .inr ⟨_, h, hf⟩ => Except.ok.inj h ▸ hf⟩

/-- A fold fails only as one of its steps does. -/
theorem of_foldlM_eq_error {E : ε → Prop} {f : β → α → Except ε β} {xs : List α} {b : β} {e : ε}
    (hf : ∀ a ∈ xs, ∀ b e, f b a = .error e → E e) (h : xs.foldlM f b = .error e) : E e := by
  induction xs generalizing b with
  | nil => cases h
  | cons a xs ih =>
    rw [List.foldlM_cons] at h
    rcases bind_eq_error_iff.mp h with h | ⟨mid, -, h⟩
    · exact hf a List.mem_cons_self b e h
    · exact ih (fun a' ha' => hf a' (List.mem_cons_of_mem a ha')) h

/-- What every step of a fold keeps is kept by the fold. -/
theorem of_foldlM {P : β → Prop} {f : β → α → Except ε β} {xs : List α} {b c : β} (hb : P b)
    (hf : ∀ a ∈ xs, ∀ b c, P b → f b a = .ok c → P c) (h : xs.foldlM f b = .ok c) : P c := by
  induction xs generalizing b with
  | nil =>
    cases h
    exact hb
  | cons a xs ih =>
    rw [List.foldlM_cons] at h
    obtain ⟨mid, hmid, h⟩ := bind_eq_ok_iff.mp h
    exact ih (hf a List.mem_cons_self b mid hb hmid)
      (fun a' ha' => hf a' (List.mem_cons_of_mem a ha')) h

section Rules

variable {s : σ} {post : Except ε α → σ → Prop}

theorem Passes.mono {step : StateM σ α} {p q : α → σ → Prop} (h : Passes s step p)
    (hpq : ∀ a s', p a s' → q a s') : Passes s step q :=
  hpq _ _ h

theorem Passes.and {step : StateM σ α} {p q : α → σ → Prop} (hp : Passes s step p)
    (hq : Passes s step q) : Passes s step fun a s' => p a s' ∧ q a s' :=
  ⟨hp, hq⟩

theorem Ends.mono {step : ExceptT ε (StateM σ) α} {p q : Except ε α → σ → Prop}
    (h : Ends s step p) (hpq : ∀ r s', p r s' → q r s') : Ends s step q :=
  hpq _ _ h

theorem Ends.and {step : ExceptT ε (StateM σ) α} {p q : Except ε α → σ → Prop}
    (hp : Ends s step p) (hq : Ends s step q) : Ends s step fun r s' => p r s' ∧ q r s' :=
  ⟨hp, hq⟩

/-! ## Steps that cannot fail -/

@[simp] theorem passes_pure {a : α} {post : α → σ → Prop} : Passes s (pure a) post ↔ post a s :=
  Iff.rfl

@[simp] theorem passes_bind {x : StateM σ α} {f : α → StateM σ β} {post : β → σ → Prop} :
    Passes s (x >>= f) post ↔ Passes s x fun a s' => Passes s' (f a) post :=
  Iff.rfl

@[simp] theorem passes_get {post : σ → σ → Prop} :
    Passes s (get : StateM σ σ) post ↔ post s s :=
  Iff.rfl

/-- A step that may fail passes with its result as an ordinary value. -/
@[simp] theorem passes_run {x : ExceptT ε (StateM σ) α} : Passes s x.run post ↔ Ends s x post :=
  Iff.rfl

/-- An invariant that each step keeps is kept by all of them. -/
theorem passes_mapM {I : σ → Prop} {f : α → StateM σ β} {xs : List α}
    (hf : ∀ a s, I s → Passes s (f a) fun _ s' => I s') (hs : I s) :
    Passes s (xs.mapM f) fun _ s' => I s' := by
  induction xs generalizing s with
  | nil => exact hs
  | cons a xs ih =>
    rw [List.mapM_cons]
    simp only [passes_bind, passes_pure]
    apply (hf a s hs).mono
    exact fun _ s' hs' => ih hs'

/-! ## Steps that may fail -/

@[simp] theorem ends_pure {a : α} : Ends s (pure a) post ↔ post (.ok a) s := Iff.rfl

@[simp] theorem ends_throw {e : ε} : Ends s (throw e) post ↔ post (.error e) s := Iff.rfl

/-- What follows a step is run unless the step fails. -/
@[simp] theorem ends_bind {x : ExceptT ε (StateM σ) β} {f : β → ExceptT ε (StateM σ) α} :
    Ends s (x >>= f) post ↔ Ends s x fun r s' =>
      match r with
      | .ok a => Ends s' (f a) post
      | .error e => post (.error e) s' := by
  unfold Ends
  rw [ExceptT.run_bind, passes_bind]
  refine Iff.of_eq (congrArg (Passes s x.run) ?_)
  funext r s'
  cases r <;> rfl

/-- If nothing depends on what a step brings about, what follows it has to be looked at only. -/
theorem ends_bind_of_forall {x : ExceptT ε (StateM σ) β} {f : β → ExceptT ε (StateM σ) α}
    (hf : ∀ b s', Ends s' (f b) post) (he : ∀ e s', post (.error e) s') : Ends s (x >>= f) post := by
  rw [ends_bind]
  unfold Ends Passes
  cases (x.run.run s).1 with
  | ok b => exact hf b _
  | error e => exact he e _

@[simp] theorem ends_map {x : ExceptT ε (StateM σ) β} {f : β → α} :
    Ends s (f <$> x) post ↔ Ends s x fun r s' => post (r.map f) s' := by
  rw [map_eq_pure_bind, ends_bind]
  refine Iff.of_eq (congrArg (Ends s x) ?_)
  funext r s'
  cases r <;> rfl

@[simp] theorem ends_get {post : Except ε σ → σ → Prop} :
    Ends s (get : ExceptT ε (StateM σ) σ) post ↔ post (.ok s) s :=
  Iff.rfl

@[simp] theorem ends_set {s' : σ} {post : Except ε PUnit → σ → Prop} :
    Ends s (set s' : ExceptT ε (StateM σ) PUnit) post ↔ post (.ok ⟨⟩) s' :=
  Iff.rfl

@[simp] theorem ends_modify {f : σ → σ} {post : Except ε PUnit → σ → Prop} :
    Ends s (modify f : ExceptT ε (StateM σ) PUnit) post ↔ post (.ok ⟨⟩) (f s) :=
  Iff.rfl

/-- A computation without state has the result that it has. -/
@[simp] theorem ends_liftExcept {x : Except ε α} :
    Ends s (liftM x : ExceptT ε (StateM σ) α) post ↔ post x s :=
  Iff.rfl

/-- A step that cannot fail does not fail among steps that may. -/
@[simp] theorem ends_liftState {x : StateM σ α} :
    Ends s (liftM x : ExceptT ε (StateM σ) α) post ↔ Passes s x fun a s' => post (.ok a) s' :=
  Iff.rfl

end Rules

/-- What comes out of one step after another, if all of them succeed: each result is that of a step,
and each step has a result. -/
theorem ends_mapM {I : σ → Prop} {R : α → β → Prop} {f : α → ExceptT ε (StateM σ) β} {xs : List α}
    {s : σ} (hf : ∀ a s, I s → Ends s (f a) fun r s' => I s' ∧ ∀ b, r = .ok b → R a b) (hs : I s) :
    Ends s (xs.mapM f) fun r s' => I s' ∧ ∀ bs, r = .ok bs →
      (∀ a ∈ xs, ∃ b ∈ bs, R a b) ∧ ∀ b ∈ bs, ∃ a ∈ xs, R a b := by
  induction xs generalizing s with
  | nil =>
    refine ⟨hs, ?_⟩
    rintro _ ⟨⟩
    exact ⟨nofun, nofun⟩
  | cons a xs ih =>
    rw [List.mapM_cons, ends_bind]
    apply (hf a s hs).mono
    rintro (e | b) s₁ ⟨hs₁, hb⟩
    · exact ⟨hs₁, nofun⟩
    · dsimp only
      rw [ends_bind]
      apply (ih hs₁).mono
      rintro (e | bs) s₂ ⟨hs₂, hbs⟩
      · exact ⟨hs₂, nofun⟩
      · refine ⟨hs₂, ?_⟩
        rintro _ ⟨⟩
        obtain ⟨hxs, hbs⟩ := hbs bs rfl
        have hb := hb b rfl
        constructor
        · intro a' ha'
          rcases List.mem_cons.mp ha' with rfl | ha'
          · exact ⟨b, List.mem_cons_self, hb⟩
          · obtain ⟨b', hb', hr⟩ := hxs a' ha'
            exact ⟨b', List.mem_cons_of_mem b hb', hr⟩
        · intro b' hb'
          rcases List.mem_cons.mp hb' with rfl | hb'
          · exact ⟨a, List.mem_cons_self, hb⟩
          · obtain ⟨a', ha', hr⟩ := hbs b' hb'
            exact ⟨a', List.mem_cons_of_mem a ha', hr⟩

/-! ## Steps that do not fail -/

/-- A step that may fail, run from `s`, fails or ends with a result and a state for which `post`
holds. -/
structure Returns (s : σ) (step : ExceptT ε (StateM σ) α) (post : α → σ → Prop) : Prop where
  ends : Ends s step fun r s' => ∀ a, r = .ok a → post a s'

section Returns

variable {s : σ} {post : α → σ → Prop}

theorem Returns.mono {step : ExceptT ε (StateM σ) α} {p q : α → σ → Prop} (h : Returns s step p)
    (hpq : ∀ a s', p a s' → q a s') : Returns s step q :=
  ⟨h.ends.mono fun _ s' hp a ha => hpq a s' (hp a ha)⟩

/-- What is known of a step that has been run. -/
theorem Returns.of_run {step : ExceptT ε (StateM σ) α} {a : α} {s' : σ} (h : Returns s step post)
    (hrun : step.run.run s = (.ok a, s')) : post a s' := by
  have hends := h.ends
  unfold Ends Passes at hends
  rw [hrun] at hends
  exact hends a rfl

@[simp] theorem returns_pure {a : α} :
    Returns s (pure a : ExceptT ε (StateM σ) α) post ↔ post a s :=
  ⟨fun h => h.ends a rfl, fun h => ⟨fun _ ha => Except.ok.inj ha ▸ h⟩⟩

@[simp] theorem returns_throw {e : ε} : Returns s (throw e : ExceptT ε (StateM σ) α) post :=
  ⟨nofun⟩

/-- What is returned in the end is returned by the second step, after the first one has returned. -/
@[simp] theorem returns_bind {x : ExceptT ε (StateM σ) β} {f : β → ExceptT ε (StateM σ) α} :
    Returns s (x >>= f) post ↔ Returns s x fun b s' => Returns s' (f b) post := by
  constructor
  · rintro ⟨h⟩
    rw [ends_bind] at h
    refine ⟨h.mono ?_⟩
    rintro _ s' hb b rfl
    exact ⟨hb⟩
  · rintro ⟨h⟩
    refine ⟨?_⟩
    rw [ends_bind]
    apply h.mono
    rintro (_ | b) s' hb
    · exact nofun
    · exact (hb b rfl).ends

@[simp] theorem returns_map {x : ExceptT ε (StateM σ) β} {f : β → α} :
    Returns s (f <$> x) post ↔ Returns s x fun b s' => post (f b) s' := by
  rw [map_eq_pure_bind, returns_bind]
  simp only [returns_pure]

@[simp] theorem returns_get {post : σ → σ → Prop} :
    Returns s (get : ExceptT ε (StateM σ) σ) post ↔ post s s :=
  ⟨fun h => h.ends s rfl, fun h => ⟨fun _ hs => Except.ok.inj hs ▸ h⟩⟩

@[simp] theorem returns_modify {f : σ → σ} {post : PUnit → σ → Prop} :
    Returns s (modify f : ExceptT ε (StateM σ) PUnit) post ↔ post ⟨⟩ (f s) :=
  ⟨fun h => h.ends ⟨⟩ rfl, fun h => ⟨fun _ _ => h⟩⟩

/-- A computation without state leaves the state as it is, if it returns. -/
@[simp] theorem returns_liftExcept {x : Except ε α} :
    Returns s (liftM x : ExceptT ε (StateM σ) α) post ↔ ∀ a, x = .ok a → post a s :=
  ⟨fun h => h.ends, fun h => ⟨h⟩⟩

/-- What steps bring about that are taken one after the other: `P` is known of each step with its
result, and `Q` of several steps with their results. -/
theorem returns_mapM {I : σ → Prop} {P : α → β → σ → σ → Prop}
    {Q : List α → List β → σ → σ → Prop} {f : α → ExceptT ε (StateM σ) β} {xs : List α} {s : σ}
    (hnil : ∀ s, I s → Q [] [] s s)
    (hcons : ∀ a as b bs s s' s'', P a b s s' → Q as bs s' s'' → Q (a :: as) (b :: bs) s s'')
    (hf : ∀ a ∈ xs, ∀ s, I s → Returns s (f a) fun b s' => I s' ∧ P a b s s') (hs : I s) :
    Returns s (xs.mapM f) fun bs s' => I s' ∧ Q xs bs s s' := by
  induction xs generalizing s with
  | nil =>
    rw [List.mapM_nil, returns_pure]
    exact ⟨hs, hnil s hs⟩
  | cons a xs ih =>
    rw [List.mapM_cons, returns_bind]
    apply (hf a List.mem_cons_self s hs).mono
    rintro b s₁ ⟨hs₁, hb⟩
    rw [returns_bind]
    apply (ih (fun a' ha' => hf a' (List.mem_cons_of_mem _ ha')) hs₁).mono
    rintro bs s₂ ⟨hs₂, hbs⟩
    rw [returns_pure]
    exact ⟨hs₂, hcons a xs b bs s s₁ s₂ hb hbs⟩

end Returns

/-- What comes after a step is run where the step ends, unless it fails. -/
theorem run_bind_eq {x : ExceptT ε (StateM σ) α} {f : α → ExceptT ε (StateM σ) β} {s : σ} :
    (x >>= f).run.run s = match x.run.run s with
      | (.ok a, t) => (f a).run.run t
      | (.error e, t) => (.error e, t) := by
  rw [ExceptT.run_bind, StateT.run_bind]
  show ((match (x.run.run s).1 with
    | .ok a => (f a).run
    | .error e => pure (.error e)) : StateM σ (Except ε β)).run (x.run.run s).2 = _
  rcases x.run.run s with ⟨e | a, t⟩ <;> rfl

/-- One step after another succeeds if each of them does. -/
theorem run_bind_eq_ok_iff {x : ExceptT ε (StateM σ) α} {f : α → ExceptT ε (StateM σ) β} {s s' : σ}
    {b : β} : (x >>= f).run.run s = (.ok b, s') ↔
      ∃ a s₁, x.run.run s = (.ok a, s₁) ∧ (f a).run.run s₁ = (.ok b, s') := by
  rw [run_bind_eq]
  rcases x.run.run s with ⟨e | a, s₁⟩
  · refine ⟨nofun, ?_⟩
    rintro ⟨a, s₁, h, -⟩
    cases h
  · refine ⟨fun h => ⟨a, s₁, rfl, h⟩, ?_⟩
    rintro ⟨a, s₁, h, hf⟩
    cases h
    exact hf

/-- A computation without state goes on with its result. -/
theorem run_liftExcept_bind_eq_ok_iff {x : Except ε α} {f : α → ExceptT ε (StateM σ) β} {s s' : σ}
    {b : β} : ((liftM x : ExceptT ε (StateM σ) α) >>= f).run.run s = (.ok b, s') ↔
      ∃ a, x = .ok a ∧ (f a).run.run s = (.ok b, s') := by
  cases x with
  | error e =>
    refine ⟨nofun, ?_⟩
    rintro ⟨a, h, -⟩
    cases h
  | ok a =>
    refine ⟨fun h => ⟨a, rfl, h⟩, ?_⟩
    rintro ⟨_, h, hf⟩
    cases h
    exact hf

/-! ## Invariants -/

/-- A step leads from states in which `I` holds to such states, whether it fails or not. -/
def Keeps (I : σ → Prop) (step : ExceptT ε (StateM σ) α) : Prop :=
  ∀ s, I s → Ends s step fun _ s' => I s'

section Keeps

variable {I : σ → Prop}

theorem keeps_pure (a : α) : Keeps I (pure a : ExceptT ε (StateM σ) α) := fun _ h => h

theorem keeps_throw (e : ε) : Keeps I (throw e : ExceptT ε (StateM σ) α) := fun _ h => h

theorem keeps_get : Keeps I (get : ExceptT ε (StateM σ) σ) := fun _ h => h

theorem keeps_liftExcept (x : Except ε α) : Keeps I (liftM x : ExceptT ε (StateM σ) α) :=
  fun _ h => h

theorem keeps_modify {f : σ → σ} (hf : ∀ s, I s → I (f s)) :
    Keeps I (modify f : ExceptT ε (StateM σ) PUnit) :=
  hf

theorem Keeps.bind {x : ExceptT ε (StateM σ) α} {f : α → ExceptT ε (StateM σ) β}
    (hx : Keeps I x) (hf : ∀ a, Keeps I (f a)) : Keeps I (x >>= f) := by
  intro s hs
  rw [ends_bind]
  apply (hx s hs).mono
  intro r s' hs'
  cases r with
  | ok a => exact hf a s' hs'
  | error e => exact hs'

/-- What a step that is part of another monad gives is known when it goes on. -/
theorem keeps_bind_of_eq_ok {x : Except ε α} {f : α → ExceptT ε (StateM σ) β}
    (hf : ∀ a, x = .ok a → Keeps I (f a)) :
    Keeps I ((liftM x : ExceptT ε (StateM σ) α) >>= f) := by
  intro s hs
  rw [ends_bind, ends_liftExcept]
  cases h : x with
  | error e => exact hs
  | ok a => exact hf a h s hs

theorem Keeps.map {x : ExceptT ε (StateM σ) α} (f : α → β) (hx : Keeps I x) :
    Keeps I (f <$> x) := by
  intro s hs
  rw [ends_map]
  exact hx s hs

theorem Keeps.ite {c : Prop} [Decidable c] {x y : ExceptT ε (StateM σ) α} (hx : c → Keeps I x)
    (hy : ¬ c → Keeps I y) : Keeps I (if c then x else y) := by
  split
  · next h => exact hx h
  · next h => exact hy h

/-- Invariants that are kept one by one are kept together. -/
theorem Keeps.all {ι : Type} {P : ι → σ → Prop} {is : List ι} {step : ExceptT ε (StateM σ) α}
    (h : ∀ i ∈ is, Keeps (P i) step) : Keeps (fun s => ∀ i ∈ is, P i s) step :=
  fun s hs i hi => h i hi s (hs i hi)

/-- An invariant is kept by a list of steps if each of them keeps it. -/
theorem keeps_mapM {f : α → ExceptT ε (StateM σ) β} {xs : List α} (hf : ∀ a ∈ xs, Keeps I (f a)) :
    Keeps I (xs.mapM f) := by
  induction xs with
  | nil => exact keeps_pure _
  | cons a xs ih =>
    rw [List.mapM_cons]
    apply (hf a List.mem_cons_self).bind
    intro b
    exact (ih fun a' ha' => hf a' (List.mem_cons_of_mem _ ha')).bind fun bs => keeps_pure _

/-- What each step brings about, and no step undoes, holds at the end if all steps succeed. -/
theorem ends_mapM_of_keeps {Q : α → σ → Prop} {f : α → ExceptT ε (StateM σ) β} {xs : List α}
    {s : σ} (hkeeps : ∀ a a', Keeps (Q a) (f a'))
    (hf : ∀ a s, Ends s (f a) fun r s' => ∀ b, r = .ok b → Q a s') :
    Ends s (xs.mapM f) fun r s' => ∀ bs, r = .ok bs → ∀ a ∈ xs, Q a s' := by
  induction xs generalizing s with
  | nil => exact fun _ _ => nofun
  | cons a xs ih =>
    rw [List.mapM_cons, ends_bind]
    apply (hf a s).mono
    rintro (e | b) s₁ hb
    · exact nofun
    · dsimp only
      rw [ends_bind]
      have hkept : Ends s₁ (xs.mapM f) fun _ s₂ => Q a s₂ :=
        keeps_mapM (fun a' _ => hkeeps a a') s₁ (hb b rfl)
      apply (hkept.and ih).mono
      rintro (e | bs) s₂ ⟨ha, hxs⟩
      · exact nofun
      · rintro _ ⟨⟩ a' ha'
        rcases List.mem_cons.mp ha' with rfl | ha'
        · exact ha
        · exact hxs bs rfl a' ha'

theorem keeps_forM {f : α → ExceptT ε (StateM σ) PUnit} {xs : List α}
    (hf : ∀ a ∈ xs, Keeps I (f a)) : Keeps I (xs.forM f) := by
  induction xs with
  | nil => exact keeps_pure _
  | cons a xs ih =>
    show Keeps I (f a >>= fun _ => xs.forM f)
    apply (hf a List.mem_cons_self).bind
    intro _
    exact ih fun a' ha' => hf a' (List.mem_cons_of_mem _ ha')

end Keeps

/-! ## Two runs -/

/-- If a step succeeds, so does another one from a related state; the results are related, and so
are the states afterwards. -/
def Simulates (R : σ → σ → Prop) (P : α → β → Prop) (x : ExceptT ε (StateM σ) α)
    (x' : ExceptT ε (StateM σ) β) : Prop :=
  ∀ s s' a t, R s s' → x.run.run s = (.ok a, t) →
    ∃ b t', x'.run.run s' = (.ok b, t') ∧ R t t' ∧ P a b

section Simulates

variable {R : σ → σ → Prop} {P : α → β → Prop}

theorem simulates_pure {a : α} {b : β} (h : P a b) :
    Simulates R P (pure a : ExceptT ε (StateM σ) α) (pure b) := by
  intro s s' _ _ hs hrun
  cases hrun
  exact ⟨b, s', rfl, hs, h⟩

theorem simulates_throw {e : ε} {x' : ExceptT ε (StateM σ) β} :
    Simulates R P (throw e : ExceptT ε (StateM σ) α) x' := by
  intro s s' _ _ _ hrun
  cases hrun

theorem simulates_modify {f f' : σ → σ} (h : ∀ s s', R s s' → R (f s) (f' s')) :
    Simulates R (fun _ _ => True) (modify f : ExceptT ε (StateM σ) PUnit) (modify f') := by
  intro s s' _ _ hs hrun
  cases hrun
  exact ⟨⟨⟩, f' s', rfl, h s s' hs, trivial⟩

theorem simulates_liftExcept {x : Except ε α} {x' : Except ε β}
    (h : ∀ a, x = .ok a → ∃ b, x' = .ok b ∧ P a b) :
    Simulates R P (liftM x : ExceptT ε (StateM σ) α) (liftM x') := by
  intro s s' a t hs hrun
  cases x with
  | error e => cases hrun
  | ok found =>
    cases hrun
    obtain ⟨b, hb, hP⟩ := h a rfl
    exact ⟨b, s', by rw [hb]; rfl, hs, hP⟩

theorem Simulates.bind {α' β' : Type} {Q : α' → β' → Prop} {x : ExceptT ε (StateM σ) α}
    {x' : ExceptT ε (StateM σ) β} {f : α → ExceptT ε (StateM σ) α'}
    {f' : β → ExceptT ε (StateM σ) β'} (hx : Simulates R P x x')
    (hf : ∀ a b, P a b → Simulates R Q (f a) (f' b)) : Simulates R Q (x >>= f) (x' >>= f') := by
  intro s s' c t hs hrun
  obtain ⟨a, s₁, hrun₁, hrun₂⟩ := run_bind_eq_ok_iff.mp hrun
  obtain ⟨b, s₁', hrun₁', hs₁, hP⟩ := hx s s' a s₁ hs hrun₁
  obtain ⟨c', t', hrun₂', ht, hQ⟩ := hf a b hP s₁ s₁' c t hs₁ hrun₂
  exact ⟨c', t', run_bind_eq_ok_iff.mpr ⟨b, s₁', hrun₁', hrun₂'⟩, ht, hQ⟩

/-- What goes on may depend on the states. -/
theorem simulates_get_bind {f : σ → ExceptT ε (StateM σ) α} {f' : σ → ExceptT ε (StateM σ) β}
    (h : ∀ s s', R s s' → Simulates R P (f s) (f' s')) : Simulates R P (get >>= f) (get >>= f') :=
  fun s s' a t hs hrun => h s s' hs s s' a t hs hrun

/-- Steps with the same result may go on alike. -/
theorem Simulates.seq {γ δ : Type} {Q : γ → δ → Prop} {x x' : ExceptT ε (StateM σ) α}
    {f : α → ExceptT ε (StateM σ) γ} {f' : α → ExceptT ε (StateM σ) δ} (hx : Simulates R Eq x x')
    (hf : ∀ a, Simulates R Q (f a) (f' a)) : Simulates R Q (x >>= f) (x' >>= f') :=
  hx.bind fun a _ h => h ▸ hf a

theorem Simulates.map {x x' : ExceptT ε (StateM σ) α} (hx : Simulates R Eq x x') (f : α → β) :
    Simulates R Eq (f <$> x) (f <$> x') := by
  rw [map_eq_pure_bind, map_eq_pure_bind]
  exact hx.seq fun a => simulates_pure rfl

/-- A computation without state is only asked to succeed. -/
theorem simulates_lift {x x' : Except ε α} (h : ∀ a, x = .ok a → x' = .ok a) :
    Simulates R Eq (liftM x : ExceptT ε (StateM σ) α) (liftM x') :=
  simulates_liftExcept fun a ha => ⟨a, h a ha, rfl⟩

theorem simulates_ite {c : Prop} [Decidable c] {x y : ExceptT ε (StateM σ) α}
    {x' y' : ExceptT ε (StateM σ) β} (hx : c → Simulates R P x x') (hy : ¬ c → Simulates R P y y') :
    Simulates R P (if c then x else y) (if c then x' else y') := by
  split
  · next h => exact hx h
  · next h => exact hy h

section Lists

variable {ι κ : Type} {T : ι → κ → Prop} {is : List ι} {is' : List κ}

/-- Lists of steps are simulated if they are as long and each step is simulated by the one at its
place. -/
theorem simulates_mapM {f : ι → ExceptT ε (StateM σ) α} {f' : κ → ExceptT ε (StateM σ) α}
    (his : List.Forall₂ T is is') (h : ∀ i i', T i i' → Simulates R Eq (f i) (f' i')) :
    Simulates R Eq (is.mapM f) (is'.mapM f') := by
  induction his with
  | nil => exact simulates_pure rfl
  | cons hi _ ih =>
    rw [List.mapM_cons, List.mapM_cons]
    exact (h _ _ hi).seq fun a => ih.seq fun as => simulates_pure rfl

theorem simulates_forM {f : ι → ExceptT ε (StateM σ) PUnit} {f' : κ → ExceptT ε (StateM σ) PUnit}
    (his : List.Forall₂ T is is')
    (h : ∀ i i', T i i' → Simulates R (fun _ _ => True) (f i) (f' i')) :
    Simulates R (fun _ _ => True) (is.forM f) (is'.forM f') := by
  induction his with
  | nil => exact simulates_pure trivial
  | cons hi _ ih => exact (h _ _ hi).bind fun _ _ _ => ih

end Lists

end Simulates

end SchemaBinding
