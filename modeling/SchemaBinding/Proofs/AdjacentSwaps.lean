import Mathlib.Data.List.Forall2
import Mathlib.Logic.Relation

/-!
# Neighbours in lists

A list is put in another order by having neighbours change places, one pair after the other. Where
two elements of some kind never change places, all orders can be reached in which the elements of
that kind are in the order in which they were.

## Main definitions

* `AdjacentSwap`: two neighbours change places

## Main results

* `reflTransGen_flatMap`: lists that are put together from lists in other orders
* `reflTransGen_of_perm`: the orders that can be reached
-/

namespace SchemaBinding

open Relation (ReflTransGen)

/-- Two neighbours in a list, which may do so, change places. -/
inductive AdjacentSwap {α : Type} (free : α → α → Prop) : List α → List α → Prop
  | swap (before after : List α) {x y : α} : free x y →
      AdjacentSwap free (before ++ x :: y :: after) (before ++ y :: x :: after)

variable {α β : Type} {free : α → α → Prop} {free' : β → β → Prop} {l l' : List α}

namespace AdjacentSwap

theorem map {f : α → β} (hf : ∀ x y, free x y → free' (f x) (f y)) (h : AdjacentSwap free l l') :
    AdjacentSwap free' (l.map f) (l'.map f) := by
  obtain ⟨before, after, hfree⟩ := h
  simp only [List.map_append, List.map_cons]
  exact .swap _ _ (hf _ _ hfree)

theorem append_left (front : List α) (h : AdjacentSwap free l l') :
    AdjacentSwap free (front ++ l) (front ++ l') := by
  obtain ⟨before, after, hfree⟩ := h
  rw [← List.append_assoc, ← List.append_assoc]
  exact .swap _ _ hfree

theorem append_right (back : List α) (h : AdjacentSwap free l l') :
    AdjacentSwap free (l ++ back) (l' ++ back) := by
  obtain ⟨before, after, hfree⟩ := h
  rw [List.append_assoc, List.append_assoc]
  exact .swap _ _ hfree

end AdjacentSwap

theorem reflTransGen_append {k k' : List α} (h : ReflTransGen (AdjacentSwap free) l l')
    (h' : ReflTransGen (AdjacentSwap free) k k') :
    ReflTransGen (AdjacentSwap free) (l ++ k) (l' ++ k') :=
  (h.lift (· ++ k) fun _ _ hswap => hswap.append_right k).trans
    (h'.lift (l' ++ ·) fun _ _ hswap => hswap.append_left l')

/-- The lists that each element brings may be in another order. -/
theorem reflTransGen_flatMap {γ : Type} {R : γ → γ → Prop} {f : γ → List α} {as bs : List γ}
    (h : List.Forall₂ R as bs) (hf : ∀ a b, R a b → ReflTransGen (AdjacentSwap free) (f a) (f b)) :
    ReflTransGen (AdjacentSwap free) (as.flatMap f) (bs.flatMap f) := by
  induction h with
  | nil => exact .refl
  | cons hab _ ih =>
    rw [List.flatMap_cons, List.flatMap_cons]
    exact reflTransGen_append (hf _ _ hab) ih

/-- An element changes places with those after it, one after the other. -/
theorem reflTransGen_insert {x : α} {front : List α} (back : List α)
    (h : ∀ y ∈ front, free x y) :
    ReflTransGen (AdjacentSwap free) (x :: (front ++ back)) (front ++ x :: back) := by
  induction front with
  | nil => exact .refl
  | cons y front ih =>
    refine .head (.swap [] (front ++ back) (h y List.mem_cons_self)) ?_
    exact (ih fun z hz => h z (List.mem_cons_of_mem y hz)).lift (y :: ·)
      fun _ _ hswap => hswap.append_left [y]

/-- Where an element stands in another order. None of those before it is of its kind, if it is the
first one of the kind. -/
theorem exists_append_of_perm {p : α → Prop} [DecidablePred p] {x : α} (h : (x :: l).Perm l')
    (hfilter : (x :: l).filter p = l'.filter p) :
    ∃ front back, l' = front ++ x :: back ∧ (∀ y ∈ front, ¬ (p x ∧ p y)) ∧
      l.filter p = (front ++ back).filter p := by
  by_cases hx : p x
  · rw [List.filter_cons_of_pos (by simpa using hx), eq_comm, List.filter_eq_cons_iff] at hfilter
    obtain ⟨front, back, rfl, hfront, -, hback⟩ := hfilter
    have hnone : front.filter p = [] := List.filter_eq_nil_iff.mpr hfront
    refine ⟨front, back, rfl, fun y hy hboth => hfront y hy (by simpa using hboth.2), ?_⟩
    rw [List.filter_append, hnone, List.nil_append, hback]
  · obtain ⟨front, back, rfl⟩ := List.append_of_mem (h.subset List.mem_cons_self)
    refine ⟨front, back, rfl, fun y _ hboth => hx hboth.1, ?_⟩
    rw [List.filter_cons_of_neg (by simpa using hx), List.filter_append,
      List.filter_cons_of_neg (by simpa using hx), ← List.filter_append] at hfilter
    exact hfilter

/-- All orders can be reached in which the elements of a kind are in their order. -/
theorem reflTransGen_of_perm {p : α → Prop} [DecidablePred p] (h : l.Perm l')
    (hfilter : l.filter p = l'.filter p) :
    ReflTransGen (AdjacentSwap fun x y => ¬ (p x ∧ p y)) l l' := by
  -- The others are put in order first, then the first one is brought to its place.
  induction l generalizing l' with
  | nil => rw [h.symm.eq_nil]
  | cons x l ih =>
    obtain ⟨front, back, rfl, hfront, hrest⟩ := exists_append_of_perm h hfilter
    have hperm : l.Perm (front ++ back) := (h.trans List.perm_middle).cons_inv
    exact ((ih hperm hrest).lift (x :: ·) fun _ _ hswap => hswap.append_left [x]).trans
      (reflTransGen_insert back hfront)

end SchemaBinding
