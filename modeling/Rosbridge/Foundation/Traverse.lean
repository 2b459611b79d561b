import Mathlib.Data.List.Forall2

/-!
Lists mapped by a function that may fail.

Owns: what a successful `mapM` of `Except` says element by element, how one is built, and
comparisons of two lists that are related element by element.
-/

set_option autoImplicit false

namespace Foundation

variable {ε α β γ : Type}

section Mapped

variable {f : α → Except ε β} {x : α} {xs : List α} {ys : List β}

theorem mapM_cons_ok (mapped : (x :: xs).mapM f = .ok ys) :
    ∃ y rest, f x = .ok y ∧ xs.mapM f = .ok rest ∧ ys = y :: rest := by
  rw [List.mapM_cons] at mapped
  cases first : f x with
  | error cause =>
      rw [first] at mapped
      cases mapped
  | ok y =>
      rw [first] at mapped
      have step : (do let rest ← xs.mapM f; pure (y :: rest)) = Except.ok ys := mapped
      cases others : xs.mapM f with
      | error cause =>
          rw [others] at step
          cases step
      | ok rest =>
          rw [others] at step
          cases step
          exact ⟨y, rest, rfl, rfl, rfl⟩

theorem mapM_forall₂ (mapped : xs.mapM f = .ok ys) :
    List.Forall₂ (fun x y => f x = .ok y) xs ys := by
  induction xs generalizing ys with
  | nil =>
      rw [List.mapM_nil] at mapped
      cases mapped
      exact .nil
  | cons x xs inductionHypothesis =>
      obtain ⟨y, rest, first, others, rfl⟩ := mapM_cons_ok mapped
      exact .cons first (inductionHypothesis others)

theorem mapM_of_forall₂ (elements : List.Forall₂ (fun x y => f x = .ok y) xs ys) :
    xs.mapM f = .ok ys := by
  induction elements with
  | nil => rfl
  | cons first _ inductionHypothesis =>
      rw [List.mapM_cons, first, inductionHypothesis]
      rfl

/-- Where every element succeeds with a related result, so does the list. -/
theorem mapM_exists {related : α → β → Prop}
    (each : ∀ x ∈ xs, ∃ y, f x = .ok y ∧ related x y) :
    ∃ ys, xs.mapM f = .ok ys ∧ List.Forall₂ related xs ys := by
  induction xs with
  | nil => exact ⟨[], rfl, .nil⟩
  | cons x xs inductionHypothesis =>
      rw [List.forall_mem_cons] at each
      obtain ⟨y, first, here⟩ := each.1
      obtain ⟨ys, others, there⟩ := inductionHypothesis each.2
      refine ⟨y :: ys, ?_, .cons here there⟩
      rw [List.mapM_cons, first, others]
      rfl

end Mapped

section Elements

variable {related : α → β → Prop} {xs : List α} {ys : List β} {good : α → Prop}

theorem forall_mem_iff {holds : β → Prop} (elements : List.Forall₂ related xs ys)
    (each : ∀ x y, related x y → (holds y ↔ good x)) :
    (∀ y ∈ ys, holds y) ↔ ∀ x ∈ xs, good x := by
  induction elements with
  | nil => simp
  | cons first _ inductionHypothesis =>
      rw [List.forall_mem_cons, List.forall_mem_cons, each _ _ first, inductionHypothesis]

theorem map_eq_map_iff {g : α → γ} {h : β → γ} (elements : List.Forall₂ related xs ys)
    (each : ∀ x y, related x y → (g x = h y ↔ good x)) :
    xs.map g = ys.map h ↔ ∀ x ∈ xs, good x := by
  induction elements with
  | nil => simp
  | cons first _ inductionHypothesis =>
      rw [List.map_cons, List.map_cons, List.cons.injEq, List.forall_mem_cons, each _ _ first,
        inductionHypothesis]

end Elements

end Foundation
