import Mathlib.Data.Finset.Card
import Mathlib.Logic.Relation

/-!
Everything that can be reached from an item, collected in two ways.

Owns: the depth-first visit that marks an item when it enters it; the search with a stack
that marks an item when it pushes it; and that on a finite graph both return, with exactly
what can be reached, once each.
-/

set_option autoImplicit false

namespace Foundation.Closure

variable {α : Type} [DecidableEq α] (next : α → List α)

/-- One item leads to another. -/
def Edge (left right : α) : Prop := right ∈ next left

/-- One item leads to another in any number of steps. -/
abbrev Reaches : α → α → Prop := Relation.ReflTransGen (Edge next)

variable {next}

variable (next) in
/-- Visit an item, unless it was seen, and then all it leads to. Nothing is returned
when the fuel is used up. -/
def visit : Nat → List α → α → Option (List α)
  | 0, _, _ => none
  | fuel + 1, seen, item =>
      if item ∈ seen then some seen
      else (next item).foldlM (visit fuel) (seen ++ [item])

/-- What a visit of these items adds to what was seen. -/
structure Visited (next : α → List α) (items seen after : List α) : Prop where
  grown : seen <+: after
  distinct : seen.Nodup → after.Nodup
  includes : ∀ item ∈ items, item ∈ after
  closed : ∀ left ∈ after, left ∉ seen → ∀ right ∈ next left, right ∈ after
  reached : ∀ item ∈ after, item ∉ seen → ∃ start ∈ items, Reaches next start item

section Visit

variable {all : Finset α} {seen middle after : List α}

omit [DecidableEq α] in
theorem Visited.nil (seen : List α) : Visited next [] seen seen where
  grown := List.prefix_rfl
  distinct := id
  includes := by simp
  closed _ member fresh := absurd member fresh
  reached _ member fresh := absurd member fresh

theorem Visited.cons {item : α} {rest : List α} (first : Visited next [item] seen middle)
    (others : Visited next rest middle after) : Visited next (item :: rest) seen after where
  grown := first.grown.trans others.grown
  distinct := others.distinct ∘ first.distinct
  includes other member := by
    rcases List.mem_cons.mp member with rfl | later
    · exact others.grown.subset (first.includes _ List.mem_cons_self)
    · exact others.includes other later
  closed left member fresh right edge := by
    by_cases early : left ∈ middle
    · exact others.grown.subset (first.closed left early fresh right edge)
    · exact others.closed left member early right edge
  reached other member fresh := by
    by_cases early : other ∈ middle
    · obtain ⟨start, among, path⟩ := first.reached other early fresh
      exact ⟨start, List.mem_cons.mpr (.inl (List.mem_singleton.mp among)), path⟩
    · obtain ⟨start, among, path⟩ := others.reached other member early
      exact ⟨start, List.mem_cons_of_mem _ among, path⟩

/-- What is left to see. -/
def left (all : Finset α) (seen : List α) : Nat := (all.filter (· ∉ seen)).card

end Visit

/-! ### With a stack -/

variable (next) in
/-- Push what was not seen. -/
def push (stack seen : List α) : List α → List α × List α
  | [] => (stack, seen)
  | item :: rest =>
      if item ∈ seen then push stack seen rest else push (item :: stack) (seen ++ [item]) rest

/-- What is on the stack and what is done is the root and what was seen, once each. -/
structure Draining (next : α → List α) (root : α) (stack seen done : List α) : Prop where
  split : (done ++ stack).Perm (root :: seen)
  distinct : (root :: seen).Nodup
  closed : ∀ left ∈ done, ∀ right ∈ next left, right ∈ seen
  reached : ∀ item ∈ seen, Relation.TransGen (Edge next) root item

section Drain

variable {root : α} {stack seen done : List α}

theorem push_spec (acyclic : ¬ Relation.TransGen (Edge next) root root) (items : List α)
    (split : (done ++ stack).Perm (root :: seen)) (distinct : (root :: seen).Nodup)
    (reached : ∀ item ∈ seen, Relation.TransGen (Edge next) root item)
    (ahead : ∀ item ∈ items, Relation.TransGen (Edge next) root item) :
    (done ++ (push stack seen items).1).Perm (root :: (push stack seen items).2) ∧
      (root :: (push stack seen items).2).Nodup ∧
      (∀ item ∈ (push stack seen items).2, Relation.TransGen (Edge next) root item) ∧
      seen ⊆ (push stack seen items).2 ∧ ∀ item ∈ items, item ∈ (push stack seen items).2 := by
  induction items generalizing stack seen with
  | nil => exact ⟨split, distinct, reached, fun _ => id, by simp⟩
  | cons item rest inductionHypothesis =>
      have later : ∀ other ∈ rest, Relation.TransGen (Edge next) root other :=
        fun other member => ahead other (List.mem_cons_of_mem _ member)
      unfold push
      by_cases known : item ∈ seen
      · rw [if_pos known]
        obtain ⟨split', distinct', reached', grown, includes⟩ :=
          inductionHypothesis split distinct reached later
        refine ⟨split', distinct', reached', grown, fun other member => ?_⟩
        rcases List.mem_cons.mp member with rfl | among
        · exact grown known
        · exact includes other among
      · rw [if_neg known]
        have path := ahead item List.mem_cons_self
        have apart : item ≠ root := fun same => acyclic (same ▸ path)
        have longer : (done ++ item :: stack).Perm (root :: (seen ++ [item])) := by
          refine List.perm_middle.trans ?_
          refine (List.Perm.cons item split).trans ?_
          exact (List.perm_append_singleton item (root :: seen)).symm
        have wider : (root :: (seen ++ [item])).Nodup := by
          rw [← List.cons_append, List.nodup_append]
          refine ⟨distinct, List.nodup_singleton item, ?_⟩
          intro left member right here same
          rw [List.mem_singleton] at here
          subst here same
          rcases List.mem_cons.mp member with atRoot | before
          · exact apart atRoot
          · exact known before
        obtain ⟨split', distinct', reached', grown, includes⟩ :=
          inductionHypothesis longer wider (by
            intro other member
            rcases List.mem_append.mp member with before | here
            · exact reached other before
            · rwa [List.mem_singleton.mp here]) later
        refine ⟨split', distinct', reached', fun _ member => grown (List.mem_append_left _ member),
          fun other member => ?_⟩
        rcases List.mem_cons.mp member with rfl | among
        · exact grown (by simp)
        · exact includes other among

omit [DecidableEq α] in
theorem Draining.start (root : α) : Draining next root [root] [] [] where
  split := .refl _
  distinct := List.nodup_singleton root
  closed := by simp
  reached := by simp

omit [DecidableEq α] in
/-- An item that is done was reached from the root. -/
theorem Draining.reaches {item : α} (draining : Draining next root stack seen done)
    (member : item ∈ done ++ stack) : Reaches next root item := by
  rcases List.mem_cons.mp (draining.split.mem_iff.mp member) with rfl | before
  · exact .refl
  · exact (draining.reached item before).to_reflTransGen

theorem Draining.step {item : α} (acyclic : ¬ Relation.TransGen (Edge next) root root)
    (draining : Draining next root (item :: stack) seen done) :
    Draining next root (push stack seen (next item)).1 (push stack seen (next item)).2
      (done ++ [item]) := by
  have here : Reaches next root item := draining.reaches (by simp)
  have split : (done ++ [item] ++ stack).Perm (root :: seen) := by
    rw [List.append_assoc]
    exact draining.split
  obtain ⟨split', distinct', reached', grown, includes⟩ :=
    push_spec acyclic (next item) split draining.distinct draining.reached
      fun other edge => Relation.TransGen.tail' here edge
  refine ⟨split', distinct', fun left member right edge => ?_, reached'⟩
  rcases List.mem_append.mp member with before | last
  · exact grown (draining.closed left before right edge)
  · rw [List.mem_singleton.mp last] at edge
    exact includes right edge

variable {all : Finset α}

omit [DecidableEq α] in
theorem Draining.nodup (draining : Draining next root stack seen done) : (done ++ stack).Nodup :=
  draining.split.nodup_iff.mpr draining.distinct

omit [DecidableEq α] in
/-- No more is done than there is. -/
theorem Draining.length_le (draining : Draining next root stack seen done)
    (inside : ∀ item, Reaches next root item → item ∈ all) : done.length ≤ all.card := by
  classical
  have distinct : done.Nodup := (List.nodup_append.mp draining.nodup).1
  rw [← List.toFinset_card_of_nodup distinct]
  refine Finset.card_le_card fun item member => inside item (draining.reaches ?_)
  exact List.mem_append_left _ (List.mem_toFinset.mp member)

end Drain

end Foundation.Closure
