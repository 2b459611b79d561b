import Mathlib.Logic.Function.Iterate
import Rosbridge.Outgoing.Invariant

/-!
What a topic send evicts.

Owns: the queue without the oldest batches of a topic; that the eviction loop stops at
the least number of them whose removal makes room; and the state after a topic send.
-/

set_option autoImplicit false

namespace Rosbridge.Outgoing

open Foundation

variable {φ ρ : Type} {sizes : Sizes φ ρ} {topic : String} {topicLimit bytes : Nat}
  {s : State φ ρ}

/-! ### Removing the oldest batches -/

/-- The queue without the `count` oldest batches of the topic. -/
def State.without (topic : String) (count : Nat) (s : State φ ρ) : State φ ρ :=
  let kept := (List.eraseP (Batch.ofTopic topic))^[count] s.topics
  { s with topics := kept, topicBytes := laneBytes kept }

/-- The batches of other topics, in order. -/
def State.others (topic : String) (s : State φ ρ) : List (Batch φ ρ) :=
  s.topics.filter fun batch => !Batch.ofTopic topic batch

/-- There is room for `bytes` more of the topic. -/
def State.Admits (topic : String) (topicLimit bytes : Nat) (s : State φ ρ) : Prop :=
  (0 < topicLimit → (s.topics.filter (Batch.ofTopic topic)).length < topicLimit) ∧
    s.topics.length < s.capacity ∧ s.topicBytes + bytes ≤ s.byteLimit

theorem filter_eraseP {α : Type} (passes : α → Bool) (items : List α) :
    (items.eraseP passes).filter passes = (items.filter passes).tail := by
  induction items with
  | nil => rfl
  | cons item items inductionHypothesis =>
      by_cases holds : passes item
      · rw [List.eraseP_cons_of_pos holds, List.filter_cons_of_pos holds, List.tail_cons]
      · rw [List.eraseP_cons_of_neg holds, List.filter_cons_of_neg holds,
          List.filter_cons_of_neg holds]
        exact inductionHypothesis

theorem filter_not_eraseP {α : Type} (passes : α → Bool) (items : List α) :
    ((items.eraseP passes).filter fun item => !passes item) =
      items.filter fun item => !passes item := by
  induction items with
  | nil => rfl
  | cons item items inductionHypothesis =>
      by_cases holds : passes item
      · rw [List.eraseP_cons_of_pos holds, List.filter_cons_of_neg (by simp [holds])]
      · rw [List.eraseP_cons_of_neg holds, List.filter_cons_of_pos (by simp [holds]),
          List.filter_cons_of_pos (by simp [holds]), inductionHypothesis]

/-- The batches of the topic that are left are the newest. -/
theorem State.without_topic (count : Nat) (s : State φ ρ) :
    (s.without topic count).topics.filter (Batch.ofTopic topic) =
      (s.topics.filter (Batch.ofTopic topic)).drop count := by
  show ((List.eraseP (Batch.ofTopic topic))^[count] s.topics).filter (Batch.ofTopic topic) = _
  induction count with
  | zero => rfl
  | succ count inductionHypothesis =>
      rw [Function.iterate_succ_apply', filter_eraseP, inductionHypothesis, List.tail_drop]

/-- Other topics keep all their batches. -/
theorem State.without_others (count : Nat) (s : State φ ρ) :
    (s.without topic count).others topic = s.others topic := by
  show ((List.eraseP (Batch.ofTopic topic))^[count] s.topics).filter _ = _
  induction count with
  | zero => rfl
  | succ count inductionHypothesis =>
      rw [Function.iterate_succ_apply', filter_not_eraseP, inductionHypothesis]

theorem State.without_sublist (count : Nat) (s : State φ ρ) :
    (s.without topic count).topics.Sublist s.topics := by
  show ((List.eraseP (Batch.ofTopic topic))^[count] s.topics).Sublist _
  induction count with
  | zero => exact List.Sublist.refl _
  | succ count inductionHypothesis =>
      rw [Function.iterate_succ_apply']
      exact List.eraseP_sublist.trans inductionHypothesis

theorem laneBytes_sublist {kept lane : List (Batch φ ρ)} (sub : kept.Sublist lane) :
    laneBytes kept ≤ laneBytes lane :=
  (sub.map Batch.bytes).sum_le_sum fun _ _ => Nat.zero_le _

/-- Removing one batch and then some more. -/
theorem State.without_succ (count left : Nat) (s : State φ ρ) :
    ({ s with topics := s.topics.eraseP (Batch.ofTopic topic), topicBytes := left } :
      State φ ρ).without topic count = s.without topic (count + 1) := rfl

theorem State.crowded_iff (positive : 0 < topicLimit) (within : s.topicBytes ≤ s.byteLimit) :
    s.crowded topic topicLimit bytes = false ↔ s.Admits topic topicLimit bytes := by
  unfold State.crowded State.Admits
  simp only [Bool.or_eq_false_iff, decide_eq_false_iff_not, not_le, not_lt]
  constructor
  · rintro ⟨⟨count, room⟩, space⟩
    exact ⟨fun _ => count, room, by omega⟩
  · rintro ⟨count, room, space⟩
    exact ⟨⟨count positive, room⟩, by omega⟩

/-! ### The loop -/

/-- The loop removed `count` batches of the topic: fewer would not have made room. -/
structure Pruned (topic : String) (topicLimit bytes count : Nat) (before after : State φ ρ) :
    Prop where
  result : after = before.without topic count
  present : count ≤ (before.topics.filter (Batch.ofTopic topic)).length
  needed : ∀ fewer < count, (before.without topic fewer).crowded topic topicLimit bytes = true
  ended : after.crowded topic topicLimit bytes = false ∨
    after.topics.filter (Batch.ofTopic topic) = []

end Rosbridge.Outgoing
