import Rosbridge.Outgoing.Eviction
import Rosbridge.Properties.Outgoing

/-!
Topic sends against a full queue.

Owns: what a send that is all or nothing does; exactly when `enqueue` is; and a send
that evicts a batch and then drops its own.
-/

set_option autoImplicit false

namespace Rosbridge.Outgoing

open Foundation

variable {φ ρ : Type} {sizes : Sizes φ ρ} {topic : String} {topicLimit : Nat} {batch : Batch φ ρ}
  {s after : State φ ρ}

/-- The batch is at the tail, and the batches that left are the fewest oldest ones of its
topic without which it has room. -/
def Queued (topic : String) (topicLimit : Nat) (batch : Batch φ ρ) (s after : State φ ρ) : Prop :=
  ∃ count ≤ (s.topics.filter (Batch.ofTopic topic)).length,
    (topicLimit = 0 → count = 0) ∧
    (s.without topic count).Admits topic topicLimit batch.bytes ∧
    (∀ fewer < count, ¬ (s.without topic fewer).Admits topic topicLimit batch.bytes) ∧
    after.topics = (s.without topic count).topics ++ [batch] ∧
    after.topicBytes = (s.without topic count).topicBytes + batch.bytes

/-- If the send may evict something, there is room without the batches of its topic. -/
def State.Spares (topic : String) (topicLimit bytes : Nat) (s : State φ ρ) : Prop :=
  0 < topicLimit → bytes ≤ s.byteLimit → s.topics.filter (Batch.ofTopic topic) ≠ [] →
    (s.others topic).length < s.capacity ∧ laneBytes (s.others topic) + bytes ≤ s.byteLimit

/-! ### One send -/

/-- There is no room for the batch. -/
def State.Full (bytes : Nat) (s : State φ ρ) : Prop :=
  s.capacity ≤ s.topics.length ∨ s.byteLimit - s.topicBytes < bytes

/-- A topic send evicts, and then stores its batch or drops it. -/
structure Stores (topic : String) (topicLimit : Nat) (batch : Batch φ ρ) (s kept after : State φ ρ) :
    Prop where
  limited : batch.bytes ≤ s.byteLimit ∧ 0 < topicLimit →
    ∃ count, Pruned topic topicLimit batch.bytes count s kept
  unlimited : ¬ (batch.bytes ≤ s.byteLimit ∧ 0 < topicLimit) → kept = s
  full : kept.Full batch.bytes →
    after.topics = kept.topics ∧ after.topicBytes = kept.topicBytes
  roomy : ¬ kept.Full batch.bytes → after.topics = kept.topics ++ [batch] ∧
    after.topicBytes = kept.topicBytes + batch.bytes
  control : after.control = kept.control ∧ after.controlBytes = kept.controlBytes

section Stores

variable {kept : State φ ρ} {count : Nat}

/-- Eviction takes batches of the topic only, and the counter follows. -/
theorem Pruned.frame (pruned : Pruned topic topicLimit batch.bytes count s kept) :
    kept.capacity = s.capacity ∧ kept.byteLimit = s.byteLimit ∧
      kept.topicBytes = laneBytes kept.topics ∧ kept.others topic = s.others topic ∧
      kept.control = s.control ∧ kept.controlBytes = s.controlBytes := by
  rw [pruned.result]
  exact ⟨rfl, rfl, rfl, s.without_others count, rfl, rfl⟩

theorem State.others_sublist (s : State φ ρ) : (s.others topic).Sublist s.topics :=
  List.filter_sublist

/-- With room after the eviction the send is all or nothing. -/
theorem Stores.queued (stores : Stores topic topicLimit batch s kept after) (sound : Sound s)
    (positive : 0 < topicLimit) (pruned : Pruned topic topicLimit batch.bytes count s kept)
    (uncrowded : kept.crowded topic topicLimit batch.bytes = false) :
    Queued topic topicLimit batch s after := by
  have within (removed : Nat) : (s.without topic removed).topicBytes ≤ s.byteLimit :=
    (laneBytes_sublist (s.without_sublist removed)).trans (sound.topicSum ▸ sound.topicBound)
  have admits : kept.Admits topic topicLimit batch.bytes := by
    rw [pruned.result] at uncrowded ⊢
    exact (State.crowded_iff positive (within count)).mp uncrowded
  have room : ¬ kept.Full batch.bytes := by
    obtain ⟨-, places, space⟩ := admits
    unfold State.Full
    omega
  obtain ⟨topics, topicBytes⟩ := stores.roomy room
  rw [pruned.result] at admits topics topicBytes
  refine ⟨count, pruned.present, fun zero => ?_, admits, fun fewer less fits => ?_, topics,
    topicBytes⟩
  · omega
  · have crowded := pruned.needed fewer less
    rw [(State.crowded_iff positive (within fewer)).mpr fits] at crowded
    cases crowded

/-- If the batch was queued there is room for it beside the other topics. -/
theorem Queued.spares (queued : Queued topic topicLimit batch s after) :
    s.Spares topic topicLimit batch.bytes := by
  obtain ⟨count, -, -, ⟨-, places, space⟩, -⟩ := queued
  intro _ _ _
  have sub : (s.others topic).Sublist (s.without topic count).topics := by
    rw [← s.without_others count]
    exact State.others_sublist _
  have fewer := sub.length_le
  have lighter := laneBytes_sublist sub
  have same : (s.without topic count).topicBytes = laneBytes (s.without topic count).topics := rfl
  have capacity : (s.without topic count).capacity = s.capacity := rfl
  have byteLimit : (s.without topic count).byteLimit = s.byteLimit := rfl
  omega

end Stores

end Rosbridge.Outgoing
