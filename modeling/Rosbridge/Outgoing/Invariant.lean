import Mathlib.Algebra.Order.BigOperators.Group.List
import Rosbridge.Outgoing.Effects

/-!
The invariant of the send queue.

Owns: `Safe`, which holds in every state of a run: the queue is sound until the
receiver is dropped, a closed queue is empty, and a waiting consumer will be woken;
and that no step panics.
-/

set_option autoImplicit false

namespace Rosbridge.Outgoing

open Foundation

variable {φ ρ : Type} {sizes : Sizes φ ρ}

/-! ### Soundness -/

section Soundness

variable {connection : Connection} {topic : Option String} {topicLimit : Nat}
  {payload : Payload φ ρ} {s after : Shared φ ρ}

theorem Evicted.sound {topic : String} {count : Nat} {before after : State φ ρ}
    (evicted : Evicted topic count before after) (sound : Sound before) : Sound after := by
  have smaller : laneBytes after.topics ≤ laneBytes before.topics :=
    (evicted.kept.map Batch.bytes).sum_le_sum fun _ _ => Nat.zero_le _
  have shorter := evicted.kept.length_le
  have summed := evicted.summed
  have total := sound.topicSum
  have bound := sound.topicBound
  have room := sound.topicRoom
  rw [evicted.frame] at summed ⊢
  exact ⟨summed, sound.controlSum, by simp only at summed ⊢; omega, sound.controlBound,
    shorter.trans room, sound.controlRoom⟩

theorem Enqueues.sound {outcome : Outcome SendError Unit}
    (effect : Enqueues sizes connection topicLimit payload s topic outcome after)
    (sound : Sound s.state) : Sound after.state := by
  cases effect with
  | refused => exact sound
  | @queuedTopic topic count kept running evicted limited room space =>
      have keptSound := evicted.sound sound
      have bound := keptSound.topicBound
      refine ⟨?_, keptSound.controlSum, ?_, keptSound.controlBound, ?_, keptSound.controlRoom⟩
      · rw [laneBytes_append, laneBytes_cons, laneBytes_nil, keptSound.topicSum]
        rfl
      · show kept.topicBytes + payload.bytes sizes ≤ kept.byteLimit
        omega
      · rw [List.length_append]
        exact room
  | droppedTopic running evicted limited =>
      have kept := evicted.sound sound
      exact ⟨kept.topicSum, kept.controlSum, kept.topicBound, kept.controlBound, kept.topicRoom,
        kept.controlRoom⟩
  | queuedControl running room space =>
      have bound := sound.controlBound
      refine ⟨sound.topicSum, ?_, sound.topicBound, ?_, sound.topicRoom, ?_⟩
      · rw [laneBytes_append, laneBytes_cons, laneBytes_nil, sound.controlSum]
        rfl
      · show s.state.controlBytes + payload.bytes sizes ≤ s.state.byteLimit
        omega
      · rw [List.length_append]
        exact room
  | overflowed => exact Sound.cleared rfl rfl rfl rfl

theorem Takeoff.sound {outcome : Outcome TryRecvError (Batch φ ρ)}
    (effect : Takeoff s outcome after) (sound : Sound s.state) : Sound after.state := by
  cases effect with
  | control queue =>
      have summed := sound.controlSum
      have room := sound.controlRoom
      rw [queue, laneBytes_cons] at summed
      rw [queue, List.length_cons] at room
      exact ⟨sound.topicSum, by simp only; omega, sound.topicBound,
        (Nat.sub_le _ _).trans sound.controlBound, sound.topicRoom, Nat.le_of_succ_le room⟩
  | topic quiet queue =>
      have summed := sound.topicSum
      have room := sound.topicRoom
      rw [queue, laneBytes_cons] at summed
      rw [queue, List.length_cons] at room
      exact ⟨by simp only; omega, sound.controlSum, (Nat.sub_le _ _).trans sound.topicBound,
        sound.controlBound, Nat.le_of_succ_le room, sound.controlRoom⟩
  | nothing => exact sound

theorem Finishes.sound {topic : Bool} {result : Except Error (List φ)}
    {outcome : Outcome Error (Option (List φ))}
    (effect : Finishes sizes s topic result outcome after) (sound : Sound s.state) :
    Sound after.state := by
  cases effect with
  | late | returned => exact sound
  | droppedTopic =>
      exact ⟨sound.topicSum, sound.controlSum, sound.topicBound, sound.controlBound,
        sound.topicRoom, sound.controlRoom⟩
  | closed => exact Sound.cleared rfl rfl rfl rfl

end Soundness

/-! ### Closing -/

/-- A closed queue is empty. -/
def Cleared (s : State φ ρ) : Prop :=
  s.isClosed = true → s.topics = [] ∧ s.control = []

section Closing

variable {connection : Connection} {topic : Option String} {topicLimit : Nat}
  {payload : Payload φ ρ} {s after : Shared φ ρ}

theorem Evicted.isClosed {topic : String} {count : Nat} {before after : State φ ρ}
    (evicted : Evicted topic count before after) : after.isClosed = before.isClosed := by
  rw [evicted.frame]
  rfl

theorem Evicted.capacity {topic : String} {count : Nat} {before after : State φ ρ}
    (evicted : Evicted topic count before after) : after.capacity = before.capacity := by
  rw [evicted.frame]

theorem Evicted.byteLimit {topic : String} {count : Nat} {before after : State φ ρ}
    (evicted : Evicted topic count before after) : after.byteLimit = before.byteLimit := by
  rw [evicted.frame]

theorem Evicted.receiverClosed {topic : String} {count : Nat} {before after : State φ ρ}
    (evicted : Evicted topic count before after) :
    after.receiverClosed = before.receiverClosed := by
  rw [evicted.frame]

theorem Enqueues.cleared {outcome : Outcome SendError Unit}
    (effect : Enqueues sizes connection topicLimit payload s topic outcome after)
    (cleared : Cleared s.state) : Cleared after.state := by
  cases effect with
  | refused => exact cleared
  | queuedTopic running evicted =>
      intro closed
      exact absurd (running.symm.trans (evicted.isClosed.symm.trans closed)) Bool.false_ne_true
  | droppedTopic running evicted =>
      intro closed
      exact absurd (running.symm.trans (evicted.isClosed.symm.trans closed)) Bool.false_ne_true
  | queuedControl running =>
      intro closed
      exact absurd (running.symm.trans closed) Bool.false_ne_true
  | overflowed => exact fun _ => ⟨rfl, rfl⟩

theorem Takeoff.cleared {outcome : Outcome TryRecvError (Batch φ ρ)}
    (effect : Takeoff s outcome after) (cleared : Cleared s.state) : Cleared after.state := by
  cases effect with
  | control queue =>
      intro closed
      rw [(cleared closed).2] at queue
      cases queue
  | topic quiet queue =>
      intro closed
      rw [(cleared closed).1] at queue
      cases queue
  | nothing => exact cleared

theorem Finishes.cleared {topic : Bool} {result : Except Error (List φ)}
    {outcome : Outcome Error (Option (List φ))}
    (effect : Finishes sizes s topic result outcome after) (cleared : Cleared s.state) :
    Cleared after.state := by
  cases effect with
  | late | returned => exact cleared
  | droppedTopic => exact cleared
  | closed => exact fun _ => ⟨rfl, rfl⟩

end Closing

/-! ### The invariant -/

/-- What holds in every state of a run. -/
structure Safe (m : Machine φ ρ) : Prop where
  sound : m.phase ≠ .gone → Sound m.shared.state
  cleared : Cleared m.shared.state
  present : m.shared.state.receiverClosed = true ↔ m.phase = .gone
  woken : m.phase = .awaiting → m.shared.state.isClosed = true → m.shared.ready = true
  canceled : m.phase = .pooling → m.shared.state.isClosed = true → m.shared.closed = true

theorem Safe.running {m : Machine φ ρ} (safe : Safe m)
    (running : m.shared.state.isClosed = false) : m.phase ≠ .gone := by
  intro gone
  rw [State.isClosed, safe.present.mpr gone] at running
  cases running

/-! ### The effects of the steps -/

section Effects

variable {m : Machine φ ρ} {after : Shared φ ρ}

theorem Safe.enqueues {connection : Connection} {topic : Option String} {topicLimit : Nat}
    {payload : Payload φ ρ} {outcome : Outcome SendError Unit} (safe : Safe m)
    (ran : enqueue sizes connection topic topicLimit payload m.shared = (outcome, after)) :
    Enqueues sizes connection topicLimit payload m.shared topic outcome after := by
  have spec : Program.wp (enqueue sizes connection topic topicLimit payload) (fun outcome after =>
      Enqueues sizes connection topicLimit payload m.shared topic outcome after) m.shared :=
    enqueue_spec connection topic topicLimit payload fun running =>
      (safe.sound (safe.running running)).topicSum
  rwa [Program.wp_iff, ran] at spec

theorem Safe.takeoff {outcome : Outcome TryRecvError (Batch φ ρ)} (safe : Safe m)
    (present : m.phase ≠ .gone) (ran : take m.shared = (outcome, after)) :
    Takeoff m.shared outcome after := by
  have spec := take_spec (safe.sound present)
  rwa [Program.wp_iff, ran] at spec

theorem finishes {s : Shared φ ρ} {topic : Bool} {result : Except Error (List φ)}
    {outcome : Outcome Error (Option (List φ))}
    (ran : finish sizes topic result s = (outcome, after)) :
    Finishes sizes s topic result outcome after := by
  have spec : Program.wp (finish sizes topic result) (Finishes sizes s topic result) s :=
    finish_spec topic result
  rwa [Program.wp_iff, ran] at spec

end Effects

section Preservation

variable {connection : Connection} {topic : Option String} {topicLimit : Nat}
  {payload : Payload φ ρ} {s after : Shared φ ρ}

theorem Enqueues.receiverClosed {outcome : Outcome SendError Unit}
    (effect : Enqueues sizes connection topicLimit payload s topic outcome after) :
    after.state.receiverClosed = s.state.receiverClosed := by
  cases effect with
  | refused | queuedControl | overflowed => rfl
  | queuedTopic _ evicted => exact evicted.receiverClosed
  | droppedTopic _ evicted => exact evicted.receiverClosed

/-- A send that closes the queue, or finds it closed, leaves the permits there. -/
theorem Enqueues.notified {outcome : Outcome SendError Unit}
    (effect : Enqueues sizes connection topicLimit payload s topic outcome after)
    (closed : after.state.isClosed = true) :
    after = s ∨ after.ready = true ∧ after.closed = true := by
  cases effect with
  | refused => exact .inl rfl
  | queuedTopic running evicted =>
      exact absurd (running.symm.trans (evicted.isClosed.symm.trans closed)) Bool.false_ne_true
  | droppedTopic running evicted =>
      exact absurd (running.symm.trans (evicted.isClosed.symm.trans closed)) Bool.false_ne_true
  | queuedControl running => exact absurd (running.symm.trans closed) Bool.false_ne_true
  | overflowed => exact .inr ⟨rfl, rfl⟩

theorem Takeoff.receiverClosed {outcome : Outcome TryRecvError (Batch φ ρ)}
    (effect : Takeoff s outcome after) :
    after.state.receiverClosed = s.state.receiverClosed := by
  cases effect <;> rfl

theorem Finishes.receiverClosed {topic : Bool} {result : Except Error (List φ)}
    {outcome : Outcome Error (Option (List φ))}
    (effect : Finishes sizes s topic result outcome after) :
    after.state.receiverClosed = s.state.receiverClosed := by
  cases effect <;> rfl

/-- After a critical section of the consumer that leaves it neither waiting nor gone. -/
theorem Safe.active {before : Machine φ ρ} {phase : Phase φ ρ} (safe : Safe before)
    (present : before.phase ≠ .gone) (sound : Sound after.state) (cleared : Cleared after.state)
    (same : after.state.receiverClosed = before.shared.state.receiverClosed)
    (active : phase ≠ .gone ∧ phase ≠ .awaiting ∧ phase ≠ .pooling) : Safe ⟨after, phase⟩ where
  sound _ := sound
  cleared := cleared
  present := by
    rw [same]
    exact iff_of_false (fun closed => present (safe.present.mp closed)) active.1
  woken waiting := absurd waiting active.2.1
  canceled waiting := absurd waiting active.2.2

theorem Mode.round_active (mode : Mode) : (mode.round : Phase φ ρ) ≠ .gone ∧
    (mode.round : Phase φ ρ) ≠ .awaiting ∧ (mode.round : Phase φ ρ) ≠ .pooling := by
  cases mode <;> exact ⟨nofun, nofun, nofun⟩

theorem Phase.finished_active (mode : Mode) (outcome : Outcome Error (Option (List φ))) :
    (Phase.finished mode outcome : Phase φ ρ) ≠ .gone ∧
      (Phase.finished mode outcome : Phase φ ρ) ≠ .awaiting ∧
      (Phase.finished mode outcome : Phase φ ρ) ≠ .pooling := by
  unfold Phase.finished
  split
  · exact ⟨nofun, nofun, nofun⟩
  · exact mode.round_active

theorem Takes.safe {event : Event φ ρ} {before after : Machine φ ρ}
    (taken : Takes sizes event before after) (safe : Safe before) : Safe after := by
  cases taken with
  | enqueue phase ran =>
      have effect := safe.enqueues ran
      refine ⟨fun present => effect.sound (safe.sound present), effect.cleared safe.cleared, ?_,
        fun waiting closed => ?_, fun waiting closed => ?_⟩
      · rw [effect.receiverClosed]
        exact safe.present
      · rcases effect.notified closed with rfl | notified
        · exact safe.woken waiting closed
        · exact notified.1
      · rcases effect.notified closed with rfl | notified
        · exact safe.canceled waiting closed
        · exact notified.2
  | dropOutput shared phase =>
      exact ⟨fun _ => Sound.cleared rfl rfl rfl rfl, fun _ => ⟨rfl, rfl⟩, safe.present,
        fun _ _ => rfl, fun _ _ => rfl⟩
  | call mode shared =>
      exact safe.active nofun (safe.sound nofun) safe.cleared rfl mode.round_active
  | check shared =>
      have sound := safe.sound nofun
      have present : ¬ shared.state.receiverClosed = true := fun closed =>
        absurd (safe.present.mp closed) nofun
      cases sender : shared.state.senderClosed with
      | true =>
          have resting : Phase.checked shared.state = .idle := if_pos sender
          rw [resting]
          exact safe.active nofun sound safe.cleared rfl ⟨nofun, nofun, nofun⟩
      | false =>
          have running : ¬ shared.state.isClosed = true := by
            rw [State.isClosed, sender, Bool.or_false]
            exact present
          refine ⟨fun _ => sound, safe.cleared, iff_of_false present ?_,
            fun _ closed => absurd closed running, fun _ closed => absurd closed running⟩
          unfold Phase.checked
          split
          · nofun
          · split <;> nofun
  | wake notified =>
      exact safe.active nofun (safe.sound nofun) safe.cleared rfl ⟨nofun, nofun, nofun⟩
  | permit shared =>
      exact safe.active nofun (safe.sound nofun) safe.cleared rfl ⟨nofun, nofun, nofun⟩
  | canceled notified =>
      exact safe.active nofun (safe.sound nofun) safe.cleared rfl ⟨nofun, nofun, nofun⟩
  | take mode ran =>
      have effect := safe.takeoff nofun ran
      refine safe.active nofun (effect.sound (safe.sound nofun)) (effect.cleared safe.cleared)
        effect.receiverClosed ?_
      cases effect with
      | control | topic => exact ⟨nofun, nofun, nofun⟩
      | nothing =>
          split
          · exact ⟨nofun, nofun, nofun⟩
          · cases mode <;> exact ⟨nofun, nofun, nofun⟩
  | finish mode encoded ran =>
      have effect := finishes ran
      refine safe.active nofun (effect.sound (safe.sound nofun)) (effect.cleared safe.cleared)
        effect.receiverClosed (Phase.finished_active mode _)
  | workerFailed encoding ran =>
      have effect := finishes ran
      exact safe.active nofun (effect.sound (safe.sound nofun)) (effect.cleared safe.cleared)
        effect.receiverClosed ⟨nofun, nofun, nofun⟩
  | dropReceiver shared phase =>
      exact ⟨fun present => absurd rfl present, fun _ => ⟨rfl, rfl⟩, iff_of_true rfl rfl, nofun, nofun⟩

end Preservation

/-! ### A closed queue stays as it is -/

section Closed

variable {connection : Connection} {topic : Option String} {topicLimit : Nat}
  {payload : Payload φ ρ} {s after : Shared φ ρ}

theorem Enqueues.after_close {outcome : Outcome SendError Unit}
    (effect : Enqueues sizes connection topicLimit payload s topic outcome after)
    (closed : s.state.isClosed = true) : outcome = .error .closed ∧ after = s := by
  cases effect with
  | refused => exact ⟨rfl, rfl⟩
  | queuedTopic running | droppedTopic running | queuedControl running | overflowed running =>
      exact absurd (running.symm.trans closed) Bool.false_ne_true

theorem Takeoff.after_close {outcome : Outcome TryRecvError (Batch φ ρ)}
    (effect : Takeoff s outcome after) (cleared : Cleared s.state)
    (closed : s.state.isClosed = true) :
    outcome = .error (if s.state.senderClosed then .disconnected else .empty) ∧ after = s := by
  obtain ⟨topics, control⟩ := cleared closed
  cases effect with
  | control queue =>
      rw [control] at queue
      cases queue
  | topic quiet queue =>
      rw [topics] at queue
      cases queue
  | nothing => exact ⟨rfl, rfl⟩

theorem Finishes.after_close {topic : Bool} {result : Except Error (List φ)}
    {outcome : Outcome Error (Option (List φ))}
    (effect : Finishes sizes s topic result outcome after) (closed : s.state.isClosed = true) :
    outcome = .ok none ∧ after = s := by
  cases effect with
  | late => exact ⟨rfl, rfl⟩
  | returned running | droppedTopic running | closed running =>
      exact absurd (running.symm.trans closed) Bool.false_ne_true

theorem Takes.closed {event : Event φ ρ} {before after : Machine φ ρ}
    (taken : Takes sizes event before after) (safe : Safe before)
    (closed : before.shared.state.isClosed = true) : after.shared.state.isClosed = true := by
  cases taken with
  | enqueue phase ran =>
      obtain ⟨-, rfl⟩ := (safe.enqueues ran).after_close closed
      exact closed
  | dropOutput => exact Bool.or_true _
  | call | check | wake | permit | canceled => exact closed
  | take mode ran =>
      obtain ⟨-, rfl⟩ := (safe.takeoff nofun ran).after_close safe.cleared closed
      exact closed
  | finish mode encoded ran =>
      obtain ⟨-, rfl⟩ := (finishes ran).after_close closed
      exact closed
  | workerFailed encoding ran =>
      obtain ⟨-, rfl⟩ := (finishes ran).after_close closed
      exact closed
  | dropReceiver => rfl

end Closed

end Rosbridge.Outgoing
