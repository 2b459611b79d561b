import Rosbridge.Outgoing.Queue

/-!
What one step does to a sound send queue.

Owns: soundness, which ties the byte counters to the lanes and bounds both; the
specification of the eviction loop; `Effect`, the state changes of a step; and that
every step from a sound queue has one of these effects.
-/

set_option autoImplicit false

namespace Rosbridge.Outgoing

open Foundation

variable {φ ρ : Type} {sizes : Sizes φ ρ}

/-- The counters are the sizes of the lanes, and both lanes are bounded. -/
structure Sound (s : State φ ρ) : Prop where
  topicSum : s.topicBytes = laneBytes s.topics
  controlSum : s.controlBytes = laneBytes s.control
  topicBound : s.topicBytes ≤ s.byteLimit
  controlBound : s.controlBytes ≤ s.byteLimit
  topicRoom : s.topics.length ≤ s.capacity
  controlRoom : s.control.length ≤ controlCapacity

theorem Sound.cleared {s : State φ ρ} (topics : s.topics = []) (control : s.control = [])
    (topicBytes : s.topicBytes = 0) (controlBytes : s.controlBytes = 0) : Sound s := by
  refine ⟨?_, ?_, ?_, ?_, ?_, ?_⟩ <;> simp [topics, control, topicBytes, controlBytes, laneBytes]

@[simp] theorem laneBytes_append (left right : List (Batch φ ρ)) :
    laneBytes (left ++ right) = laneBytes left + laneBytes right := by
  simp [laneBytes]

@[simp] theorem laneBytes_cons (batch : Batch φ ρ) (rest : List (Batch φ ρ)) :
    laneBytes (batch :: rest) = batch.bytes + laneBytes rest := by
  simp [laneBytes]

@[simp] theorem laneBytes_nil : laneBytes ([] : List (Batch φ ρ)) = 0 := rfl

/-! ### Programs of one critical section -/

section Programs

variable {ε α : Type} {s : Shared φ ρ}

@[simp] theorem wp_readState {post : Outcome ε (State φ ρ) → Shared φ ρ → Prop} :
    Program.wp readState post s ↔ post (.ok s.state) s := Iff.rfl

@[simp] theorem wp_modifyState {post : Outcome ε Unit → Shared φ ρ → Prop}
    (change : State φ ρ → State φ ρ) :
    Program.wp (modifyState change) post s ↔ post (.ok ()) { s with state := change s.state } :=
  Iff.rfl

@[simp] theorem wp_notifyReady {post : Outcome ε Unit → Shared φ ρ → Prop} :
    Program.wp notifyReady post s ↔ post (.ok ()) { s with ready := true } := Iff.rfl

@[simp] theorem wp_notifyClosed {post : Outcome ε Unit → Shared φ ρ → Prop} :
    Program.wp notifyClosed post s ↔ post (.ok ()) { s with closed := true } := Iff.rfl

theorem wp_bind_subtract {post : Outcome ε α → Shared φ ρ → Prop} {left right : Nat}
    {next : Nat → Program (Shared φ ρ) ε α} (fits : right ≤ left)
    (continues : Program.wp (next (left - right)) post s) :
    Program.wp (subtract left right >>= next) post s := by
  rw [Program.wp_bind, subtract, if_pos fits]
  exact continues

end Programs

/-! ### Eviction -/

/-- Removing the batch that was found takes its bytes and one place. -/
theorem find_erase {topic : String} {topics : List (Batch φ ρ)} {old : Batch φ ρ}
    (found : topics.find? (Batch.ofTopic topic) = some old) :
    topics.Perm (old :: topics.eraseP (Batch.ofTopic topic)) := by
  obtain ⟨holds, earlier, later, rfl, skipped⟩ := List.find?_eq_some_iff_append.mp found
  rw [List.eraseP_append_right _ fun batch member => by simpa using skipped batch member,
    List.eraseP_cons_of_pos holds]
  exact List.perm_middle

/-- Only batches of one topic were removed, `count` of them, and the counter follows. -/
structure Evicted (topic : String) (count : Nat) (before after : State φ ρ) : Prop where
  kept : after.topics.Sublist before.topics
  counted : after.topics.length + count = before.topics.length
  summed : after.topicBytes = laneBytes after.topics
  frame : after = { before with topics := after.topics, topicBytes := after.topicBytes }

/-- The eviction loop ends: there is room, or the topic has no batch left. -/
theorem evict_spec {ε : Type} (topic : String) (topicLimit bytes : Nat) {fuel : Nat}
    {s : Shared φ ρ} (summed : s.state.topicBytes = laneBytes s.state.topics)
    (enough : s.state.topics.length < fuel) :
    Program.wp (evict topic topicLimit bytes fuel : Program (Shared φ ρ) ε Nat) (fun outcome after =>
      ∃ count, outcome = .ok count ∧ after = { s with state := after.state } ∧
        Evicted topic count s.state after.state ∧
        (after.state.crowded topic topicLimit bytes = false ∨
          after.state.topics.filter (Batch.ofTopic topic) = [])) s := by
  induction fuel generalizing s with
  | zero => exact absurd enough (Nat.not_lt_zero _)
  | succ fuel inductionHypothesis =>
      have unchanged : Evicted topic 0 s.state s.state :=
        ⟨List.Sublist.refl _, rfl, summed, rfl⟩
      unfold evict
      rw [Program.wp_bind, wp_readState, Program.andThen_ok]
      cases crowded : s.state.crowded topic topicLimit bytes with
      | false => exact ⟨0, rfl, rfl, unchanged, .inl crowded⟩
      | true =>
          rw [if_pos rfl]
          cases found : s.state.topics.find? (Batch.ofTopic topic) with
          | none =>
              refine ⟨0, rfl, rfl, unchanged, .inr (List.filter_eq_nil_iff.mpr ?_)⟩
              exact List.find?_eq_none.mp found
          | some old =>
              have split := find_erase found
              have total : laneBytes s.state.topics =
                  old.bytes + laneBytes (s.state.topics.eraseP (Batch.ofTopic topic)) := by
                rw [laneBytes, (split.map Batch.bytes).sum_eq]
                rfl
              have size := split.length_eq
              rw [List.length_cons] at size
              refine wp_bind_subtract (by omega) ?_
              rw [Program.wp_bind, wp_modifyState, Program.andThen_ok, Program.wp_bind]
              refine Program.wp_mono (inductionHypothesis ?_ ?_) ?_
              · show s.state.topicBytes - old.bytes = laneBytes (s.state.topics.eraseP _)
                omega
              · show (s.state.topics.eraseP _).length < fuel
                omega
              · rintro _ after ⟨count, rfl, same, evicted, ended⟩
                refine ⟨count + 1, rfl, same, ⟨?_, ?_, evicted.summed, evicted.frame⟩, ended⟩
                · exact evicted.kept.trans (List.eraseP_sublist)
                · have counted : after.state.topics.length + count =
                      (s.state.topics.eraseP (Batch.ofTopic topic)).length := evicted.counted
                  show after.state.topics.length + (count + 1) = s.state.topics.length
                  omega

/-! ### Effects -/

/-- What `enqueue` does. -/
inductive Enqueues (sizes : Sizes φ ρ) (connection : Connection) (topicLimit : Nat)
    (payload : Payload φ ρ) (s : Shared φ ρ) :
    Option String → Outcome SendError Unit → Shared φ ρ → Prop where
  | refused {topic : Option String} (closed : s.state.isClosed = true) :
      Enqueues sizes connection topicLimit payload s topic (.error .closed) s
  | queuedTopic {topic : String} {count : Nat} {kept : State φ ρ}
      (running : s.state.isClosed = false) (evicted : Evicted topic count s.state kept)
      (limited : 0 < topicLimit → payload.bytes sizes ≤ s.state.byteLimit →
        (kept.topics.filter (Batch.ofTopic topic)).length < topicLimit)
      (room : kept.topics.length < kept.capacity)
      (space : payload.bytes sizes ≤ kept.byteLimit - kept.topicBytes) :
      Enqueues sizes connection topicLimit payload s (some topic) (.ok ())
        ⟨{ kept with
            topicBytes := kept.topicBytes + payload.bytes sizes
            topics := kept.topics ++ [⟨connection, some topic, payload, payload.bytes sizes⟩]
            dropped := kept.dropped + count }, true, s.closed⟩
  | droppedTopic {topic : String} {count : Nat} {kept : State φ ρ}
      (running : s.state.isClosed = false) (evicted : Evicted topic count s.state kept)
      (limited : 0 < topicLimit → payload.bytes sizes ≤ s.state.byteLimit →
        (kept.topics.filter (Batch.ofTopic topic)).length < topicLimit) :
      Enqueues sizes connection topicLimit payload s (some topic) (.ok ())
        ⟨{ kept with dropped := kept.dropped + (count + 1) }, true, s.closed⟩
  | queuedControl (running : s.state.isClosed = false)
      (room : s.state.control.length < controlCapacity)
      (space : payload.bytes sizes ≤ s.state.byteLimit - s.state.controlBytes) :
      Enqueues sizes connection topicLimit payload s none (.ok ())
        ⟨{ s.state with
            controlBytes := s.state.controlBytes + payload.bytes sizes
            control := s.state.control ++ [⟨connection, none, payload, payload.bytes sizes⟩] },
          true, s.closed⟩
  | overflowed (running : s.state.isClosed = false) :
      Enqueues sizes connection topicLimit payload s none (.error .controlFull)
        ⟨{ s.state.close with closeReason := some "control send queue full" }, true, true⟩

/-- What `take` does. -/
inductive Takeoff (s : Shared φ ρ) : Outcome TryRecvError (Batch φ ρ) → Shared φ ρ → Prop where
  | control {batch : Batch φ ρ} {rest : List (Batch φ ρ)}
      (queue : s.state.control = batch :: rest) :
      Takeoff s (.ok batch) { s with state := { s.state with
        control := rest, controlBytes := s.state.controlBytes - batch.bytes } }
  | topic {batch : Batch φ ρ} {rest : List (Batch φ ρ)} (quiet : s.state.control = [])
      (queue : s.state.topics = batch :: rest) :
      Takeoff s (.ok batch) { s with state := { s.state with
        topics := rest, topicBytes := s.state.topicBytes - batch.bytes } }
  | nothing (quiet : s.state.control = []) (empty : s.state.topics = []) :
      Takeoff s (.error (if s.state.senderClosed then .disconnected else .empty)) s

/-- What `finish` does. -/
inductive Finishes (sizes : Sizes φ ρ) (s : Shared φ ρ) :
    Bool → Except Error (List φ) → Outcome Error (Option (List φ)) → Shared φ ρ → Prop where
  | late {topic : Bool} {result : Except Error (List φ)} (closed : s.state.isClosed = true) :
      Finishes sizes s topic result (.ok none) s
  | returned {topic : Bool} {frames : List φ} (running : s.state.isClosed = false) :
      Finishes sizes s topic (.ok frames) (.ok (some frames)) s
  | droppedTopic {result : Except Error (List φ)} (running : s.state.isClosed = false) :
      Finishes sizes s true result (.ok none)
        { s with state := { s.state with dropped := s.state.dropped + 1 } }
  | closed {result : Except Error (List φ)} (running : s.state.isClosed = false)
      (reason : String) :
      Finishes sizes s false result (.ok none)
        { s with state := { s.state.close with closeReason := some reason } }

/-! ### Every call has one of the effects -/

section Specs

variable {s : Shared φ ρ}

/-- The loop runs only for a limited topic and a batch that can fit at all. -/
theorem makeRoom_spec {ε : Type} (topic : String) (topicLimit bytes : Nat)
    (summed : s.state.topicBytes = laneBytes s.state.topics) :
    Program.wp (makeRoom topic topicLimit bytes : Program (Shared φ ρ) ε Nat)
      (fun outcome after => ∃ count, outcome = .ok count ∧
        after = { s with state := after.state } ∧ Evicted topic count s.state after.state ∧
        (0 < topicLimit → bytes ≤ s.state.byteLimit →
          (after.state.topics.filter (Batch.ofTopic topic)).length < topicLimit)) s := by
  unfold makeRoom
  rw [Program.wp_bind, wp_readState, Program.andThen_ok]
  split
  · refine Program.wp_mono (evict_spec topic topicLimit bytes summed (Nat.lt_succ_self _)) ?_
    rintro _ after ⟨count, rfl, same, evicted, ended⟩
    refine ⟨count, rfl, same, evicted, fun positive _ => ?_⟩
    rcases ended with roomy | none
    · unfold State.crowded at roomy
      simp only [Bool.or_eq_false_iff, decide_eq_false_iff_not, not_le] at roomy
      exact roomy.1.1
    · rwa [none]
  · next excluded =>
      refine ⟨0, rfl, rfl, ⟨List.Sublist.refl _, rfl, summed, rfl⟩, fun positive fits => ?_⟩
      exact absurd ⟨fits, positive⟩ excluded

theorem enqueue_spec (connection : Connection) (topic : Option String) (topicLimit : Nat)
    (payload : Payload φ ρ)
    (summed : s.state.isClosed = false → s.state.topicBytes = laneBytes s.state.topics) :
    Program.wp (enqueue sizes connection topic topicLimit payload)
      (fun outcome after =>
        Enqueues sizes connection topicLimit payload s topic outcome after) s := by
  unfold enqueue
  rw [Program.wp_bind, wp_readState, Program.andThen_ok]
  cases closed : s.state.isClosed with
  | true => exact .refused closed
  | false =>
      rw [if_neg Bool.false_ne_true]
      cases topic with
      | none =>
          show Program.wp (if _ then _ else _) _ _
          split
          · exact .overflowed closed
          · next space => exact .queuedControl closed (by omega) (by omega)
      | some topic =>
          refine Program.wp_bind_of (makeRoom_spec topic topicLimit (payload.bytes sizes)
            (summed closed)) ?_ ?_ ?_
          · rintro count after ⟨_, ⟨⟩, same, evicted, limited⟩
            rw [storeTopic, Program.wp_bind, wp_modifyState, Program.andThen_ok, wp_notifyReady,
              same]
            split
            · exact .droppedTopic closed evicted limited
            · next room =>
                rw [not_or, not_le, not_lt] at room
                exact .queuedTopic closed evicted limited room.1 room.2
          · rintro cause after ⟨_, ⟨⟩, _⟩
          · rintro site after ⟨_, ⟨⟩, _⟩

theorem take_spec (sound : Sound s.state) :
    Program.wp take (fun outcome after => Takeoff s outcome after) s := by
  unfold take
  rw [Program.wp_bind, wp_readState, Program.andThen_ok]
  cases control : s.state.control with
  | cons batch rest =>
      have fits : batch.bytes ≤ s.state.controlBytes := by
        rw [sound.controlSum, control, laneBytes_cons]
        omega
      exact wp_bind_subtract fits (.control control)
  | nil =>
      cases topics : s.state.topics with
      | cons batch rest =>
          have fits : batch.bytes ≤ s.state.topicBytes := by
            rw [sound.topicSum, topics, laneBytes_cons]
            omega
          exact wp_bind_subtract fits (.topic control topics)
      | nil => exact .nothing control topics

theorem finish_spec (topic : Bool) (result : Except Error (List φ)) :
    Program.wp (finish sizes topic result)
      (fun outcome after => Finishes sizes s topic result outcome after) s := by
  unfold finish
  rw [Program.wp_bind, wp_readState, Program.andThen_ok]
  cases closed : s.state.isClosed with
  | true =>
      rw [if_pos (by rwa [Bool.or_comm])]
      exact .late closed
  | false =>
      rw [if_neg (by rw [Bool.or_comm]; exact Bool.eq_false_iff.mp closed)]
      have refused : ∀ reason, Program.wp (do
          reject topic reason
          pure none) (fun outcome after => Finishes sizes s topic result outcome after) s := by
        intro reason
        cases topic with
        | true => exact .droppedTopic closed
        | false => exact .closed closed reason
      cases result with
      | error cause => exact refused _
      | ok frames =>
          show Program.wp (if _ then _ else _) _ _
          split
          · exact .returned closed
          · exact refused _

end Specs

end Rosbridge.Outgoing
