import Rosbridge.Outgoing.Invariant

/-!
What a run of the send queue accepted and returned.

Owns: the batches accepted and returned in a run, read off its events; the batch in
flight; and the conservation law that ties them to the lanes and to the counter of
dropped batches while the queue is open.
-/

set_option autoImplicit false

namespace Rosbridge.Outgoing

open Foundation

variable {φ ρ : Type} {sizes : Sizes φ ρ}

/-! ### The record of a run -/

/-- The batch that a successful `enqueue` accepted. -/
def Event.accepted? (sizes : Sizes φ ρ) : Event φ ρ → Option (Batch φ ρ)
  | .enqueue connection topic _ payload (.ok _) =>
      some ⟨connection, topic, payload, payload.bytes sizes⟩
  | _ => none

/-- The batch whose frames the consumer got. -/
def Event.returned? : Event φ ρ → Option (Batch φ ρ)
  | .finish batch _ (.ok (some _)) => some batch
  | _ => none

/-- The batch taken and not yet decided on. -/
def Phase.inFlight : Phase φ ρ → List (Batch φ ρ)
  | .holding _ batch => [batch]
  | _ => []

/-- The topic batches of a list. -/
def topical (batches : List (Batch φ ρ)) : List (Batch φ ρ) :=
  batches.filter fun batch => batch.topic.isSome

/-- The control batches of a list. -/
def control (batches : List (Batch φ ρ)) : List (Batch φ ρ) :=
  batches.filter fun batch => batch.topic.isNone

def accepted (sizes : Sizes φ ρ) (log : List (Event φ ρ)) : List (Batch φ ρ) :=
  log.filterMap (Event.accepted? sizes)

def returned (log : List (Event φ ρ)) : List (Batch φ ρ) := log.filterMap Event.returned?

/-! ### Conservation -/

/-- Each lane holds batches of its own kind. -/
structure Sorted (s : State φ ρ) : Prop where
  topics : topical s.topics = s.topics ∧ control s.topics = []
  control : control s.control = s.control ∧ topical s.control = []

/-- No control batch is lost or duplicated, topic batches are only dropped, and every
drop is counted. -/
structure Conserved (sizes : Sizes φ ρ) (log : List (Event φ ρ)) (m : Machine φ ρ) : Prop where
  control : control (accepted sizes log) =
    control (returned log) ++ (control m.phase.inFlight ++ m.shared.state.control)
  ordered : (topical (returned log) ++ (topical m.phase.inFlight ++ m.shared.state.topics)).Sublist
    (topical (accepted sizes log))
  counted : (topical (accepted sizes log)).length = (topical (returned log)).length +
    m.shared.state.dropped + m.shared.state.topics.length + (topical m.phase.inFlight).length

theorem Mode.round_inFlight (mode : Mode) : (mode.round : Phase φ ρ).inFlight = [] := by
  cases mode <;> rfl

theorem Phase.checked_inFlight (s : State φ ρ) : (Phase.checked s).inFlight = [] := by
  unfold Phase.checked
  split
  · rfl
  · split <;> rfl

section Lists

variable (left right : List (Batch φ ρ)) (log : List (Event φ ρ)) (event : Event φ ρ)

@[simp] theorem topical_append : topical (left ++ right) = topical left ++ topical right :=
  List.filter_append ..

@[simp] theorem control_append : control (left ++ right) = control left ++ control right :=
  List.filter_append ..

@[simp] theorem accepted_snoc :
    accepted sizes (log ++ [event]) = accepted sizes log ++ (event.accepted? sizes).toList := by
  rw [accepted, List.filterMap_append, ← accepted]
  cases given : event.accepted? sizes <;> simp [given]

@[simp] theorem returned_snoc : returned (log ++ [event]) = returned log ++ event.returned?.toList := by
  rw [returned, List.filterMap_append, ← returned]
  cases given : event.returned? <;> simp [given]

end Lists

/-- What the conservation law needs while the queue is open. -/
def Balanced (sizes : Sizes φ ρ) (log : List (Event φ ρ)) (m : Machine φ ρ) : Prop :=
  m.shared.state.isClosed = false → Sorted m.shared.state ∧ Conserved sizes log m

/-- A step that moves no batch and leaves the state. -/
theorem Balanced.quiet {log : List (Event φ ρ)} {event : Event φ ρ} {before after : Machine φ ρ}
    (balanced : Balanced sizes log before) (state : after.shared.state = before.shared.state)
    (flight : after.phase.inFlight = before.phase.inFlight)
    (silent : event.accepted? sizes = none ∧ event.returned? = none) :
    Balanced sizes (log ++ [event]) after := by
  intro running
  rw [state] at running
  obtain ⟨sorted, conserved⟩ := balanced running
  refine ⟨state ▸ sorted, ?_, ?_, ?_⟩
  all_goals rw [accepted_snoc, returned_snoc, silent.1, silent.2, state, flight, Option.toList_none,
    List.append_nil, List.append_nil]
  · exact conserved.control
  · exact conserved.ordered
  · exact conserved.counted

@[simp] theorem topical_some (connection : Connection) (topic : String) (payload : Payload φ ρ)
    (bytes : Nat) : topical [(⟨connection, some topic, payload, bytes⟩ : Batch φ ρ)] =
      [⟨connection, some topic, payload, bytes⟩] := rfl

@[simp] theorem control_some (connection : Connection) (topic : String) (payload : Payload φ ρ)
    (bytes : Nat) : control [(⟨connection, some topic, payload, bytes⟩ : Batch φ ρ)] = [] := rfl

@[simp] theorem topical_none (connection : Connection) (payload : Payload φ ρ) (bytes : Nat) :
    topical [(⟨connection, none, payload, bytes⟩ : Batch φ ρ)] = [] := rfl

@[simp] theorem control_none (connection : Connection) (payload : Payload φ ρ) (bytes : Nat) :
    control [(⟨connection, none, payload, bytes⟩ : Batch φ ρ)] =
      [⟨connection, none, payload, bytes⟩] := rfl

theorem Evicted.control {topic : String} {count : Nat} {before after : State φ ρ}
    (evicted : Evicted topic count before after) : after.control = before.control := by
  rw [evicted.frame]

theorem Evicted.dropped {topic : String} {count : Nat} {before after : State φ ρ}
    (evicted : Evicted topic count before after) : after.dropped = before.dropped := by
  rw [evicted.frame]

/-- Evicting keeps the lanes sorted. -/
theorem Evicted.sorted {topic : String} {count : Nat} {before after : State φ ρ}
    (evicted : Evicted topic count before after) (sorted : Sorted before) : Sorted after := by
  have all : ∀ batch ∈ after.topics, batch.topic.isSome := fun batch member =>
    List.filter_eq_self.mp sorted.topics.1 batch (evicted.kept.subset member)
  refine ⟨⟨List.filter_eq_self.mpr all, List.filter_eq_nil_iff.mpr fun batch member => ?_⟩, ?_⟩
  · simpa using Option.isSome_iff_ne_none.mp (all batch member)
  · rw [evicted.frame]
    exact sorted.control

theorem Enqueues.balanced {connection : Connection} {topic : Option String} {topicLimit : Nat}
    {payload : Payload φ ρ} {outcome : Outcome SendError Unit} {s after : Shared φ ρ}
    {phase : Phase φ ρ} {log : List (Event φ ρ)}
    (effect : Enqueues sizes connection topicLimit payload s topic outcome after)
    (sorted : Sorted s.state) (conserved : Conserved sizes log ⟨s, phase⟩)
    (running : after.state.isClosed = false) :
    Sorted after.state ∧ Conserved sizes
      (log ++ [.enqueue connection topic topicLimit payload outcome]) ⟨after, phase⟩ := by
  cases effect with
  | refused closed => exact absurd (running.symm.trans closed) Bool.false_ne_true
  | queuedTopic _ evicted =>
      have keptSorted := evicted.sorted sorted
      have shorter := evicted.counted
      have counted := conserved.counted
      refine ⟨⟨by simp [keptSorted.topics], keptSorted.control⟩, ?_, ?_, ?_⟩
      · simpa [Event.accepted?, Event.returned?, evicted.control] using conserved.control
      · have ordered := (evicted.kept.append_left _).append_left _ |>.trans conserved.ordered
        simpa [Event.accepted?, Event.returned?] using ordered.append (List.Sublist.refl [_])
      · simp [Event.accepted?, Event.returned?, evicted.dropped] at counted ⊢
        omega
  | droppedTopic _ evicted =>
      have shorter := evicted.counted
      have counted := conserved.counted
      have keptSorted := evicted.sorted sorted
      refine ⟨⟨keptSorted.topics, keptSorted.control⟩, ?_, ?_, ?_⟩
      · simpa [Event.accepted?, Event.returned?, evicted.control] using conserved.control
      · have ordered := (evicted.kept.append_left _).append_left _ |>.trans conserved.ordered
        simpa [Event.accepted?, Event.returned?] using ordered.trans (List.sublist_append_left _ [_])
      · simp [Event.accepted?, Event.returned?, evicted.dropped] at counted ⊢
        omega
  | queuedControl =>
      refine ⟨⟨sorted.topics, by simp [sorted.control]⟩, ?_, ?_, ?_⟩
      · simp [Event.accepted?, Event.returned?, conserved.control]
      · simpa [Event.accepted?, Event.returned?] using conserved.ordered
      · simpa [Event.accepted?, Event.returned?] using conserved.counted
  | overflowed => exact absurd (running.symm.trans (Bool.or_true _)) Bool.false_ne_true

/-- The front of a lane of control batches, and the rest. -/
theorem control_front {batch : Batch φ ρ} {rest : List (Batch φ ρ)}
    (pure : control (batch :: rest) = batch :: rest) :
    control [batch] = [batch] ∧ topical [batch] = [] ∧ control rest = rest ∧ topical rest = [] := by
  have all := List.filter_eq_self.mp pure
  have front := all batch List.mem_cons_self
  have later := fun other member => all other (List.mem_cons_of_mem _ member)
  refine ⟨?_, ?_, List.filter_eq_self.mpr later, List.filter_eq_nil_iff.mpr fun other member => ?_⟩
  · simp [control, front]
  · simpa [topical] using front
  · simpa using later other member

/-- The front of a lane of topic batches, and the rest. -/
theorem topical_front {batch : Batch φ ρ} {rest : List (Batch φ ρ)}
    (pure : topical (batch :: rest) = batch :: rest) :
    topical [batch] = [batch] ∧ control [batch] = [] ∧ topical rest = rest ∧ control rest = [] := by
  have all := List.filter_eq_self.mp pure
  have front := all batch List.mem_cons_self
  have later := fun other member => all other (List.mem_cons_of_mem _ member)
  refine ⟨?_, ?_, List.filter_eq_self.mpr later, List.filter_eq_nil_iff.mpr fun other member => ?_⟩
  · simp [topical, front]
  · simpa [control, Option.isSome_iff_ne_none] using front
  · simpa [Option.isSome_iff_ne_none] using later other member

theorem Takeoff.balanced {outcome : Outcome TryRecvError (Batch φ ρ)} {s after : Shared φ ρ}
    {mode : Mode} {log : List (Event φ ρ)} (effect : Takeoff s outcome after)
    (sorted : Sorted s.state) (conserved : Conserved sizes log ⟨s, .taking mode⟩) :
    Sorted after.state ∧ Conserved sizes (log ++ [.take mode outcome])
      ⟨after, .taken mode outcome⟩ := by
  have balance := conserved.control
  have ordered := conserved.ordered
  have counted := conserved.counted
  have resting : (Phase.taking mode : Phase φ ρ).inFlight = [] := rfl
  rw [resting] at balance ordered counted
  cases effect with
  | @control batch rest queue =>
      have lane := sorted.control.1
      rw [queue] at lane balance
      obtain ⟨front, other, restPure, restOther⟩ := control_front lane
      have holding : (Phase.taken mode (.ok batch)).inFlight = [batch] := rfl
      refine ⟨⟨sorted.topics, restPure, restOther⟩, ?_, ?_, ?_⟩
      all_goals
        simp only [accepted_snoc, returned_snoc, Event.accepted?, Event.returned?,
          Option.toList_none, List.append_nil, holding, front, other]
      · exact balance
      · exact ordered
      · exact counted
  | @topic batch rest quiet queue =>
      have lane := sorted.topics.1
      rw [queue] at lane ordered counted
      obtain ⟨front, other, restPure, restOther⟩ := topical_front lane
      have holding : (Phase.taken mode (.ok batch)).inFlight = [batch] := rfl
      refine ⟨⟨⟨restPure, restOther⟩, sorted.control⟩, ?_, ?_, ?_⟩
      all_goals
        simp only [accepted_snoc, returned_snoc, Event.accepted?, Event.returned?,
          Option.toList_none, List.append_nil, holding, front, other]
      · exact balance
      · exact ordered
      · rw [counted]
        simp only [List.length_cons, List.length_nil, topical, List.filter_nil]
        omega
  | nothing quiet empty =>
      have after : ∀ closed : Bool, (Phase.taken mode
          (.error (if closed then .disconnected else .empty)) : Phase φ ρ).inFlight = [] := by
        intro closed
        cases closed <;> cases mode <;> rfl
      refine ⟨sorted, ?_, ?_, ?_⟩
      all_goals
        simp only [accepted_snoc, returned_snoc, Event.accepted?, Event.returned?,
          Option.toList_none, List.append_nil, after]
      · exact balance
      · exact ordered
      · exact counted

theorem Finishes.balanced {batch : Batch φ ρ} {result : Except Error (List φ)}
    {outcome : Outcome Error (Option (List φ))} {s after : Shared φ ρ} {mode : Mode}
    {log : List (Event φ ρ)} {topic : Bool} (kind : batch.topic.isSome = topic)
    (effect : Finishes sizes s topic result outcome after)
    (sorted : Sorted s.state) (conserved : Conserved sizes log ⟨s, .holding mode batch⟩)
    (running : after.state.isClosed = false) :
    Sorted after.state ∧ Conserved sizes (log ++ [.finish batch result outcome])
      ⟨after, .finished mode outcome⟩ := by
  have balance := conserved.control
  have ordered := conserved.ordered
  have counted := conserved.counted
  have holding : (Phase.holding mode batch).inFlight = [batch] := rfl
  rw [holding] at balance ordered counted
  cases effect with
  | late closed => exact absurd (running.symm.trans closed) Bool.false_ne_true
  | closed => exact absurd (running.symm.trans (Bool.or_true _)) Bool.false_ne_true
  | @returned topic frames =>
      have resting : (Phase.finished mode (.ok (some frames)) : Phase φ ρ).inFlight = [] := rfl
      have none : control ([] : List (Batch φ ρ)) = [] ∧ topical ([] : List (Batch φ ρ)) = [] :=
        ⟨rfl, rfl⟩
      refine ⟨sorted, ?_, ?_, ?_⟩
      all_goals
        simp only [accepted_snoc, returned_snoc, Event.accepted?, Event.returned?,
          Option.toList_none, Option.toList_some, List.append_nil, resting, control_append,
          topical_append, none, List.nil_append, List.append_assoc, List.length_append,
          List.length_nil]
      · exact balance
      · exact ordered
      · rw [counted]
        simp only
        omega
  | droppedTopic =>
      have resting : (Phase.finished mode (.ok none) : Phase φ ρ).inFlight = [] :=
        mode.round_inFlight
      have none : control ([] : List (Batch φ ρ)) = [] ∧ topical ([] : List (Batch φ ρ)) = [] :=
        ⟨rfl, rfl⟩
      have single : control [batch] = [] ∧ topical [batch] = [batch] := by
        rw [Option.isSome_iff_ne_none] at kind
        exact ⟨by simp [control, kind], by simpa [topical, Option.isSome_iff_ne_none] using kind⟩
      refine ⟨⟨sorted.topics, sorted.control⟩, ?_, ?_, ?_⟩
      all_goals
        simp only [accepted_snoc, returned_snoc, Event.accepted?, Event.returned?,
          Option.toList_none, List.append_nil, resting, none, List.nil_append, List.length_nil]
        simp only [single, List.nil_append, List.length_singleton] at balance ordered counted
      · exact balance
      · exact ((List.sublist_cons_self batch _).append_left _).trans ordered
      · rw [counted]
        omega

theorem Takes.balanced {log : List (Event φ ρ)} {event : Event φ ρ} {before after : Machine φ ρ}
    (taken : Takes sizes event before after) (safe : Safe before)
    (balanced : Balanced sizes log before) : Balanced sizes (log ++ [event]) after := by
  intro running
  have earlier : before.shared.state.isClosed = false := by
    cases closed : before.shared.state.isClosed with
    | false => rfl
    | true => exact absurd (running.symm.trans (taken.closed safe closed)) Bool.false_ne_true
  obtain ⟨sorted, conserved⟩ := balanced earlier
  cases taken with
  | enqueue phase ran => exact (safe.enqueues ran).balanced sorted conserved running
  | dropOutput => exact absurd (running.symm.trans (Bool.or_true _)) Bool.false_ne_true
  | call mode shared =>
      exact balanced.quiet rfl mode.round_inFlight ⟨rfl, rfl⟩ running
  | check shared =>
      exact balanced.quiet rfl (Phase.checked_inFlight shared.state) ⟨rfl, rfl⟩ running
  | wake | permit | canceled => exact balanced.quiet rfl rfl ⟨rfl, rfl⟩ running
  | take mode ran => exact (safe.takeoff nofun ran).balanced sorted conserved
  | finish mode encoded ran => exact (finishes ran).balanced rfl sorted conserved running
  | workerFailed encoding ran =>
      -- The worker's failure is reported as one of a control batch, which closes the queue.
      cases finishes ran with
      | late closed => exact absurd (running.symm.trans closed) Bool.false_ne_true
      | closed => exact absurd (running.symm.trans (Bool.or_true _)) Bool.false_ne_true
  | dropReceiver => cases running

end Rosbridge.Outgoing
