import Rosbridge.Outgoing.Conservation

/-!
The send queue of one client.

Owns: that the byte counters and the lanes stay within their bounds, that no control
batch is lost and every dropped topic batch is counted, and that a closed queue
stays closed and empty and reports it.
-/

set_option autoImplicit false

namespace Rosbridge.Outgoing

open Foundation

variable {φ ρ : Type} {sizes : Sizes φ ρ}

/-! ### Runs -/

/-- A critical section panicked. -/
def Event.Panics : Event φ ρ → Prop
  | .enqueue _ _ _ _ outcome => outcome.IsPanic
  | .take _ outcome => outcome.IsPanic
  | .finish _ _ outcome => outcome.IsPanic
  | _ => False

/-- What holds in every state of a run. -/
structure Regular (sizes : Sizes φ ρ) (capacity byteLimit : Nat) (log : List (Event φ ρ))
    (m : Machine φ ρ) : Prop where
  safe : Safe m
  balanced : Balanced sizes log m
  capacity : m.shared.state.capacity = capacity
  byteLimit : m.shared.state.byteLimit = byteLimit
  returns : ∀ event ∈ log, ¬ event.Panics

section Runs

variable {event : Event φ ρ} {before after : Machine φ ρ} {log : List (Event φ ρ)}
  {capacity byteLimit : Nat}

/-- The limits never change, and no critical section panics. -/
theorem Takes.limits (taken : Takes sizes event before after) (safe : Safe before) :
    after.shared.state.capacity = before.shared.state.capacity ∧
      after.shared.state.byteLimit = before.shared.state.byteLimit ∧ ¬ event.Panics := by
  cases taken with
  | enqueue phase ran =>
      cases safe.enqueues ran with
      | refused | queuedControl | overflowed => exact ⟨rfl, rfl, id⟩
      | queuedTopic _ evicted => exact ⟨evicted.capacity, evicted.byteLimit, id⟩
      | droppedTopic _ evicted => exact ⟨evicted.capacity, evicted.byteLimit, id⟩
  | dropOutput | call | check | wake | permit | canceled | dropReceiver => exact ⟨rfl, rfl, id⟩
  | take mode ran => cases safe.takeoff nofun ran <;> exact ⟨rfl, rfl, id⟩
  | @finish batch result outcome _ _ mode encoded ran =>
      generalize batch.topic.isSome = topic at ran
      cases finishes ran <;> exact ⟨rfl, rfl, id⟩
  | workerFailed encoding ran =>
      have effect := finishes ran
      generalize false = topic at effect
      cases effect <;> exact ⟨rfl, rfl, id⟩

theorem Regular.step (regular : Regular sizes capacity byteLimit log before)
    (taken : Takes sizes event before after) :
    Regular sizes capacity byteLimit (log ++ [event]) after := by
  obtain ⟨room, limit, returned⟩ := taken.limits regular.safe
  refine ⟨taken.safe regular.safe, taken.balanced regular.safe regular.balanced,
    room.trans regular.capacity, limit.trans regular.byteLimit, fun other member => ?_⟩
  rcases List.mem_append.mp member with earlier | last
  · exact regular.returns other earlier
  · exact List.mem_singleton.mp last ▸ returned

theorem regular {start : Shared φ ρ} {m : Machine φ ρ}
    (opened : channelWithPool capacity byteLimit = .ok start)
    (run : Trail (Takes sizes) log ⟨start, .idle⟩ m) :
    Regular sizes capacity byteLimit log m := by
  refine run.history (Regular sizes capacity byteLimit)
    (fun _ _ _ _ taken held => held.step taken) ?_
  unfold channelWithPool at opened
  split at opened
  · cases opened
    exact ⟨⟨fun _ => Sound.cleared rfl rfl rfl rfl, fun _ => ⟨rfl, rfl⟩, iff_of_false nofun nofun,
      nofun, nofun⟩, fun _ => ⟨⟨⟨rfl, rfl⟩, rfl, rfl⟩, rfl, List.Sublist.refl _, rfl⟩, rfl, rfl,
      nofun⟩
  · cases opened

end Runs

/-! ### Bounds -/

/-- Until the receiver is dropped the byte counters are the sizes of the lanes, and both
lanes are bounded in bytes and in batches. Right after a send of a limited topic at most
`topicLimit` of its batches are queued. No subtraction underflows and every eviction
ends: no step panics. -/
theorem queue_bounds {capacity byteLimit : Nat} {start : Shared φ ρ} {m : Machine φ ρ}
    {log : List (Event φ ρ)} (opened : channelWithPool capacity byteLimit = .ok start)
    (run : Trail (Takes sizes) log ⟨start, .idle⟩ m) :
    (∀ event ∈ log, ¬ event.Panics) ∧
    (m.shared.state.receiverClosed = false →
      m.shared.state.topicBytes = laneBytes m.shared.state.topics ∧
      m.shared.state.controlBytes = laneBytes m.shared.state.control ∧
      m.shared.state.topicBytes ≤ byteLimit ∧ m.shared.state.controlBytes ≤ byteLimit ∧
      m.shared.state.topics.length ≤ capacity ∧
      m.shared.state.control.length ≤ controlCapacity) ∧
    ∀ connection topic topicLimit payload outcome after,
      Takes sizes (.enqueue connection (some topic) topicLimit payload outcome) m after →
      0 < topicLimit → payload.bytes sizes ≤ byteLimit →
      (after.shared.state.topics.filter (Batch.ofTopic topic)).length ≤ topicLimit := by
  have regular := regular opened run
  refine ⟨regular.returns, fun present => ?_, ?_⟩
  · have sound := regular.safe.sound fun gone =>
      absurd (present.symm.trans (regular.safe.present.mpr gone)) Bool.false_ne_true
    have topics := sound.topicBound
    have control := sound.controlBound
    have room := sound.topicRoom
    rw [regular.byteLimit] at topics control
    rw [regular.capacity] at room
    exact ⟨sound.topicSum, sound.controlSum, topics, control, room, sound.controlRoom⟩
  · intro connection topic topicLimit payload outcome after taken positive fits
    rw [← regular.byteLimit] at fits
    cases taken with
    | enqueue phase ran =>
        cases regular.safe.enqueues ran with
        | refused closed =>
            rw [(regular.safe.cleared closed).1]
            exact Nat.zero_le _
        | queuedTopic _ _ limited =>
            rw [List.filter_append, List.length_append]
            have kept := limited positive fits
            have one := List.length_filter_le (Batch.ofTopic topic)
              [(⟨connection, some topic, payload, payload.bytes sizes⟩ : Batch φ ρ)]
            rw [List.length_singleton] at one
            omega
        | droppedTopic _ _ limited => exact (limited positive fits).le

/-- Frames and requests are byte strings, measured by their length. -/
def byteSizes : Sizes (List UInt8) (List UInt8) := ⟨List.length, List.length⟩

/-- A new queue of two batches and eight bytes for each lane. -/
def smallQueue : Shared (List UInt8) (List UInt8) :=
  ⟨⟨[], [], 0, 0, 2, 8, false, false, none, 0⟩, false, false⟩

/-- A topic limited to one batch: the second send evicts the first. -/
theorem queue_bounds_eviction : ∃ m, Trail (Takes byteSizes)
    [.enqueue 1 (some "/x") 1 (.frames [[0]]) (.ok ()),
      .enqueue 1 (some "/x") 1 (.frames [[1, 2]]) (.ok ())] ⟨smallQueue, .idle⟩ m ∧
    m.shared.state.dropped = 1 ∧ m.shared.state.topicBytes = laneBytes m.shared.state.topics := by
  have opened : channelWithPool 2 8 = .ok smallQueue := rfl
  have run : Trail (Takes byteSizes) [.enqueue 1 (some "/x") 1 (.frames [[0]]) (.ok ()),
      .enqueue 1 (some "/x") 1 (.frames [[1, 2]]) (.ok ())] ⟨smallQueue, .idle⟩ _ :=
    .cons (.enqueue _ rfl) (.cons (.enqueue _ rfl) (.nil _))
  exact ⟨_, run, rfl, ((queue_bounds opened run).2.1 rfl).1⟩

/-! ### Order and conservation -/

/-- The frames handed out for a batch are those it was encoded to. -/
def Event.Whole : Event φ ρ → Prop
  | .finish batch result (.ok (some frames)) => result = .ok frames ∧ batch.payload.Encodes result
  | _ => True

theorem Takes.whole {event : Event φ ρ} {before after : Machine φ ρ}
    (taken : Takes sizes event before after) : event.Whole := by
  cases taken with
  | @finish batch result outcome _ _ mode encoded ran =>
      generalize batch.topic.isSome = topic at ran
      cases finishes ran with
      | late | droppedTopic | closed => trivial
      | returned => exact ⟨rfl, encoded⟩
  | enqueue | dropOutput | call | check | wake | permit | canceled | take | workerFailed
  | dropReceiver => trivial

/-- While the queue is open: the control batches accepted are those returned, the one in
flight and those queued, in this order; the topic batches returned are a subsequence of
those accepted; the topic batches accepted are counted by those returned, the dropped
counter, those queued and the one in flight; and a batch's frames come all together. -/
theorem queue_conservation {capacity byteLimit : Nat} {start : Shared φ ρ} {m : Machine φ ρ}
    {log : List (Event φ ρ)} (opened : channelWithPool capacity byteLimit = .ok start)
    (run : Trail (Takes sizes) log ⟨start, .idle⟩ m)
    (running : m.shared.state.isClosed = false) :
    control (accepted sizes log) =
      control (returned log) ++ (control m.phase.inFlight ++ m.shared.state.control) ∧
    (topical (returned log)).Sublist (topical (accepted sizes log)) ∧
    (topical (accepted sizes log)).length = (topical (returned log)).length +
      m.shared.state.dropped + m.shared.state.topics.length +
      (topical m.phase.inFlight).length ∧
    ∀ event ∈ log, event.Whole := by
  obtain ⟨-, conserved⟩ := (regular opened run).balanced running
  refine ⟨conserved.control, (List.sublist_append_left _ _).trans conserved.ordered,
    conserved.counted, ?_⟩
  refine run.history (fun log _ => ∀ event ∈ log, event.Whole) ?_ nofun
  intro log event _ _ taken held other member
  rcases List.mem_append.mp member with earlier | last
  · exact held other earlier
  · exact List.mem_singleton.mp last ▸ taken.whole

/-- A control batch overtakes a topic batch that was sent before it. -/
theorem queue_conservation_control : ∃ m, Trail (Takes byteSizes)
    [.enqueue 1 (some "/x") 0 (.frames [[0]]) (.ok ()),
      .enqueue 1 none 0 (.frames [[1, 2], [3]]) (.ok ()), .call .tryRecv,
      .take .tryRecv (.ok ⟨1, none, .frames [[1, 2], [3]], 3⟩),
      .finish ⟨1, none, .frames [[1, 2], [3]], 3⟩ (.ok [[1, 2], [3]]) (.ok (some [[1, 2], [3]]))]
    ⟨smallQueue, .idle⟩ m ∧ m.shared.state.topics.length = 1 ∧
    (topical (accepted byteSizes [.enqueue 1 (some "/x") 0 (.frames [[0]]) (.ok ()),
      .enqueue 1 none 0 (.frames [[1, 2], [3]]) (.ok ())])).length =
      m.shared.state.dropped + m.shared.state.topics.length := by
  have opened : channelWithPool 2 8 = .ok smallQueue := rfl
  have run : Trail (Takes byteSizes) [.enqueue 1 (some "/x") 0 (.frames [[0]]) (.ok ()),
      .enqueue 1 none 0 (.frames [[1, 2], [3]]) (.ok ()), .call .tryRecv,
      .take .tryRecv (.ok ⟨1, none, .frames [[1, 2], [3]], 3⟩),
      .finish ⟨1, none, .frames [[1, 2], [3]], 3⟩ (.ok [[1, 2], [3]]) (.ok (some [[1, 2], [3]]))]
      ⟨smallQueue, .idle⟩ _ :=
    .cons (.enqueue _ rfl) (.cons (.enqueue _ rfl) (.cons (.call _ _) (.cons (.take _ rfl)
      (.cons (.finish _ rfl rfl) (.nil _)))))
  exact ⟨_, run, rfl, (queue_conservation opened run rfl).2.2.1⟩

/-! ### Closing -/

/-- What a step reports when the queue is closed. -/
def Event.Late : Event φ ρ → Prop
  | .enqueue _ _ _ _ outcome => outcome = .error .closed
  | .check disconnected => disconnected = true
  | .take _ outcome => outcome = .error .disconnected
  | .finish _ _ outcome => outcome = .ok none
  | _ => True

/-- The ways to close the queue. A topic batch does so neither by overflowing its lane nor
by failing to encode. -/
inductive Event.Closes : Event φ ρ → Prop where
  | overflow (connection : Connection) (topicLimit : Nat) (payload : Payload φ ρ) :
      Closes (.enqueue connection none topicLimit payload (.error .controlFull))
  | refused {batch : Batch φ ρ} {result : Except Error (List φ)} (control : batch.topic = none) :
      Closes (.finish batch result (.ok none))
  | workerFailed : Closes .workerFailed
  | dropOutput : Closes .dropOutput
  | dropReceiver : Closes .dropReceiver

section Closing

variable {event : Event φ ρ} {before after : Machine φ ρ}

theorem Safe.sender (safe : Safe before) (closed : before.shared.state.isClosed = true)
    (present : before.phase ≠ .gone) : before.shared.state.senderClosed = true := by
  rcases Bool.or_eq_true_iff.mp closed with receiver | sender
  · exact absurd (safe.present.mp receiver) present
  · exact sender

theorem Takes.late (taken : Takes sizes event before after) (safe : Safe before)
    (closed : before.shared.state.isClosed = true) : event.Late := by
  cases taken with
  | enqueue phase ran => exact ((safe.enqueues ran).after_close closed).1
  | check shared => exact safe.sender closed nofun
  | take mode ran =>
      have sender := safe.sender closed nofun
      obtain ⟨rfl, -⟩ := (safe.takeoff nofun ran).after_close safe.cleared closed
      show Outcome.error _ = Outcome.error _
      rw [if_pos sender]
  | finish mode encoded ran => exact ((finishes ran).after_close closed).1
  | dropOutput | call | wake | permit | canceled | workerFailed | dropReceiver => trivial

theorem Safe.continues_closed {more : List (Event φ ρ)} (safe : Safe before)
    (taken : Takes sizes event before after) (closed : before.shared.state.isClosed = true)
    (late : ∀ event ∈ more, event.Late) :
    after.shared.state.isClosed = true ∧ (∀ other ∈ more ++ [event], other.Late) ∧
      Safe after := by
  refine ⟨taken.closed safe closed, fun other member => ?_, taken.safe safe⟩
  rcases List.mem_append.mp member with earlier | last
  · exact late other earlier
  · exact List.mem_singleton.mp last ▸ taken.late safe closed

theorem Takes.closes (taken : Takes sizes event before after) (safe : Safe before)
    (running : before.shared.state.isClosed = false)
    (closed : after.shared.state.isClosed = true) : event.Closes := by
  have changed : after.shared.state.isClosed ≠ before.shared.state.isClosed := by
    rw [running, closed]
    exact Bool.noConfusion
  cases taken with
  | enqueue phase ran =>
      cases safe.enqueues ran with
      | refused | queuedControl => exact absurd rfl changed
      | queuedTopic _ evicted => exact absurd evicted.isClosed changed
      | droppedTopic _ evicted => exact absurd evicted.isClosed changed
      | overflowed => exact .overflow _ _ _
  | dropOutput => exact .dropOutput
  | call | check | wake | permit | canceled => exact absurd rfl changed
  | take mode ran => cases safe.takeoff nofun ran <;> exact absurd rfl changed
  | @finish batch result outcome _ _ mode encoded ran =>
      generalize kind : batch.topic.isSome = topic at ran
      cases finishes ran with
      | late | returned | droppedTopic => exact absurd rfl changed
      | closed => exact .refused (by simpa using kind)
  | workerFailed => exact .workerFailed
  | dropReceiver => exact .dropReceiver

/-- The consumer's own steps. -/
def Event.ByConsumer : Event φ ρ → Prop
  | .enqueue _ _ _ _ _ | .dropOutput | .dropReceiver => False
  | _ => True

section Completion

variable {shared : Shared φ ρ} {mode : Mode} {batch : Batch φ ρ}

theorem Safe.take_closed (safe : Safe ⟨shared, .taking mode⟩)
    (closed : shared.state.isClosed = true) :
    Takes sizes (.take mode (.error .disconnected)) ⟨shared, .taking mode⟩ ⟨shared, .idle⟩ := by
  have effect : Takeoff shared (Outgoing.take shared).1 (Outgoing.take shared).2 :=
    safe.takeoff nofun rfl
  obtain ⟨ended, same⟩ := effect.after_close safe.cleared closed
  rw [if_pos (safe.sender closed nofun)] at ended
  exact .take mode (Prod.ext ended same)

/-- In a closed queue a new round of the receive loop is the last one. -/
theorem Safe.round_completes (safe : Safe ⟨shared, mode.round⟩)
    (closed : shared.state.isClosed = true) : ∃ event : Event φ ρ, event.ByConsumer ∧
      Takes sizes event ⟨shared, mode.round⟩ ⟨shared, .idle⟩ := by
  cases mode with
  | tryRecv => exact ⟨.take .tryRecv _, trivial, safe.take_closed closed⟩
  | recv =>
      have resting : Phase.checked shared.state = .idle := if_pos (safe.sender closed nofun)
      exact ⟨.check shared.state.senderClosed, trivial, resting ▸ .check shared⟩

/-- A batch that was being encoded when the queue closed is given up. -/
theorem finish_closed (closed : shared.state.isClosed = true) (mode : Mode) (batch : Batch φ ρ) :
    ∃ result, Takes sizes (.finish batch result (.ok none)) ⟨shared, .holding mode batch⟩
      ⟨shared, mode.round⟩ := by
  have ran : ∀ result, finish sizes batch.topic.isSome result shared =
      ((.ok none, shared) : Outcome Error (Option (List φ)) × Shared φ ρ) := fun result => by
    have effect : Finishes sizes shared batch.topic.isSome result
        (finish sizes batch.topic.isSome result shared).1
        (finish sizes batch.topic.isSome result shared).2 := finishes rfl
    obtain ⟨ended, same⟩ := effect.after_close closed
    exact Prod.ext ended same
  cases encoded : batch.payload with
  | frames content => exact ⟨.ok content, .finish mode (by rw [encoded]; exact rfl) (ran _)⟩
  | encode request => exact ⟨.ok [], .finish mode (by rw [encoded]; trivial) (ran _)⟩

end Completion

/-- In a closed queue a consumer in the middle of a call can go on to its end. -/
theorem Safe.completes (safe : Safe before) (closed : before.shared.state.isClosed = true)
    (present : before.phase ≠ .gone) :
    ∃ more, (∀ event ∈ more, event.ByConsumer) ∧
      ∃ shared, Trail (Takes sizes) more before ⟨shared, .idle⟩ := by
  obtain ⟨shared, phase⟩ := before
  cases phase with
  | idle => exact ⟨[], nofun, shared, .nil _⟩
  | taking mode =>
      refine ⟨[_], ?_, shared, .single (safe.take_closed closed)⟩
      simp [Event.ByConsumer]
  | checking =>
      have round : Safe ⟨shared, Mode.recv.round⟩ := safe
      obtain ⟨event, own, taken⟩ := round.round_completes closed
      exact ⟨[event], by simpa using own, shared, .single taken⟩
  | awaiting =>
      have woken : Takes sizes .wake ⟨shared, .awaiting⟩ ⟨_, Mode.recv.round⟩ :=
        .wake (safe.woken rfl closed)
      obtain ⟨event, own, taken⟩ := (woken.safe safe).round_completes closed
      refine ⟨[.wake, event], ?_, _, .cons woken (.single taken)⟩
      simpa [Event.ByConsumer] using own
  | pooling =>
      refine ⟨[.canceled], ?_, _, .single (.canceled (safe.canceled rfl closed))⟩
      simp [Event.ByConsumer]
  | holding mode batch =>
      obtain ⟨result, finished⟩ := finish_closed closed mode batch
      obtain ⟨event, own, taken⟩ := (finished.safe safe).round_completes closed
      refine ⟨[_, event], ?_, shared, .cons finished (.single taken)⟩
      simpa [Event.ByConsumer] using own
  | gone => exact absurd rfl present

end Closing

/-- Once the queue is closed it stays closed and both lanes stay empty; a later send
reports it and changes nothing; no batch is returned, not even the one that was being
encoded; and what the consumer's calls report is disconnection, which a call always can
reach. A send reports a full control lane exactly when it closes the queue, and a topic
batch never closes it. -/
theorem closing_is_final {capacity byteLimit : Nat} {start : Shared φ ρ} {m : Machine φ ρ}
    {log : List (Event φ ρ)} (opened : channelWithPool capacity byteLimit = .ok start)
    (run : Trail (Takes sizes) log ⟨start, .idle⟩ m) :
    (m.shared.state.isClosed = true → ∀ more last, Trail (Takes sizes) more m last →
      last.shared.state.isClosed = true ∧ last.shared.state.topics = [] ∧
      last.shared.state.control = [] ∧ ∀ event ∈ more, event.Late) ∧
    (m.shared.state.isClosed = true → ∀ connection topic topicLimit payload outcome after,
      Takes sizes (.enqueue connection topic topicLimit payload outcome) m after →
      outcome = .error .closed ∧ after = m) ∧
    (m.shared.state.isClosed = true → m.phase ≠ .gone →
      ∃ more, (∀ event ∈ more, event.ByConsumer) ∧
        ∃ shared, Trail (Takes sizes) more m ⟨shared, .idle⟩) ∧
    (∀ connection topic topicLimit payload outcome after,
      Takes sizes (.enqueue connection topic topicLimit payload outcome) m after →
      (outcome = .error .controlFull ↔
        m.shared.state.isClosed = false ∧ after.shared.state.isClosed = true)) ∧
    ∀ event after, Takes sizes event m after → m.shared.state.isClosed = false →
      after.shared.state.isClosed = true → event.Closes := by
  have regular := regular opened run
  have safe := regular.safe
  refine ⟨fun closed more last continued => ?_, ?_, safe.completes, ?_, ?_⟩
  · obtain ⟨shut, late, after⟩ := continued.history
      (fun more m => m.shared.state.isClosed = true ∧ (∀ event ∈ more, event.Late) ∧ Safe m)
      (fun _ _ _ _ taken held => held.2.2.continues_closed taken held.1 held.2.1)
      ⟨closed, nofun, safe⟩
    exact ⟨shut, (after.cleared shut).1, (after.cleared shut).2, late⟩
  · intro closed connection topic topicLimit payload outcome after taken
    cases taken with
    | enqueue phase ran =>
        obtain ⟨rfl, rfl⟩ := (safe.enqueues ran).after_close closed
        exact ⟨rfl, rfl⟩
  · intro connection topic topicLimit payload outcome after taken
    cases taken with
    | enqueue phase ran =>
        cases safe.enqueues ran with
        | refused closed =>
            refine iff_of_false nofun fun both => ?_
            exact absurd (both.1.symm.trans closed) Bool.false_ne_true
        | queuedTopic running evicted =>
            refine iff_of_false nofun fun both => ?_
            exact absurd (running.symm.trans (evicted.isClosed.symm.trans both.2))
              Bool.false_ne_true
        | droppedTopic running evicted =>
            refine iff_of_false nofun fun both => ?_
            exact absurd (running.symm.trans (evicted.isClosed.symm.trans both.2))
              Bool.false_ne_true
        | queuedControl running =>
            exact iff_of_false nofun fun both =>
              absurd (running.symm.trans both.2) Bool.false_ne_true
        | overflowed running => exact iff_of_true rfl ⟨running, Bool.or_true _⟩
  · exact fun event after taken => taken.closes safe

/-- The queue is closed while a topic batch is being encoded. -/
theorem closing_is_final_in_flight : ∃ m, Trail (Takes byteSizes)
    [.enqueue 1 (some "/x") 0 (.encode [0]) (.ok ()), .call .tryRecv,
      .take .tryRecv (.ok ⟨1, some "/x", .encode [0], 1⟩), .dropOutput] ⟨smallQueue, .idle⟩ m ∧
    ∀ event last, Takes byteSizes event m last → event.Late := by
  have opened : channelWithPool 2 8 = .ok smallQueue := rfl
  have run : Trail (Takes byteSizes) [.enqueue 1 (some "/x") 0 (.encode [0]) (.ok ()),
      .call .tryRecv, .take .tryRecv (.ok ⟨1, some "/x", .encode [0], 1⟩), .dropOutput]
      ⟨smallQueue, .idle⟩ _ :=
    .cons (.enqueue _ rfl) (.cons (.call _ _) (.cons (.take _ rfl) (.cons (.dropOutput _ _)
      (.nil _))))
  refine ⟨_, run, fun event last taken => ?_⟩
  exact ((closing_is_final opened run).1 rfl [event] last (.single taken)).2.2.2 event
    List.mem_cons_self

end Rosbridge.Outgoing
