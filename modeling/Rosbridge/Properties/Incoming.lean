import Rosbridge.Incoming.History

/-!
Scheduling of the incoming channel.

Owns: that no call panics, that the ready queue and the clients agree, that the
commands of a registration are returned in order and completely, and that a
connection is overtaken at most once by any other.
-/

set_option autoImplicit false

namespace Rosbridge.Incoming

open Foundation

variable {ω : Type}

/-! ### Invariants of a run -/

section Invariants

variable {event : Event ω} {log : List (Event ω)} {before after : State ω} {id : Connection}

theorem Effect.capacity (effect : Effect event before after) :
    after.capacity = before.capacity := by
  cases effect with
  | refused | unknown | shut | finished | idle => rfl
  | connected _ _ turns | accepted _ _ _ turns | leaving _ turns | dropped _ _ _ turns
  | introduced _ _ _ _ turns | delivered _ _ _ _ _ turns => exact turns.capacity

theorem Effect.returns (effect : Effect event before after) : ¬ event.outcome.IsPanic := by
  cases effect <;> exact id

/-- The commands returned for `id`, in order. -/
def returned (id : Connection) (log : List (Event ω)) : List (Command ω) :=
  log.filterMap (Event.returned? id)

/-- Every command returned belongs to a registration. -/
def Attributed (id : Connection) (log : List (Event ω)) : Prop :=
  (chronicle id log).reverse.flatMap Registration.returned = returned id log

theorem flatMap_modifyHead (change : Registration ω → Registration ω)
    (keeps : ∀ registration, (change registration).returned = registration.returned)
    (chronicle : List (Registration ω)) :
    (chronicle.modifyHead change).reverse.flatMap Registration.returned =
      chronicle.reverse.flatMap Registration.returned := by
  cases chronicle with
  | nil => rfl
  | cons newest past => simp [List.flatMap_append, keeps]

/-- An event that returns nothing for `id` leaves what was returned for it. -/
theorem Event.record_silent (silent : event.returned? id = none)
    (chronicle : List (Registration ω)) :
    (event.record id chronicle).reverse.flatMap Registration.returned =
      chronicle.reverse.flatMap Registration.returned := by
  unfold Event.record
  split
  · split
    · simp [List.flatMap_append]
    · rfl
  · split
    · refine flatMap_modifyHead _ ?_ chronicle
      exact fun _ => rfl
    · rfl
  · split
    · refine flatMap_modifyHead _ ?_ chronicle
      exact fun _ => rfl
    · rfl
  · next command called ended =>
      split
      · next own =>
          rw [Event.returned?, called, ended] at silent
          simp [own] at silent
      · rfl
  · rfl

theorem Event.returned?_some {command : Command ω}
    (returns : event.returned? id = some command) :
    event.call = .tryRecv ∧ event.outcome = .ok (some command) ∧
      command.connection? = some id := by
  unfold Event.returned? at returns
  split at returns
  · next called ended =>
      split at returns
      · next own =>
          cases returns
          exact ⟨called, ended, own⟩
      · cases returns
  · cases returns

/-- A command is returned for a client that the channel knows. -/
theorem Effect.known (effect : Effect event before after) {command : Command ω}
    (ended : event.outcome = .ok (some command)) (own : command.connection? = some id) :
    ∃ client, before.clients.lookup id = some client := by
  cases effect with
  | refused | connected | accepted | unknown | leaving | shut | idle => cases ended
  | finished =>
      cases ended
      cases own
  | dropped _ found | introduced _ found | delivered _ found =>
      cases ended
      cases own
      exact ⟨_, found⟩

theorem Effect.attributed (effect : Effect event before after) (holds : RecordedIn log before)
    (attributed : Attributed id log) : Attributed id (log ++ [event]) := by
  unfold Attributed returned at attributed ⊢
  rw [chronicle_snoc, List.filterMap_append, ← attributed]
  cases returns : event.returned? id with
  | none =>
      rw [Event.record_silent returns, List.filterMap_cons_none returns, List.filterMap_nil,
        List.append_nil]
  | some command =>
      obtain ⟨called, ended, own⟩ := Event.returned?_some returns
      obtain ⟨client, found⟩ := effect.known ended own
      obtain ⟨newest, past, chronicled, -⟩ := holds.at found
      obtain ⟨call, outcome⟩ := event
      cases called
      cases ended
      rw [Event.record_returned _ _ own, chronicled, List.filterMap_cons_some returns]
      simp [List.flatMap_append]

/-- What holds in every state of a run. -/
structure Regular (capacity : Nat) (log : List (Event ω)) (s : State ω) : Prop where
  coherent : Coherent s
  capacity : s.capacity = capacity
  recorded : RecordedIn log s
  attributed : ∀ id, Attributed id log
  returns : ∀ event ∈ log, ¬ event.outcome.IsPanic

theorem Regular.step {capacity : Nat} (regular : Regular capacity log before)
    (taken : Takes event before after) : Regular capacity (log ++ [event]) after := by
  have effect := taken.effect regular.coherent
  refine ⟨effect.coherent regular.coherent, effect.capacity.trans regular.capacity,
    effect.recorded regular.recorded,
    fun id => effect.attributed regular.recorded (regular.attributed id), ?_⟩
  intro other member
  rcases List.mem_append.mp member with earlier | last
  · exact regular.returns other earlier
  · exact List.mem_singleton.mp last ▸ effect.returns

theorem regular {capacity : Nat} {start last : State ω} (opened : channel capacity = .ok start)
    (run : Trail Takes log start last) : Regular capacity log last := by
  obtain ⟨coherent, same, -, empty⟩ := Coherent.opened opened
  refine run.history (Regular capacity) (fun _ _ _ _ taken held => held.step taken)
    ⟨coherent, same, fun id => ?_, fun _ => rfl, by simp⟩
  rw [empty, AList.lookup_empty]
  intro registration member
  cases member

end Invariants

/-! ### No loss, no duplication, no panic -/

/-- In every state of every run: no call has panicked; while the channel is open the
ready queue lists exactly the clients with work, each once, and no queue exceeds the
capacity; and the commands returned for a connection are those of its registrations,
one after another. Of each registration they are the first commands sent, in order,
then `Disconnect` if that was asked for. Nothing of the current registration is
missing unless it is being disconnected, and an earlier one has ended. -/
theorem incoming_scheduling {capacity : Nat} {start last : State ω} {log : List (Event ω)}
    (opened : channel capacity = .ok start) (run : Trail Takes log start last) :
    (∀ event ∈ log, ¬ event.outcome.IsPanic) ∧
    (last.closed = false →
      last.ready.Nodup ∧
      (∀ id, id ∈ last.ready ↔ ∃ client, last.clients.lookup id = some client ∧
        client.scheduled = true ∧ client.HasWork) ∧
      ∀ id client, last.clients.lookup id = some client →
        (client.HasWork → client.scheduled = true) ∧ client.messages.length ≤ capacity) ∧
    ∀ id,
      (chronicle id log).reverse.flatMap Registration.returned = returned id log ∧
      (∀ registration ∈ chronicle id log, registration.Open id ∨ registration.Ended id) ∧
      (∀ client, last.clients.lookup id = some client →
        ∃ newest past, chronicle id log = newest :: past ∧ newest.Open id ∧
          (newest.disconnected = false →
            newest.returned ++ client.pending id = newest.commands id) ∧
          ∀ registration ∈ past, registration.Ended id) ∧
      (last.closed = false → last.clients.lookup id = none →
        ∀ registration ∈ chronicle id log, registration.Ended id) := by
  have regular := regular opened run
  have coherent := regular.coherent
  refine ⟨regular.returns, fun running => ⟨coherent.distinct, fun id => ?_, ?_⟩, fun id =>
    ⟨regular.attributed id, ?_, ?_, ?_⟩⟩
  · rw [coherent.listed id]
    constructor
    · rintro ⟨client, found, scheduled⟩
      exact ⟨client, found, scheduled, (coherent.sound id client found).busy.mp scheduled⟩
    · rintro ⟨client, found, scheduled, -⟩
      exact ⟨client, found, scheduled⟩
  · intro id client found
    have sound := coherent.sound id client found
    exact ⟨sound.busy.mpr, regular.capacity ▸ sound.bounded⟩
  · intro registration member
    cases found : last.clients.lookup id with
    | none =>
        have here := regular.recorded id
        rw [found] at here
        exact (here registration member).elim .inr fun shut => .inl shut.2
    | some client =>
        obtain ⟨newest, past, chronicled, continues, ended⟩ := regular.recorded.at found
        rw [chronicled] at member
        rcases List.mem_cons.mp member with rfl | older
        · exact .inl continues.ordered
        · exact .inr (ended registration older)
  · intro client found
    obtain ⟨newest, past, chronicled, continues, ended⟩ := regular.recorded.at found
    exact ⟨newest, past, chronicled, continues.ordered, continues.complete, ended⟩
  · intro running absent registration member
    have here := regular.recorded id
    rw [absent, running] at here
    exact (here registration member).resolve_right fun shut => Bool.false_ne_true shut.1

/-- A connection that disconnects before its `Connect` was taken. -/
theorem incoming_scheduling_disconnect :
    let run := performAll [.connect 7 (), .message 7 .null, .message 7 .null, .disconnect 7,
      .tryRecv] ⟨∅, [], 1, false⟩
    run.2.ready = [] ∧ ∀ registration ∈ chronicle 7 run.1, registration.Ended 7 :=
  ⟨by decide, ((incoming_scheduling (channel_pos (by decide)) (performAll_run _ _)).2.2 7).2.2.2 (by decide)
    (by decide)⟩

/-! ### Round robin -/

/-- How the `tryRecv` calls ended, in order. -/
def answers (log : List (Event ω)) : List (Outcome Error (Option (Command ω))) :=
  log.filterMap fun event =>
    match event.call with
    | .tryRecv => some event.outcome
    | _ => none

/-- The connection whose command a call returned. -/
def served : Outcome Error (Option (Command ω)) → Option Connection
  | .ok (some command) => command.connection?
  | _ => none

theorem served_eq_some {outcome : Outcome Error (Option (Command ω))} {id : Connection}
    (own : served outcome = some id) :
    ∃ command, outcome = .ok (some command) ∧ command.connection? = some id := by
  match outcome, own with
  | .ok (some command), own => exact ⟨command, rfl, own⟩

section RoundRobin

variable {event : Event ω} {more : List (Event ω)} {before after last : State ω}

/-- A send only adds to the back of the ready queue. -/
theorem Effect.extends (effect : Effect event before after) (sent : event.call ≠ .tryRecv)
    (ongoing : event.call ≠ .shutdown) : before.ready <+: after.ready := by
  have extended : ∀ id scheduled, before.ready <+: queued id scheduled before.ready := by
    intro id scheduled
    unfold queued
    split
    · exact List.prefix_refl _
    · exact List.prefix_append _ _
  cases effect with
  | refused | unknown => exact List.prefix_refl _
  | connected _ _ turns => exact turns.ready ▸ List.prefix_append _ _
  | accepted _ _ _ turns | leaving _ turns => exact turns.ready ▸ extended _ _
  | shut => exact absurd rfl ongoing
  | finished | idle | dropped | introduced | delivered => exact absurd rfl sent

/-- The receiver serves the front of the ready queue and keeps the order of the rest. -/
theorem Effect.serves (effect : Effect event before after) (received : event.call = .tryRecv)
    (coherent : Coherent before) {id : Connection} {rest : List Connection}
    (queue : before.ready = id :: rest) :
    served event.outcome = some id ∧ rest <+: after.ready := by
  have kept : ∀ id scheduled, rest <+: queued id scheduled rest := by
    intro id scheduled
    unfold queued
    split
    · exact List.prefix_refl _
    · exact List.prefix_append _ _
  cases effect with
  | refused sent => exact absurd received sent
  | connected | accepted | unknown | leaving | shut => cases received
  | finished closed =>
      rw [(coherent.emptied closed).2] at queue
      cases queue
  | idle running empty =>
      rw [empty] at queue
      cases queue
  | dropped front _ _ turns =>
      cases front.symm.trans queue
      exact ⟨rfl, turns.ready ▸ List.prefix_refl _⟩
  | introduced front _ _ _ turns =>
      cases front.symm.trans queue
      exact ⟨rfl, turns.ready ▸ kept _ _⟩
  | delivered front _ _ _ _ turns =>
      cases front.symm.trans queue
      exact ⟨rfl, turns.ready ▸ kept _ _⟩

/-- The connections in the ready queue are served one after another. -/
theorem answers_served (run : Trail Takes more before last) (coherent : Coherent before)
    (ongoing : ∀ event ∈ more, event.call ≠ .shutdown) (ids : List Connection)
    (queue : ids <+: before.ready) :
    ((answers more).map served).take ids.length = (ids.map some).take (answers more).length := by
  induction run generalizing ids with
  | nil => simp [answers]
  | @cons event more before middle _ taken _ inductionHypothesis =>
      have effect := taken.effect coherent
      have later := inductionHypothesis (effect.coherent coherent)
        fun event member => ongoing event (List.mem_cons_of_mem _ member)
      by_cases received : event.call = .tryRecv
      · have split : answers (event :: more) = event.outcome :: answers more := by
          unfold answers
          rw [List.filterMap_cons_some]
          simp [received]
        cases ids with
        | nil => simp
        | cons id ids =>
            obtain ⟨suffix, queue⟩ := queue
            obtain ⟨own, kept⟩ := effect.serves received coherent queue.symm
            rw [split, List.map_cons, own, List.length_cons, List.length_cons, List.map_cons,
              List.take_succ_cons, List.take_succ_cons,
              later ids ((List.prefix_append _ _).trans kept)]
      · have split : answers (event :: more) = answers more := by
          unfold answers
          rw [List.filterMap_cons_none]
          cases called : event.call <;> simp_all
        rw [split]
        exact later ids
          (queue.trans (effect.extends received (ongoing event List.mem_cons_self)))

/-- The answer at a position of the ready queue. -/
theorem served_at {ids : List Connection} {given : List (Outcome Error (Option (Command ω)))}
    (order : (given.map served).take ids.length = (ids.map some).take given.length)
    {place : Nat} {id : Connection} {answer : Outcome Error (Option (Command ω))}
    (queued : ids[place]? = some id) (answered : given[place]? = some answer) :
    served answer = some id := by
  have inQueue := (List.getElem?_eq_some_iff.mp queued).1
  have inAnswers := (List.getElem?_eq_some_iff.mp answered).1
  have same := congrArg (fun list => list[place]?) order
  simp only [List.getElem?_take, inQueue, inAnswers, if_true, List.getElem?_map, queued, answered,
    Option.map_some, Option.some.injEq] at same
  exact same

end RoundRobin

/-- Take any reachable state, a connection `b` at position `k` of its ready queue, and
any continuation without a shutdown. The call of `tryRecv` with `k` before it returns
a command of `b`, the calls before it return commands of others, and at most one of
these belongs to any one connection. -/
theorem round_robin {capacity k : Nat} {start s last : State ω} {log more : List (Event ω)}
    {b : Connection} (opened : channel capacity = .ok start) (run : Trail Takes log start s)
    (position : s.ready[k]? = some b) (continued : Trail Takes more s last)
    (ongoing : ∀ event ∈ more, event.call ≠ .shutdown) :
    (∀ answer, (answers more)[k]? = some answer →
      ∃ command, answer = .ok (some command) ∧ command.connection? = some b) ∧
    (∀ answer ∈ (answers more).take k,
      ∃ command, answer = .ok (some command) ∧ command.connection? ≠ some b) ∧
    ∀ a, (((answers more).take k).map served).count (some a) ≤ 1 := by
  have coherent := (regular opened run).coherent
  have order := answers_served continued coherent ongoing s.ready (List.prefix_refl _)
  have inQueue : k < s.ready.length := (List.getElem?_eq_some_iff.mp position).1
  refine ⟨fun answer answered => served_eq_some (served_at order position answered), ?_, ?_⟩
  · intro answer member
    obtain ⟨place, answered⟩ := List.mem_iff_getElem?.mp member
    have earlier : place < k := by
      have := (List.getElem?_eq_some_iff.mp answered).1
      rw [List.length_take] at this
      omega
    rw [List.getElem?_take_of_lt earlier] at answered
    have queued := List.getElem?_eq_getElem (earlier.trans inQueue)
    obtain ⟨command, returned, own⟩ := served_eq_some (served_at order queued answered)
    refine ⟨command, returned, fun same => earlier.ne ?_⟩
    rw [own] at same
    exact (coherent.distinct.getElem_inj_iff).mp
      ((Option.some.inj same).trans (List.getElem?_eq_some_iff.mp position).2.symm)
  · intro a
    have distinct : (s.ready.map some).Nodup :=
      coherent.distinct.map (Option.some_injective _)
    have listed : (((answers more).take k).map served).Sublist (s.ready.map some) := by
      rw [List.map_take, ← Nat.min_eq_left inQueue.le, ← List.take_take, order]
      exact (List.take_sublist _ _).trans (List.take_sublist _ _)
    exact List.nodup_iff_count_le_one.mp (distinct.sublist listed) (some a)

/-- Connection `8` waits behind a connection that keeps sending. -/
theorem round_robin_noisy :
    let s := (performAll [.connect 7 (), .connect 8 ()] ⟨∅, [], 5, false⟩).2
    let more := (performAll [.message 7 .null, .message 7 .null, .tryRecv, .message 7 .null,
      .tryRecv, .tryRecv] s).1
    s.ready = [7, 8] ∧ (answers more).length = 3 ∧
      ∀ a, (((answers more).take 1).map served).count (some a) ≤ 1 := by
  intro s more
  have position : s.ready[1]? = some 8 := by decide
  have ongoing : ∀ event ∈ more, event.call ≠ .shutdown := fun event member shut => by
    have := mem_performAll member
    rw [shut] at this
    simp at this
  exact ⟨by decide, by decide,
    (round_robin (channel_pos (by decide)) (performAll_run _ _) position (performAll_run _ s) ongoing).2.2⟩

end Rosbridge.Incoming
