import Rosbridge.Properties.Lifecycle
import Rosbridge.Refine.Deadlines

/-!
How long the worker waits, and what the next tick does.

Owns: that the wait `nextWakeup` allows ends when a duty is due; that the rest of a
tick makes no new duties; and from both that waiting agrees with ticking.
-/

set_option autoImplicit false

namespace Rosbridge

open Foundation Program

/-! ### What is due -/

section Due

variable {b : Bridge} {now : Instant}

theorem ClientSubscription.due_eq_zero {topic : String} {owner : Connection}
    {client : ClientSubscription} : client.due now topic owner = 0 ↔
      (client.pending ≠ [] → ∃ last, client.last = some last ∧
        Instant.since now last < client.options.throttle) := by
  unfold ClientSubscription.due
  cases queued : client.pending with
  | nil => simp
  | cons sample rest =>
      cases before : client.last with
      | none => simp
      | some last => simp [Option.all_some]

/-- Nothing is due as long as every deadline and every throttle is ahead. -/
theorem Bridge.due_eq_zero : b.due now = 0 ↔
    (∀ key call, b.calls.lookup key = some call → now < call.expires) ∧
    (∀ id request, b.external.lookup id = some request → now < request.expires) ∧
    (∀ key goal, b.goals.lookup key = some goal → goal.accepted = false →
      now < goal.acceptanceDeadline) ∧
    ∀ topic subscription, b.subscriptions.lookup topic = some subscription →
      ∀ owner client, subscription.clients.lookup owner = some client → client.pending ≠ [] →
        ∃ last, client.last = some last ∧
          Instant.since now last < client.options.throttle := by
  have goal {accepted : Bool} {deadline : Instant} {key : String} :
      (if !accepted && decide (deadline ≤ now) then ({.goal key} : Multiset Duty) else 0) = 0 ↔
        (accepted = false → now < deadline) := by
    cases accepted <;> simp
  rw [Bridge.due, ← Multiset.card_eq_zero, Multiset.card_add, Multiset.card_add,
    Multiset.card_add]
  simp only [Nat.add_eq_zero_iff, Multiset.card_eq_zero, Bridge.dueCalls, Bridge.dueRequests,
    Bridge.dueGoals, Bridge.dueSamples, Subscription.due, AList.total_eq_zero, goal,
    ClientSubscription.due_eq_zero, and_assoc, ite_eq_right_iff, Multiset.singleton_ne_zero,
    imp_false, Nat.not_le]

end Due

/-! ### The wait -/

theorem le_foldl_min {bound : Nat} : ∀ {times : List Nat} {start : Nat},
    bound ≤ times.foldl min start ↔ bound ≤ start ∧ ∀ time ∈ times, bound ≤ time
  | [], start => by simp
  | time :: rest, start => by
      rw [List.foldl_cons, le_foldl_min, Nat.le_min, and_assoc, List.forall_mem_cons]

section Wait

variable {env : Environment} {m : Machine} {now : Instant}

/-- How long the throttle of a client still holds back its queued samples. -/
def ClientSubscription.remaining (now : Instant) (client : ClientSubscription) : Duration :=
  match client.last with
  | none => 0
  | some last => client.options.throttle - Instant.since now last

/-- A wait is allowed as long as no deadline comes earlier. -/
theorem nextWakeup_spec (reading : env.instant m.log = now) :
    ∃ wait, (nextWakeup env m).1 = .ok wait ∧ ∀ bound, bound ≤ wait ↔
      bound ≤ Duration.fromMillis 100 ∧
      (∀ key call, m.bridge.calls.lookup key = some call →
        bound ≤ Instant.since call.expires now) ∧
      (∀ id request, m.bridge.external.lookup id = some request →
        bound ≤ Instant.since request.expires now) ∧
      (∀ key goal, m.bridge.goals.lookup key = some goal → goal.accepted = false →
        bound ≤ Instant.since goal.acceptanceDeadline now) ∧
      ∀ topic subscription, m.bridge.subscriptions.lookup topic = some subscription →
        ∀ owner client, subscription.clients.lookup owner = some client → client.pending ≠ [] →
          bound ≤ client.remaining now := by
  subst reading
  refine ⟨_, rfl, fun bound => ?_⟩
  rw [le_foldl_min]
  simp only [AList.lookup_eq_some_iff]
  refine and_congr_right fun _ => ?_
  simp only [List.mem_append, or_imp, forall_and, List.mem_map, List.mem_filter,
    List.mem_flatMap, forall_exists_index, and_imp, forall_apply_eq_imp_iff₂]
  constructor
  · rintro ⟨⟨⟨calls, requests⟩, goals⟩, clients⟩
    refine ⟨fun key call => calls ⟨key, call⟩, fun id request => requests ⟨id, request⟩, ?_, ?_⟩
    · intro key goal member unaccepted
      exact goals _ ⟨key, goal⟩ member (by rw [unaccepted]; rfl) rfl
    · intro topic subscription member owner client inside queued
      exact clients _ ⟨owner, client⟩ ⟨topic, subscription⟩ member inside (by simpa using queued)
        rfl
  · rintro ⟨calls, requests, goals, clients⟩
    refine ⟨⟨⟨fun entry => calls entry.1 entry.2, fun entry => requests entry.1 entry.2⟩, ?_⟩, ?_⟩
    · rintro _ entry member unaccepted rfl
      exact goals entry.1 entry.2 member (by simpa using unaccepted)
    · rintro _ entry topic member inside queued rfl
      exact clients topic.1 topic.2 member entry.1 entry.2 inside (by simpa using queued)

/-- A point in time before a deadline. -/
theorem lt_of_wait {now wait time deadline : Nat} (positive : 0 < wait)
    (bound : wait ≤ deadline - now) (early : time < now + wait) : time < deadline := by
  omega

/-- A throttle that has not passed by the end of a wait has not passed earlier. -/
theorem held_of_wait {now wait time last throttle : Nat} (positive : 0 < wait)
    (bound : wait ≤ throttle - (now - last)) (early : time < now + wait) :
    time - last < throttle := by
  omega

/-- The wait is over exactly when a duty is due, and no duty is due before it is over. -/
theorem nextWakeup_due (reading : env.instant m.log = now) :
    ∃ wait, (nextWakeup env m).1 = .ok wait ∧ wait ≤ Duration.fromMillis 100 ∧
      (wait = 0 ↔ m.bridge.due now ≠ 0) ∧
      (0 < wait → ∀ time, time < now + wait → m.bridge.due time = 0) := by
  obtain ⟨wait, returned, spec⟩ := nextWakeup_spec reading
  obtain ⟨limit, calls, requests, goals, clients⟩ := (spec wait).mp le_rfl
  have free : 0 < wait → ∀ time, time < now + wait → m.bridge.due time = 0 := by
    intro positive time early
    refine Bridge.due_eq_zero.mpr ⟨?_, ?_, ?_, ?_⟩
    · intro key call found
      exact lt_of_wait positive (calls key call found) early
    · intro id request found
      exact lt_of_wait positive (requests id request found) early
    · intro key goal found unaccepted
      exact lt_of_wait positive (goals key goal found unaccepted) early
    · intro topic subscription found owner client inside queued
      have bound := clients topic subscription found owner client inside queued
      unfold ClientSubscription.remaining at bound
      cases before : client.last with
      | none =>
          rw [before] at bound
          exact absurd (positive.trans_le bound) (Nat.lt_irrefl 0)
      | some last =>
          rw [before] at bound
          exact ⟨last, rfl, held_of_wait positive bound early⟩
  refine ⟨wait, returned, limit, ⟨fun isOver none => ?_, fun due => ?_⟩, free⟩
  · obtain ⟨calls, requests, goals, clients⟩ := Bridge.due_eq_zero.mp none
    have later : 1 ≤ wait := by
      apply (spec 1).mpr
      refine ⟨by decide, ?_, ?_, ?_, ?_⟩
      · intro key call found
        exact Nat.sub_pos_of_lt (calls key call found)
      · intro id request found
        exact Nat.sub_pos_of_lt (requests id request found)
      · intro key goal found unaccepted
        exact Nat.sub_pos_of_lt (goals key goal found unaccepted)
      · intro topic subscription found owner client inside queued
        obtain ⟨last, before, held⟩ := clients topic subscription found owner client inside queued
        unfold ClientSubscription.remaining
        rw [before]
        exact Nat.sub_pos_of_lt held
    rw [isOver] at later
    exact Nat.not_succ_le_zero 0 later
  · by_contra positive
    have pos : 0 < wait := Nat.pos_of_ne_zero positive
    exact due (free pos now (Nat.lt_add_of_pos_right pos))

end Wait

/-! ### The rest of a tick -/

section Rest

variable {env : Environment} {m origin : Machine} {owner : Connection}

/-- The part of a tick that follows the timed one. -/
def tidy (env : Environment) : Step Unit := do
  forgetGoals env
  dropFailed env
  dropClosed env

theorem Subscription.duties_release {topic : String} {id : Option String}
    {subscription : Subscription} :
    (subscription.release owner id).duties topic ≤ subscription.duties topic := by
  unfold Subscription.duties Subscription.release
  cases found : subscription.clients.lookup owner with
  | none => exact le_rfl
  | some client =>
      dsimp only
      generalize (if id.isSome = true then client.registrations.erase id else ∅) = registrations
      cases registrations.isEmpty with
      | true => exact AList.total_erase_le _ owner subscription.clients
      | false => exact AList.total_alter_le _ fun _ => le_rfl

/-- Moves that take work away and bring none. -/
def Move.Sheds (move : Move) : Prop :=
  (∃ owner, move.Releasing owner) ∨ move.Forgetting ∨ move.Reading ∨
    (∃ owner, move = left owner) ∨ move = failuresTaken ∨ ∃ readings, move = probed readings

/-- The duties of a bridge, table by table. -/
theorem Bridge.duties_le {b after : Bridge}
    (calls : after.calls.total (fun key _ => ({.call key} : Multiset Duty)) ≤
      b.calls.total fun key _ => {.call key})
    (external : after.external.total (fun id _ => ({.request id} : Multiset Duty)) ≤
      b.external.total fun id _ => {.request id})
    (goals : after.goals.total
        (fun key goal => if goal.accepted then (0 : Multiset Duty) else {.goal key}) ≤
      b.goals.total fun key goal => if goal.accepted then 0 else {.goal key})
    (subscriptions : after.subscriptions.total Subscription.duties ≤
      b.subscriptions.total Subscription.duties) :
    after.duties ≤ b.duties :=
  add_le_add (add_le_add (add_le_add calls external) goals) subscriptions

theorem Move.duties_le {move : Move} (sheds : move.Sheds) (b : Bridge) :
    (move.effect b).duties ≤ b.duties := by
  rcases sheds with ⟨owner, pass | pass | pass | pass | pass | pass | rfl⟩ | pass | pass |
    ⟨owner, rfl⟩ | rfl | ⟨readings, rfl⟩
  -- A connection is dropped.
  · cases move <;> first | exact pass.elim | exact le_rfl
  · cases move <;> first | exact pass.elim | exact le_rfl | skip
    · exact Bridge.duties_le le_rfl le_rfl le_rfl
        (AList.total_alter_le _ fun _ => Subscription.duties_release)
    · exact Bridge.duties_le le_rfl le_rfl le_rfl (AList.total_erase_le _ _ _)
  · cases move <;> first | exact pass.elim | exact le_rfl | skip
    exact Bridge.duties_le le_rfl (AList.total_retain_le _ _ _) le_rfl le_rfl
  · cases move <;> first | exact pass.elim | exact le_rfl
  · cases move <;> first | exact pass.elim | exact le_rfl | skip
    exact Bridge.duties_le le_rfl le_rfl (AList.total_erase_le _ _ _) le_rfl
  · cases move <;> first | exact pass.elim | exact le_rfl | skip
    exact Bridge.duties_le (AList.total_erase_le _ _ _) le_rfl le_rfl le_rfl
  · exact Bridge.duties_le le_rfl (AList.total_retain_le _ _ _) le_rfl le_rfl
  -- Everything else leaves timed work alone.
  · cases move <;> first | exact pass.elim | exact le_rfl
  · cases move <;> first | exact pass.elim | exact le_rfl
  · exact le_rfl
  · exact le_rfl
  · exact le_rfl

/-- A run of such moves brings no work. -/
theorem Follows.duties_le (reach : Follows (Transition env) Move.Sheds origin m) :
    m.bridge.duties ≤ origin.bridge.duties := by
  refine reach.invariant (fun machine => machine.bridge.duties ≤ origin.bridge.duties) ?_ le_rfl
  intro move before after sheds taken bounded
  obtain ⟨next, failed, tables⟩ := taken.bridge
  rw [tables]
  exact (Move.duties_le sheds _).trans bounded

theorem Drops.sheds {connections : List Connection} (drops : Drops env connections origin m) :
    Follows (Transition env) Move.Sheds origin m := by
  refine drops.during.mono fun move pass => ?_
  obtain ⟨owner, rfl | releasing⟩ := pass
  · exact .inr (.inr (.inr (.inl ⟨owner, rfl⟩)))
  · exact .inl ⟨owner, releasing⟩

/-- After the timed part of a tick, no duty is added. -/
theorem tidy_spec :
    wp (tidy env)
      (fun outcome after => outcome = .ok () ∧ after.bridge.duties ≤ m.bridge.duties) m := by
  unfold tidy
  refine wp_bind_returns forgetGoals_spec fun m₁ forgotten => ?_
  refine wp_bind_returns dropFailed_spec fun m₂ failed => ?_
  refine wp_mono dropClosed_spec ?_
  rintro outcome after ⟨rfl, closed⟩
  obtain ⟨m₃, m₄, connections, looked, -, emptied, -, drops⟩ := failed
  obtain ⟨m₅, readings, m₆, others, looked', -, asked, -, -, drops'⟩ := closed
  have looking {before last : Machine} (run : Follows (Transition env) Move.Reading before last) :
      Follows (Transition env) Move.Sheds before last :=
    run.mono fun _ pass => .inr (.inr (.inl pass))
  have atForgotten : Follows (Transition env) Move.Sheds m m₁ :=
    forgotten.mono fun _ pass => .inr (.inl pass)
  have atEmptied := (atForgotten.trans (looking looked)).trans
    (.single emptied (.inr (.inr (.inr (.inr (.inl rfl))))))
  have atAsked := ((atEmptied.trans drops.sheds).trans (looking looked')).trans
    (.single asked (.inr (.inr (.inr (.inr (.inr ⟨readings, rfl⟩))))))
  exact ⟨rfl, Follows.duties_le (atAsked.trans drops'.sheds)⟩

end Rest

/-! ### Waiting and ticking -/

section Agreement

variable {env : Environment} {m : Machine}

/-- The history of a bridge whose poll found nothing. -/
def Machine.quiet (m : Machine) : History := m.log ++ [.poll (.ok [])]

/-- The machine at the time a tick without events reads the clock. -/
def Machine.timed (env : Environment) (m : Machine) : Machine :=
  { m with log := m.quiet ++ [.instant (env.instant m.quiet)] }

/-- A tick without events is its timed part and the rest. -/
theorem tick_quiet (quiet : env.poll m.log = .ok []) :
    tick env m = (settleDue env (env.instant m.quiet) >>= fun _ => tidy env) (m.timed env) := by
  have polled : Backend.poll env m = (.ok [], { m with log := m.quiet }) := by
    have asked : ask env.poll .poll m =
        (.ok (.ok []), { m with log := m.log ++ [.poll (.ok [])] }) := by
      rw [← quiet]
      rfl
    unfold Backend.poll call
    rw [Program.bind_ok asked]
    rfl
  have handled : Program.forEach [] (handleEvent env) { m with log := m.quiet } =
      (.ok (), { m with log := m.quiet }) := rfl
  have read : instant env { m with log := m.quiet } =
      (.ok (env.instant m.quiet), m.timed env) := rfl
  unfold tick
  rw [Program.bind_ok polled, Program.bind_ok handled, Program.bind_ok read]
  unfold settleDue tidy
  simp only [Program.bind_assoc]

/-- Waiting agrees with ticking, in whatever state and whatever the clock reads. The wait
computed at one time is at most 100 ms. A later tick that polls no event settles some duties
and tidies up. It settles a duty at the time of the computation exactly when the wait is zero,
and none before the wait is over; and every duty it settles is gone after it. -/
theorem wakeup_agrees {watch env : Environment} {m : Machine} {now time : Instant}
    (computed : watch.instant m.log = now) (quiet : env.poll m.log = .ok [])
    (ticked : env.instant m.quiet = time) :
    ∃ wait settled timed after,
      (nextWakeup watch m).1 = .ok wait ∧ wait ≤ Duration.fromMillis 100 ∧
      settleDue env time (m.timed env) = (.ok (), timed) ∧
      tick env m = tidy env timed ∧ tidy env timed = (.ok (), after) ∧
      timed.bridge.duties + settled = m.bridge.duties ∧
      after.bridge.duties ≤ timed.bridge.duties ∧
      (time = now → (wait = 0 ↔ settled ≠ 0)) ∧
      (settled ≠ 0 → after.bridge.duties.card < m.bridge.duties.card) ∧
      (0 < wait → time < now + wait → settled = 0) := by
  obtain ⟨wait, woken, limit, zero, free⟩ := nextWakeup_due computed
  have noted : Entry.instant time ∈ (m.timed env).log := by
    unfold Machine.timed
    rw [ticked]
    exact List.mem_append_right _ List.mem_cons_self
  obtain ⟨timed, run, balance⟩ := wp_returns (settleDue_spec noted)
  obtain ⟨after, last, fewer⟩ := wp_returns tidy_spec
  change timed.bridge.duties + m.bridge.due time = m.bridge.duties at balance
  refine ⟨wait, m.bridge.due time, timed, after, woken, limit, run, ?_, last, balance, fewer,
    ?_, ?_, ?_⟩
  · rw [tick_quiet quiet, ticked, Program.bind_ok run]
  · rintro rfl
    exact zero
  · intro some
    calc after.bridge.duties.card
      _ ≤ timed.bridge.duties.card := Multiset.card_le_card fewer
      _ < timed.bridge.duties.card + (m.bridge.due time).card :=
          Nat.lt_add_of_pos_right (Multiset.card_pos.mpr some)
      _ = m.bridge.duties.card := by rw [← balance, Multiset.card_add]
  · intro positive early
    exact free positive time early

/-- A call that expires at 3 is given up then. -/
theorem wakeup_agrees_call :
    let call : Call := ⟨false, 0, none, "/add", {}, 3⟩
    let m : Machine := ⟨{ Bridge.new {} 5 with calls := AList.singleton (7, 1) call }, []⟩
    let env : Environment := { Environment.steady with instant := fun _ => 3 }
    ∃ timed after, tick env m = tidy env timed ∧ tidy env timed = (.ok (), after) ∧
      after.bridge.duties.card < m.bridge.duties.card := by
  intro call m env
  obtain ⟨wait, settled, timed, after, woken, -, -, ticked, last, -, -, zero, fewer, -⟩ :=
    @wakeup_agrees env env m 3 3 rfl rfl rfl
  have none : wait = 0 := by
    have computed : (nextWakeup env m).1 = .ok 0 := by decide
    exact (Outcome.ok.inj (computed.symm.trans woken)).symm
  exact ⟨timed, after, ticked, last, fewer ((zero rfl).mp none)⟩

end Agreement

end Rosbridge
