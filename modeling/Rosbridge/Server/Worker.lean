import Rosbridge.Properties.Wakeup
import Rosbridge.Server.Tasks

/-!
The worker between its waits.

Owns: what it does with the next command of its round; that it does not sleep on a command that
nobody will wake it for; that what the bridge holds belongs to a connection that is still to leave;
and what it still does once the channel is closed.
-/

set_option autoImplicit false

namespace Rosbridge

open Foundation

namespace Incoming

variable {before after : State Output}

theorem Effect.resting (effect : Effect ⟨.tryRecv, .ok none⟩ before after) :
    before.closed = false ∧ before.ready = [] ∧ after = before := by
  cases effect with
  | idle running empty => exact ⟨running, empty, rfl⟩

theorem Effect.stopping (effect : Effect ⟨.tryRecv, .ok (some .shutdown)⟩ before after) :
    before.closed = true ∧ after = before := by
  cases effect with
  | finished closed => exact ⟨closed, rfl⟩

/-- While there is something else to take, the channel is not closed. -/
theorem Effect.running {command : Command Output} (coherent : Coherent before)
    (effect : Effect ⟨.tryRecv, .ok (some command)⟩ before after) (other : command ≠ .shutdown) :
    before.closed = false := by
  cases effect with
  | finished => exact absurd rfl other
  | dropped _ found | introduced _ found | delivered _ found => exact coherent.running found

/-- The receiver keeps whether a client is leaving. -/
theorem Effect.keeps_leaving {event : Event Output} (effect : Effect event before after)
    (own : event.call = .tryRecv ∨ event.call = .shutdown) {id : Connection} {client : Client Output}
    (found : after.clients.lookup id = some client) :
    ∃ old, before.clients.lookup id = some old ∧ client.disconnect = old.disconnect := by
  cases effect with
  | connected | accepted | unknown | leaving => exact own.elim nofun nofun
  | refused | finished | idle => exact ⟨client, found, rfl⟩
  | shut => cases found
  | dropped _ _ _ turns =>
      rw [turns.lookup] at found
      split at found
      · cases found
      · exact ⟨client, found, rfl⟩
  | introduced _ known _ _ turns | delivered _ known _ _ _ turns =>
      rw [turns.lookup] at found
      split at found
      · next same =>
          cases found
          rw [same]
          exact ⟨_, known, rfl⟩
      · exact ⟨client, found, rfl⟩

/-- The connection that a sender calls for. -/
def Call.owner? : Incoming.Call Output → Option Connection
  | .connect id _ | .message id _ | .disconnect id => some id
  | _ => none

/-- A sender changes its own client only, and takes none away. -/
theorem Effect.keeps_others {event : Event Output} {id : Connection}
    (effect : Effect event before after) (own : event.call.owner? = some id) :
    (∀ other, other ≠ id → after.clients.lookup other = before.clients.lookup other) ∧
      (∀ other, other ∈ before.clients → other ∈ after.clients) ∧ after.closed = before.closed := by
  have turned {client : Client Output} {ready : List Connection}
      (turns : Turns id (some client) ready before after) :
      (∀ other, other ≠ id → after.clients.lookup other = before.clients.lookup other) ∧
        (∀ other, other ∈ before.clients → other ∈ after.clients) ∧
        after.closed = before.closed := by
    refine ⟨fun other different => ?_, fun other member => ?_, turns.closed⟩
    · rw [turns.lookup, if_neg different]
    · rw [AList.mem_iff_lookup] at member ⊢
      rw [turns.lookup]
      split
      · exact ⟨client, rfl⟩
      · exact member
  cases effect with
  | refused | unknown => exact ⟨fun _ _ => rfl, fun _ member => member, rfl⟩
  | connected _ _ turns | accepted _ _ _ turns | leaving _ turns =>
      cases own
      exact turned turns
  | shut | finished | idle | dropped | introduced | delivered => cases own

/-- A closed channel stays closed. -/
theorem Effect.keeps_closed {event : Event Output} (effect : Effect event before after)
    (coherent : Coherent before) (closed : before.closed = true) : after.closed = true := by
  cases effect with
  | refused | unknown | finished => exact closed
  | shut => rfl
  | connected running | idle running => exact absurd (running.symm.trans closed) nofun
  | accepted found | leaving found | dropped _ found | introduced _ found | delivered _ found =>
      exact absurd ((coherent.running found).symm.trans closed) nofun

/-- After `Disconnect` a client is leaving. -/
theorem disconnect_leaves {id : Connection} {client : Client Output} (before : State Output)
    (found : (perform (.disconnect id) before).2.clients.lookup id = some client) :
    client.disconnect = true := by
  have spec : Program.wp (disconnect id) _ before := disconnect_spec
  rw [Program.wp_iff] at spec
  have same : (perform (.disconnect id) before).2 = (disconnect id before).2 := by
    show ((disconnect id >>= fun _ => pure none) before).2 = _
    rw [Program.bind_ok (Prod.ext spec.1 rfl)]
    rfl
  rw [same] at found
  rcases spec.2 with ⟨absent, still⟩ | ⟨old, -, turns⟩
  · rw [still, absent] at found
    cases found
  · rw [turns.lookup, if_pos rfl] at found
    cases found
    rfl

end Incoming

namespace Server

open Incoming

variable {env : Environment} {access : Access} {timeout : Duration} {capacity : Nat}
  {w after : World} {happenings : List Happening} {happening : Happening}

/-! ### The next command -/

/-- What the worker does when it asks for the next command of its round. -/
inductive Received (env : Environment) (w after : World) : Prop where
  | rested (running : w.channel.closed = false) (empty : w.channel.ready = [])
      (channel : after.channel = w.channel) (machine : after.machine = w.machine)
      (operations : after.operations = w.operations) (worker : after.worker = .ticking)
  | served {command : Command Output} {op : Operation} (asked : operation? command = some op)
      (effect : Effect ⟨.tryRecv, .ok (some command)⟩ w.channel after.channel)
      (other : command ≠ .shutdown) (returns : ¬ (Rosbridge.perform env op w.machine).1.IsPanic)
      (machine : after.machine = w.machine.next env op)
      (operations : after.operations = w.operations ++ [op])
      (worker : (∃ index, after.worker = .draining index) ∨ after.worker = .ticking)
  | stopped (closed : w.channel.closed = true)
      (machine : after.machine = w.machine.next env .shutdown)
      (operations : after.operations = w.operations ++ [.shutdown])
      (worker : after.worker = .ended .stopped)
  | panicked {site : String} (running : w.channel.closed = false)
      (worker : after.worker = .ended (.panicked site))

/-- The worker serves a command that it took. -/
theorem World.serve_received {middle : World} {command : Command Output} {op : Operation}
    (index : Nat) (asked : operation? command = some op) (coherent : Coherent w.channel)
    (effect : Effect ⟨.tryRecv, .ok (some command)⟩ w.channel middle.channel)
    (machine : middle.machine = w.machine) (operations : middle.operations = w.operations) :
    Received env w (middle.serve env index command) := by
  have next (outcome : Outcome Error Unit) (last : Machine)
      (ran : Rosbridge.perform env op w.machine = (outcome, last)) :
      w.machine.next env op = last := congrArg Prod.snd ran
  unfold World.serve
  rw [serve_operation asked, asked, machine, operations]
  rcases ran : Rosbridge.perform env op w.machine with ⟨outcome, last⟩
  by_cases stops : command = .shutdown
  · subst stops
    obtain ⟨closed, -⟩ := effect.stopping
    cases asked
    have returned : (Rosbridge.perform env .shutdown w.machine).1 = .ok () :=
      (shutdown_spec : Program.wp (shutdown env) _ w.machine).1
    rw [ran] at returned
    cases returned
    exact .stopped closed (next _ _ ran).symm rfl rfl
  · cases outcome with
    | panic site => exact .panicked (effect.running coherent stops) rfl
    | ok value | error cause =>
        have returns : ¬ (Rosbridge.perform env op w.machine).1.IsPanic := by
          rw [ran]
          exact id
        have goes : (∃ at', (if index + 1 < 64 then Worker.draining (index + 1) else .ticking) =
            .draining at') ∨
            (if index + 1 < 64 then Worker.draining (index + 1) else .ticking) = .ticking := by
          split
          · exact .inl ⟨_, rfl⟩
          · exact .inr rfl
        cases command with
        | shutdown => exact absurd rfl stops
        | connect | message | disconnect =>
            exact .served asked effect stops returns (next _ _ ran).symm rfl goes

theorem World.receive_received (index : Nat) (coherent : Coherent w.channel)
    (objects : Objects w.channel) : Received env w (w.receive env index) := by
  have same : (if index = 63 then { w with guard := true } else w).channel = w.channel ∧
      (if index = 63 then { w with guard := true } else w).machine = w.machine ∧
      (if index = 63 then { w with guard := true } else w).operations = w.operations := by
    split <;> exact ⟨rfl, rfl, rfl⟩
  unfold World.receive
  generalize (if index = 63 then { w with guard := true } else w) = v at same
  obtain ⟨channel, machine, operations⟩ := same
  have effect : Effect ⟨.tryRecv, (v.call .tryRecv).1⟩ w.channel (v.call .tryRecv).2.channel := by
    rw [← channel] at coherent ⊢
    exact (v.call_takes .tryRecv).effect coherent
  have kept : (v.call .tryRecv).2.machine = w.machine ∧
      (v.call .tryRecv).2.operations = w.operations := ⟨machine, operations⟩
  dsimp only
  generalize v.call .tryRecv = ended at effect kept
  obtain ⟨outcome, middle⟩ := ended
  cases outcome with
  | panic site => exact absurd trivial effect.returns
  | error cause =>
      generalize w.channel = start, middle.channel = last at effect
      cases effect with
      | refused sent => exact absurd rfl sent
  | ok reply =>
      cases reply with
      | none =>
          obtain ⟨running, empty, still⟩ := effect.resting
          exact .rested running empty still kept.1 kept.2 rfl
      | some command =>
          obtain ⟨op, asked⟩ := effect.asks objects rfl
          exact World.serve_received index asked coherent effect kept.1 kept.2

/-! ### Sleep -/

/-- When the worker computed how long to wait. -/
def Happening.checked? : Happening → Option Instant
  | .checked now => some now
  | _ => none

/-- When the worker last computed how long to wait. -/
def lastChecked (happenings : List Happening) : Option Instant :=
  (happenings.filterMap Happening.checked?).getLast?

theorem lastChecked_snoc (happenings : List Happening) (happening : Happening) :
    lastChecked (happenings ++ [happening]) =
      happening.checked?.or (lastChecked happenings) := by
  unfold lastChecked
  rw [List.filterMap_append, List.filterMap_cons]
  cases happening.checked? with
  | none => exact congrArg List.getLast? (List.append_nil _)
  | some now => exact List.getLast?_concat

/-- Somebody is to wake the worker, or has. -/
def World.Alert (w : World) : Prop :=
  w.guard = true ∨ (∃ id stage, w.tasks.lookup id = some ⟨stage, true⟩) ∨ w.main = .waking

/-- A worker that waits does so until something is due, at most, and does not sleep on a command
that nobody will wake it for. -/
structure Awake (happenings : List Happening) (w : World) : Prop where
  timely : ∀ wait, w.worker = .waiting wait → wait ≤ Duration.fromMillis 100 ∧
    (0 < wait → ∃ now, lastChecked happenings = some now ∧
      ∀ time, time < now + wait → w.machine.bridge.due time = 0)
  alert : ∀ wait, w.worker = .waiting wait → 0 < wait → hasPending w.channel = true → w.Alert

/-- A task that is not waking anybody goes on. -/
theorem World.Alert.setTask {id : Connection} {stage : Stage} {task : Task} (alert : w.Alert)
    (stands : w.tasks.lookup id = some ⟨stage, false⟩) : (w.setTask id task).Alert := by
  rcases alert with guard | ⟨other, later, wakes⟩ | main
  · exact .inl guard
  · refine .inr (.inl ⟨other, later, ?_⟩)
    show (w.tasks.insert id task).lookup other = _
    rw [AList.lookup_insert_ne]
    · exact wakes
    · intro same
      rw [same, stands] at wakes
      cases wakes
  · exact .inr (.inr main)

/-- Nothing happens to the worker. -/
theorem Awake.keep (awake : Awake happenings w) (silent : happening.checked? = none)
    (worker : after.worker = w.worker) (machine : after.machine = w.machine)
    (alert : hasPending after.channel = true → after.Alert ∨ hasPending w.channel = true ∧
      (w.Alert → after.Alert)) : Awake (happenings ++ [happening]) after := by
  refine ⟨fun wait waits => ?_, fun wait waits sleeps pending => ?_⟩
  · rw [worker] at waits
    rw [machine, lastChecked_snoc, silent, Option.none_or]
    exact awake.timely wait waits
  · rw [worker] at waits
    rcases alert pending with now | ⟨before, still⟩
    · exact now
    · exact still (awake.alert wait waits sleeps before)

/-- A worker that does not wait. -/
theorem Awake.busy (busy : ∀ wait, after.worker ≠ .waiting wait) : Awake happenings after :=
  ⟨fun wait waits => absurd waits (busy wait), fun wait waits => absurd waits (busy wait)⟩

theorem Received.busy (received : Received env w after) (wait : Duration) :
    after.worker ≠ .waiting wait := by
  intro waits
  cases received with
  | rested _ _ _ _ _ worker | stopped _ _ _ worker | panicked _ worker =>
      rw [worker] at waits
      cases waits
  | served _ _ _ _ _ _ worker =>
      rcases worker with ⟨index, worker⟩ | worker
      all_goals
        rw [worker] at waits
        cases waits

/-- After a tick the worker goes on, or it ends. -/
theorem World.tick_worker (w : World) : (w.tick env).operations = w.operations ++ [.tick] ∧
    ((w.tick env).worker = .checking ∨ ∃ ending, ending ≠ .stopped ∧
      (w.tick env).worker = .ended ending) := by
  unfold World.tick
  generalize Rosbridge.perform env .tick w.machine = ended
  obtain ⟨outcome, machine⟩ := ended
  cases outcome with
  | ok value => exact ⟨rfl, .inl rfl⟩
  | error cause => exact ⟨rfl, .inr ⟨.failed cause, nofun, rfl⟩⟩
  | panic site => exact ⟨rfl, .inr ⟨.panicked site, nofun, rfl⟩⟩

theorem World.pause_timely (w : World) (now : Instant) :
    w.pause env now ≤ Duration.fromMillis 100 ∧
      (0 < w.pause env now → hasPending w.channel = false ∧
        ∀ time, time < now + w.pause env now → w.machine.bridge.due time = 0) := by
  have reading : { env with instant := fun _ => now }.instant w.machine.log = now := rfl
  obtain ⟨wait, woken, limit, -, free⟩ := nextWakeup_due reading
  unfold World.pause
  cases hasPending w.channel with
  | true => exact ⟨Nat.zero_le _, fun sleeps => absurd sleeps (lt_irrefl 0)⟩
  | false =>
      rw [if_neg Bool.false_ne_true, woken]
      exact ⟨limit, fun sleeps => ⟨rfl, free sleeps⟩⟩

theorem Awake.trySend (awake : Awake happenings w) (coherent : Coherent w.channel)
    {id : Connection} {sent : Incoming.Call Output} {stage accepts refuses : Stage}
    (silent : happening.checked? = none) (stands : w.tasks.lookup id = some ⟨stage, false⟩) :
    Awake (happenings ++ [happening]) (w.trySend id sent accepts refuses) := by
  rcases w.trySend_eq id sent accepts refuses with ⟨-, -, same⟩ | ⟨refused, same⟩
  · rw [same]
    refine awake.keep silent rfl rfl fun _ => ?_
    exact .inl (.inr (.inl ⟨id, accepts, AList.lookup_insert _⟩))
  · rw [same]
    have still : (w.call sent).2.channel = w.channel := by
      have effect := (w.call_takes sent).effect coherent
      generalize (w.call sent).1 = outcome, (w.call sent).2.channel = next at effect refused
      cases effect with
      | refused => rfl
      | connected | accepted | unknown | leaving | shut | finished | idle | dropped | introduced
      | delivered => exact absurd rfl (refused _)
    refine awake.keep silent rfl rfl fun pending => ?_
    have before : hasPending (w.call sent).2.channel = true := pending
    rw [still] at before
    refine .inr ⟨before, fun alert => ?_⟩
    have called : (w.call sent).2.Alert := alert
    exact called.setTask stands

theorem Awake.step (awake : Awake happenings w)
    (traced : Traced env access timeout capacity none w) (registered : Registered w)
    (steps : Steps env happening w after) : Awake (happenings ++ [happening]) after := by
  have coherent := traced.regular.coherent
  cases steps.turn with
  | accepted =>
      refine awake.keep rfl rfl rfl fun pending => .inr ⟨pending, fun alert => ?_⟩
      rcases alert with guard | ⟨id, stage, wakes⟩ | main
      · exact .inl guard
      · refine .inr (.inl ⟨id, stage, ?_⟩)
        have known := registered.numbered id ((AList.mem_iff_lookup _ _).mpr ⟨_, wakes⟩)
        show (w.tasks.insert (w.next + 1) _).lookup id = _
        rw [AList.lookup_insert_ne fun same => absurd (same ▸ known) (Nat.not_succ_le_self _)]
        exact wakes
      · exact .inr (.inr main)
  | refused serving =>
      refine awake.keep rfl rfl rfl fun pending => .inr ⟨pending, fun alert => ?_⟩
      exact alert.imp_right (Or.imp_right fun waking => absurd (waking.symm.trans serving) nofun)
  | sent sends stands =>
      refine awake.trySend coherent ?_ stands
      cases happening <;> first | rfl | cases sends
  | moved moves stands =>
      refine awake.keep ?_ rfl rfl fun pending => .inr ⟨pending, fun alert => alert.setTask stands⟩
      cases moves <;> rfl
  | woke stands => exact awake.keep rfl rfl rfl fun _ => .inl (.inl rfl)
  | stopped serving => exact awake.keep rfl rfl rfl fun _ => .inl (.inr (.inr rfl))
  | wokeWorker waking => exact awake.keep rfl rfl rfl fun _ => .inl (.inl rfl)
  | joined waiting =>
      refine awake.keep rfl rfl rfl fun pending => .inr ⟨pending, fun alert => ?_⟩
      exact alert.imp_right (Or.imp_right fun waking => absurd (waking.symm.trans waiting) nofun)
  | checked now stands =>
      obtain ⟨limit, free⟩ : w.pause env now ≤ Duration.fromMillis 100 ∧ _ := w.pause_timely now
      refine ⟨fun wait waits => ?_, fun wait waits sleeps pending => ?_⟩
      · cases waits
        refine ⟨limit, fun sleeps => ⟨now, ?_, (free sleeps).2⟩⟩
        rw [lastChecked_snoc]
        rfl
      · cases waits
        have none : hasPending w.channel = false := (free sleeps).1
        have some : hasPending w.channel = true := pending
        rw [none] at some
        cases some
  | resumed | interrupted => exact .busy nofun
  | received => exact .busy (World.receive_received _ coherent traced.objects).busy
  | ticked =>
      apply Awake.busy
      intro wait waits
      have next : (w.tick env).operations = w.operations ++ [.tick] ∧ _ := w.tick_worker
      rcases next with ⟨-, same | ⟨ending, -, same⟩⟩
      all_goals
        rw [same] at waits
        cases waits

/-! ### Connections -/

/-- Each client of the channel has a task that shook hands, and is leaving if the task is done. -/
def World.Housed (w : World) : Prop :=
  ∀ id client, w.channel.clients.lookup id = some client →
    ∃ task, w.tasks.lookup id = some task ∧ task.stage ≠ .handshaking ∧
      (task.stage = .done → client.disconnect = true)

theorem Apart.keeps_leaving (apart : Apart w after) (coherent : Coherent w.channel)
    {id : Connection} {client : Client Output}
    (found : after.channel.clients.lookup id = some client) :
    ∃ old, w.channel.clients.lookup id = some old ∧ client.disconnect = old.disconnect := by
  obtain ⟨events, -, run, own⟩ := apart.calls
  generalize w.channel = start, after.channel = last at run coherent found
  induction run generalizing client with
  | nil => exact ⟨client, found, rfl⟩
  | cons taken _ inductionHypothesis =>
      have effect := taken.effect coherent
      obtain ⟨middle, known, same⟩ := inductionHypothesis
        (fun event member => own event (List.mem_cons_of_mem _ member)) (effect.coherent coherent)
        found
      obtain ⟨old, found, same'⟩ := effect.keeps_leaving (own _ List.mem_cons_self) known
      exact ⟨old, found, same.trans same'⟩

theorem Apart.keeps_closed (apart : Apart w after) (coherent : Coherent w.channel)
    (closed : w.channel.closed = true) : after.channel.closed = true := by
  obtain ⟨events, -, run, -⟩ := apart.calls
  have both := run.history (fun _ s => Coherent s ∧ s.closed = true)
    (fun _ _ _ _ taken held => ⟨(taken.effect held.1).coherent held.1,
      (taken.effect held.1).keeps_closed held.1 held.2⟩) ⟨coherent, closed⟩
  exact both.2

theorem World.Housed.apart (housed : w.Housed) (apart : Apart w after)
    (coherent : Coherent w.channel) : after.Housed := by
  intro id client found
  obtain ⟨old, known, same⟩ := apart.keeps_leaving coherent found
  rw [apart.tasks, same]
  exact housed id old known

theorem World.Housed.setTask {id : Connection} {old task : Task} (housed : w.Housed)
    (stands : w.tasks.lookup id = some old)
    (next : old.stage ≠ .handshaking → task.stage ≠ .handshaking ∧
      (task.stage = .done → old.stage = .done)) : (w.setTask id task).Housed := by
  intro other client found
  obtain ⟨current, known, past, leaves⟩ := housed other client found
  show ∃ task', (w.tasks.insert id task).lookup other = some task' ∧ _
  rw [AList.lookup_insert_if]
  split
  · next same =>
      rw [same, stands] at known
      cases known
      exact ⟨task, rfl, (next past).1, fun done => leaves ((next past).2 done)⟩
  · exact ⟨current, known, past, leaves⟩

theorem Happening.sends_owner {id : Connection} {call : Incoming.Call Output}
    {stage accepts refuses : Stage}
    (sends : happening.sends = some (id, call, stage, accepts, refuses)) :
    call.owner? = some id ∧ (accepts = .done ∨ refuses = .done → call = .disconnect id) := by
  cases happening <;> cases sends
  case released => exact ⟨rfl, fun _ => rfl⟩
  all_goals exact ⟨rfl, fun done => done.elim nofun nofun⟩

theorem World.Housed.trySend (housed : w.Housed) (coherent : Coherent w.channel)
    {id : Connection} {sent : Incoming.Call Output} {stage accepts refuses : Stage}
    (sends : happening.sends = some (id, sent, stage, accepts, refuses)) :
    (w.trySend id sent accepts refuses).Housed := by
  obtain ⟨takes, drops, -⟩ := Happening.sends_stage sends
  obtain ⟨own, ends⟩ := Happening.sends_owner sends
  have others := ((w.call_takes sent).effect coherent).keeps_others own
  have called (task : Task) (next : task.stage = accepts ∨ task.stage = refuses) :
      ((w.call sent).2.setTask id task).Housed := by
    intro other client found
    have known : (w.call sent).2.channel.clients.lookup other = some client := found
    show ∃ task', (w.tasks.insert id task).lookup other = some task' ∧ _
    by_cases same : other = id
    · subst same
      refine ⟨task, AList.lookup_insert _, ?_, fun done => ?_⟩
      · rcases next with stage | stage <;> rw [stage] <;> assumption
      · rw [done] at next
        obtain rfl := ends (next.imp Eq.symm Eq.symm)
        exact disconnect_leaves w.channel known
    · rw [others.1 other same] at known
      rw [AList.lookup_insert_ne same]
      exact housed other client known
  rcases w.trySend_eq id sent accepts refuses with ⟨-, -, same⟩ | ⟨-, same⟩
  · rw [same]
    exact called _ (.inl rfl)
  · rw [same]
    exact called _ (.inr rfl)

theorem World.Housed.step (housed : w.Housed)
    (traced : Traced env access timeout capacity none w) (registered : Registered w)
    (steps : Steps env happening w after) : after.Housed := by
  have coherent := traced.regular.coherent
  cases steps.turn with
  | accepted =>
      intro id client found
      obtain ⟨task, known, rest⟩ := housed id client found
      have numbered := registered.numbered id ((AList.mem_iff_lookup _ _).mpr ⟨_, known⟩)
      refine ⟨task, ?_, rest⟩
      show (w.tasks.insert (w.next + 1) _).lookup id = _
      rw [AList.lookup_insert_ne fun same => absurd (same ▸ numbered) (Nat.not_succ_le_self _)]
      exact known
  | refused | wokeWorker | joined | checked | resumed => exact housed
  | sent sends => exact housed.trySend coherent sends
  | moved moves stands =>
      refine housed.setTask stands fun past => ?_
      cases moves with
      | rejected => exact absurd rfl past
      | finished | closed => exact ⟨nofun, nofun⟩
      | aborted drops =>
          rcases drops with ⟨same, -⟩ | ⟨-, rfl⟩
          · exact absurd same past
          · exact ⟨nofun, nofun⟩
  | @woke _ id stage stands =>
      have moved : (w.setTask id ⟨stage, false⟩).Housed :=
        housed.setTask stands fun past => ⟨past, fun done => done⟩
      exact moved
  | stopped =>
      have shut := housed.apart (w.call_apart (.inr rfl)) coherent
      exact shut
  | interrupted => exact housed.apart (w.finish_apart _) coherent
  | received => exact housed.apart (w.receive_apart _) coherent
  | ticked => exact housed.apart w.tick_apart coherent

/-! ### What the bridge holds -/

section Outputs

variable {m : Machine} {op : Operation}

/-- An operation leaves a connection registered only if it was, or is now. -/
theorem outputs_of_next (reached : Reachable env access timeout m)
    (returns : ¬ (Rosbridge.perform env op m).1.IsPanic) {owner : Connection}
    (member : owner ∈ (m.next env op).bridge.outputs) :
    op = .connect owner ∨ owner ∈ m.bridge.outputs ∧ op ≠ .disconnect owner := by
  have shaped := Onward.shaped reached (shaped_new access timeout)
  by_cases registers : op = .connect owner
  · exact .inl registers
  · refine .inr ⟨?_, fun leaves => ?_⟩
    · by_contra absent
      exact (performed_next op shaped returns).absent shaped registers absent member
    · subst leaves
      have dropped : Dropped env owner m (m.next env (.disconnect owner)) :=
        (Rosbridge.disconnect_spec : Program.wp (Rosbridge.disconnect env owner) _ m).2
      obtain ⟨-, -, outputs, -⟩ := dropped.leaves shaped reached.registered
      rw [outputs] at member
      exact (AList.mem_erase.mp member).1 rfl

end Outputs

/-- Until the channel is closed, the connections of the bridge are clients of the channel. -/
def World.Attached (w : World) : Prop :=
  w.worker.isEnded = false → w.channel.closed = false →
    ∀ id ∈ w.machine.bridge.outputs, id ∈ w.channel.clients

theorem alive_of_running (running : w.worker.isEnded = false) (site : String) :
    w.worker ≠ .ended (.panicked site) := by
  intro ended
  rw [ended] at running
  cases running

theorem World.Attached.received (attached : w.Attached)
    (traced : Traced env access timeout capacity none w) (running : w.worker.isEnded = false)
    (received : Received env w after) : after.Attached := by
  intro goes stays id member
  have coherent := traced.regular.coherent
  have reached := (traced.reached (alive_of_running running)).1
  cases received with
  | rested opened _ channel machine =>
      rw [channel]
      rw [machine] at member
      exact attached running opened id member
  | stopped _ _ _ worker | panicked _ worker =>
      rw [worker] at goes
      cases goes
  | @served command op asked effect other returns machine =>
      have before := attached running (effect.running coherent other)
      rw [machine] at member
      have from' := outputs_of_next reached returns member
      rw [AList.mem_iff_lookup]
      generalize w.channel = start, after.channel = last at effect before
      cases effect with
      | finished => exact absurd rfl other
      | dropped _ _ _ turns =>
          cases asked
          obtain ⟨known, stays⟩ := from'.resolve_left nofun
          rw [turns.lookup, if_neg fun same => stays (congrArg _ same.symm)]
          exact (AList.mem_iff_lookup _ _).mp (before id known)
      | introduced _ _ _ _ turns =>
          cases asked
          rw [turns.lookup]
          split
          · exact ⟨_, rfl⟩
          · next different =>
              rcases from' with same | ⟨known, -⟩
              · cases same
                exact absurd rfl different
              · exact (AList.mem_iff_lookup _ _).mp (before id known)
      | @delivered _ value _ _ _ _ _ _ _ _ _ _ turns =>
          have known : id ∈ w.machine.bridge.outputs := by
            cases value <;> cases asked
            exact (from'.resolve_left nofun).1
          rw [turns.lookup]
          split
          · exact ⟨_, rfl⟩
          · exact (AList.mem_iff_lookup _ _).mp (before id known)

theorem World.Attached.tick (attached : w.Attached)
    (traced : Traced env access timeout capacity none w) (running : w.worker.isEnded = false) :
    (w.tick env).Attached := by
  have reached := (traced.reached (alive_of_running running)).1
  unfold World.tick
  rcases ran : Rosbridge.perform env .tick w.machine with ⟨outcome, machine⟩
  have next : w.machine.next env .tick = machine := congrArg Prod.snd ran
  cases outcome with
  | error cause | panic site => exact nofun
  | ok value =>
      intro _ opened id member
      have returns : ¬ (Rosbridge.perform env .tick w.machine).1.IsPanic := by
        rw [ran]
        exact fun panics => panics
      have here : id ∈ machine.bridge.outputs := member
      rw [← next] at here
      exact attached running opened id ((outputs_of_next reached returns here).resolve_left nofun).1

theorem World.Attached.step (attached : w.Attached)
    (traced : Traced env access timeout capacity none w) (steps : Steps env happening w after) :
    after.Attached := by
  have coherent := traced.regular.coherent
  cases steps.turn with
  | accepted | refused | moved | woke | wokeWorker | joined => exact attached
  | @sent _ _ id call stage accepts refuses sends =>
      obtain ⟨-, grows, closed⟩ := ((w.call_takes call).effect coherent).keeps_others
        (Happening.sends_owner sends).1
      have called : (w.call call).2.Attached := fun running opened other member =>
        grows other (attached running (closed ▸ opened) other member)
      rcases w.trySend_eq id call accepts refuses with ⟨-, -, same⟩ | ⟨-, same⟩
      · rw [same]
        exact called
      · rw [same]
        exact called
  | stopped => exact fun _ opened => nomatch opened
  | checked now stands =>
      intro _
      exact attached (by rw [stands]; rfl)
  | resumed stands =>
      intro _
      exact attached (by rw [stands]; rfl)
  | interrupted => exact nofun
  | received stands =>
      exact attached.received traced (by rw [stands]; rfl)
        (World.receive_received _ coherent traced.objects)
  | ticked stands => exact attached.tick traced (by rw [stands]; rfl)

/-! ### The end -/

/-- Whether it is the worker that takes the step. -/
def Happening.isWorkers : Happening → Bool
  | .checked _ | .resumed | .interrupted _ | .received | .ticked => true
  | _ => false

/-- How many steps the worker has left once the channel is closed. -/
def Worker.left : Worker → Nat
  | ticking => 4
  | checking => 3
  | waiting _ => 2
  | draining _ => 1
  | ended _ => 0

/-- The channel is closed, and the worker performed no more than a tick and a shutdown since
`base`. -/
structure Closing (base : List Operation) (w : World) : Prop where
  closed : w.channel.closed = true
  ongoing : w.worker.isEnded = false → w.operations = base ∨
    w.operations = base ++ [.tick] ∧ w.worker ≠ .ticking
  operations : ∃ rest, w.operations = base ++ rest ∧
    (rest <+: [.tick, .shutdown] ∨ rest <+: [.shutdown])

variable {base : List Operation}

theorem World.call_closed (w : World) (sent : Incoming.Call Output) (coherent : Coherent w.channel)
    (closed : w.channel.closed = true) : (w.call sent).2.channel.closed = true :=
  ((w.call_takes sent).effect coherent).keeps_closed coherent closed

theorem Closing.keep (closing : Closing base w) (closed : after.channel.closed = true)
    (operations : after.operations = w.operations)
    (worker : after.worker = .ticking → w.worker = .ticking)
    (ends : w.worker.isEnded = true → after.worker.isEnded = true) : Closing base after := by
  refine ⟨closed, fun running => ?_, ?_⟩
  · rw [operations]
    have before : w.worker.isEnded = false := by
      by_contra ended
      rw [ends (Bool.not_eq_false _ ▸ ended)] at running
      cases running
    exact (closing.ongoing before).imp_right fun ticked =>
      ⟨ticked.1, fun again => ticked.2 (worker again)⟩
  · rw [operations]
    exact closing.operations

/-- What one step of a closing server leaves. -/
theorem Closing.step (closing : Closing base w) (traced : Traced env access timeout capacity none w)
    (steps : Steps env happening w after) :
    Closing base after ∧ (bif happening.isWorkers then 1 else 0) + after.worker.left ≤
      w.worker.left := by
  have coherent := traced.regular.coherent
  have others (silent : happening.isWorkers = false) (closed : after.channel.closed = true)
      (operations : after.operations = w.operations) (worker : after.worker = w.worker) :
      Closing base after ∧ (bif happening.isWorkers then 1 else 0) + after.worker.left ≤
        w.worker.left := by
    refine ⟨closing.keep closed operations (fun again => worker ▸ again) fun ended => worker ▸ ended, ?_⟩
    rw [silent, worker]
    exact (Nat.zero_add _).le
  cases steps.turn with
  | accepted | refused | woke | wokeWorker | joined =>
      exact others rfl closing.closed rfl rfl
  | moved moves =>
      refine others ?_ closing.closed rfl rfl
      cases moves <;> rfl
  | @sent _ _ id call stage accepts refuses sends =>
      have silent : happening.isWorkers = false := by
        cases happening <;> first | rfl | cases sends
      have closed := w.call_closed call coherent closing.closed
      rcases w.trySend_eq id call accepts refuses with ⟨-, -, same⟩ | ⟨-, same⟩
      · rw [same] at others ⊢
        exact others silent closed rfl rfl
      · rw [same] at others ⊢
        exact others silent closed rfl rfl
  | stopped => exact others rfl (w.call_closed .shutdown coherent closing.closed) rfl rfl
  | checked now stands =>
      refine ⟨closing.keep closing.closed rfl nofun fun ended => ?_, ?_⟩
      · rw [stands] at ended
        cases ended
      · rw [stands]
        exact le_refl 3
  | resumed stands =>
      refine ⟨closing.keep closing.closed rfl nofun fun ended => ?_, ?_⟩
      · rw [stands] at ended
        cases ended
      · rw [stands]
        exact le_refl 2
  | interrupted cause stands =>
      refine ⟨closing.keep ((w.finish_apart _).keeps_closed coherent closing.closed) rfl nofun
        fun _ => rfl, ?_⟩
      rw [stands]
      exact Nat.le_succ 1
  | @received _ index stands =>
      have running : w.worker.isEnded = false := by rw [stands]; rfl
      have received : Received env w (w.receive env index) :=
        World.receive_received index coherent traced.objects
      cases received with
      | rested opened => exact absurd (opened.symm.trans closing.closed) nofun
      | served _ effect other =>
          exact absurd ((effect.running coherent other).symm.trans closing.closed) nofun
      | panicked opened => exact absurd (opened.symm.trans closing.closed) nofun
      | stopped _ _ operations worker =>
          have closed : (w.receive env index).channel.closed = true :=
            (w.receive_apart index).keeps_closed coherent closing.closed
          refine ⟨⟨closed, fun goes => ?_, ?_⟩, ?_⟩
          · rw [worker] at goes
            cases goes
          · rcases closing.ongoing running with same | ⟨same, -⟩
            · exact ⟨[.shutdown], by rw [operations, same], .inr List.prefix_rfl⟩
            · refine ⟨[.tick, .shutdown], ?_, .inl List.prefix_rfl⟩
              rw [operations, same, List.append_assoc]
              rfl
          · rw [worker, stands]
            exact le_refl 1
  | ticked stands =>
      have running : w.worker.isEnded = false := by rw [stands]; rfl
      obtain ⟨operations, worker⟩ : (w.tick env).operations = w.operations ++ [.tick] ∧ _ :=
        w.tick_worker
      have ticked : (w.tick env).operations = base ++ [.tick] := by
        rcases closing.ongoing running with same | ⟨-, other⟩
        · rw [operations, same]
        · exact absurd stands other
      have closed : (w.tick env).channel.closed = true :=
        w.tick_apart.keeps_closed coherent closing.closed
      refine ⟨⟨closed, fun _ => .inr ⟨ticked, fun again => ?_⟩, [.tick], ticked, .inl ?_⟩, ?_⟩
      · rcases worker with same | ⟨ending, -, same⟩
        all_goals
          rw [same] at again
          cases again
      · exact ⟨[.shutdown], rfl⟩
      · rw [stands]
        rcases worker with same | ⟨ending, -, same⟩
        · rw [same]
          exact le_refl 4
        · rw [same]
          exact Nat.le_add_left 1 3

/-- After an orderly stop the bridge holds nothing. -/
def World.Stopped (w : World) : Prop :=
  w.worker = .ended .stopped → ∀ owner, owner ∉ w.machine.bridge.outputs

theorem World.Stopped.step (stopped : w.Stopped)
    (traced : Traced env access timeout capacity none w) (steps : Steps env happening w after) :
    after.Stopped := by
  have coherent := traced.regular.coherent
  cases steps.turn with
  | accepted | refused | moved | woke | wokeWorker | joined | stopped => exact stopped
  | @sent _ _ id call stage accepts refuses sends =>
      rcases w.trySend_eq id call accepts refuses with ⟨-, -, same⟩ | ⟨-, same⟩
      · rw [same]
        exact stopped
      · rw [same]
        exact stopped
  | checked | resumed | interrupted => exact nofun
  | @received _ index stands =>
      intro ended owner member
      have reached := (traced.reached (alive_of_running (by rw [stands]; rfl))).1
      have received : Received env w (w.receive env index) :=
        World.receive_received index coherent traced.objects
      cases received with
      | rested _ _ _ _ _ worker | panicked _ worker =>
          rw [worker] at ended
          cases ended
      | served _ _ _ _ _ _ worker =>
          rcases worker with ⟨index, worker⟩ | worker
          all_goals
            rw [worker] at ended
            cases ended
      | stopped _ machine =>
          rw [machine] at member
          have dropped : AllDropped env w.machine (w.machine.next env .shutdown) :=
            (shutdown_spec : Program.wp (Rosbridge.shutdown env) _ w.machine).2
          obtain ⟨middle, connections, looked, same, listed, drops⟩ := dropped
          have inner := looked.mono fun _ => Move.Reading.inner
          have shaped := Onward.shaped reached (shaped_new access timeout)
          obtain ⟨-, -, -, kept⟩ := Drops.leaves drops (Follows.shaped inner shaped)
            (Follows.keeps_registered inner reached.registered)
          obtain ⟨known, unlisted⟩ := kept owner member
          rw [same] at known
          exact unlisted (listed owner known)
  | ticked stands =>
      intro ended
      have next : (w.tick env).operations = w.operations ++ [.tick] ∧ _ := w.tick_worker
      rcases next with ⟨-, same | ⟨ending, other, same⟩⟩
      · rw [same] at ended
        cases ended
      · rw [same] at ended
        cases ended
        exact absurd rfl other

/-! ### Runs -/

/-- What holds in every world. -/
structure Kept (env : Environment) (access : Access) (timeout : Duration) (capacity : Nat)
    (happenings : List Happening) (w : World) : Prop where
  traced : Traced env access timeout capacity none w
  registered : Registered w
  heard : Heard happenings w
  awake : Awake happenings w
  housed : w.Housed
  attached : w.Attached
  stopped : w.Stopped

theorem Kept.step (kept : Kept env access timeout capacity happenings w)
    (steps : Steps env happening w after) :
    Kept env access timeout capacity (happenings ++ [happening]) after where
  traced := kept.traced.step steps
  registered := kept.registered.step kept.traced.regular steps
  heard := kept.heard.step kept.registered steps
  awake := kept.awake.step kept.traced kept.registered steps
  housed := kept.housed.step kept.traced kept.registered steps
  attached := kept.attached.step kept.traced steps
  stopped := kept.stopped.step kept.traced steps

theorem Reaches.kept {channel : State Output} (opened : Incoming.channel capacity = .ok channel)
    (reached : Reaches env channel access timeout happenings w) :
    Kept env access timeout capacity happenings w := by
  obtain ⟨-, -, -, empty⟩ := Coherent.opened opened
  refine reached.history (Kept env access timeout capacity)
    (fun _ _ _ _ steps kept => kept.step steps) ?_
  refine ⟨.start opened, .start channel access timeout,
    ⟨fun _ => List.prefix_rfl, fun _ _ => rfl⟩, .busy nofun, fun id client found => ?_,
    fun _ _ id member => absurd member (AList.notMem_empty id), nofun⟩
  have vacant : channel.clients.lookup id = some client := found
  rw [empty] at vacant
  cases vacant

end Server

end Rosbridge
