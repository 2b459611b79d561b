import Rosbridge.Properties.Lifecycle
import Rosbridge.Server.Worker

/-!
The server as a whole.

Owns: what the bridge is asked, whatever the order of steps; that no command waits for a worker
that sleeps on; that nothing of a connection outlives it; and how the worker ends.
-/

set_option autoImplicit false

namespace Rosbridge

open Foundation

/-- Whether an operation is a connection's own. -/
def Operation.concerns (connection : Connection) : Operation → Bool
  | connect other | command other _ | disconnect other => other = connection
  | _ => false

namespace Incoming

variable {id : Connection}

/-- What was returned for a connection is its part of what was taken. -/
theorem returned_taken (id : Connection) (log : List (Event Output)) :
    returned id log = (taken log).filter fun command => command.connection? = some id := by
  unfold returned taken
  rw [List.filter_filterMap]
  apply List.filterMap_congr
  rintro ⟨call, outcome⟩ -
  cases call with
  | tryRecv =>
      cases outcome with
      | ok reply =>
          cases reply with
          | none => rfl
          | some command =>
              show (if command.connection? = some id then some command else none) =
                (some command).filter fun command => command.connection? = some id
              rw [Option.filter_some]
              simp
      | error | panic => rfl
  | _ => cases outcome <;> rfl

/-- A connection that registered at most once, and of which the channel took the first of these
objects, is asked for in order. -/
theorem Single.operations {calls : List (Event Output)} {objects : List Object}
    (single : Single id calls) {closed : Bool} {client : Option (Client Output)}
    (recorded : Recorded id closed client (chronicle id calls)) (attributed : Attributed id calls)
    (heard : accepted id calls <+: objects.map Json.obj) :
    ∃ first, first <+: Operation.connect id :: objects.map (Operation.command id) ∧
      ((returned id calls).filterMap Server.operation? = first ∨
        (returned id calls).filterMap Server.operation? = first ++ [Operation.disconnect id]) := by
  rcases single with ⟨none, -⟩ | ⟨registration, only, kept⟩
  · refine ⟨[], List.nil_prefix, .inl ?_⟩
    rw [← attributed, none]
    rfl
  have own : returned id calls = registration.returned := by
    rw [← attributed, only]
    exact List.append_nil _
  have commands : (registration.commands id).filterMap Server.operation? <+:
      Operation.connect id :: objects.map (Operation.command id) := by
    obtain ⟨rest, whole⟩ := heard
    have all : objects.map (Operation.command id) =
        ((objects.map Json.obj).map (Command.message (ω := Output) id)).filterMap
          Server.operation? := by
      rw [List.map_map, List.filterMap_map, ← List.filterMap_eq_map]
      rfl
    unfold Registration.commands
    rw [List.filterMap_cons, kept, all, ← whole, List.map_append, List.filterMap_append]
    exact List.cons_prefix_cons.mpr ⟨rfl, List.prefix_append _ _⟩
  have fits : registration.Open id ∨ registration.Ended id := by
    rw [only] at recorded
    cases client with
    | none => exact (recorded registration List.mem_cons_self).elim .inr fun shut => .inl shut.2
    | some client =>
        obtain ⟨newest, past, same, continues, -⟩ := recorded
        cases same
        exact .inl continues.ordered
  rw [own]
  rcases fits with begun | ⟨-, sent, first, whole⟩
  · exact ⟨_, (List.IsPrefix.filterMap _ begun).trans commands, .inl rfl⟩
  · refine ⟨_, (List.IsPrefix.filterMap _ first).trans commands, .inr ?_⟩
    rw [whole, List.filterMap_append]
    rfl

end Incoming

namespace Server

open Incoming

variable {env : Environment} {access : Access} {timeout : Duration} {capacity : Nat}
  {channel : State Output} {happenings : List Happening} {w : World}

/-- A command of a connection asks for an operation of that connection. -/
theorem operation?_concerns {command : Command Output} {op : Operation}
    (asked : operation? command = some op) (id : Connection) :
    op.concerns id = decide (command.connection? = some id) := by
  cases command with
  | message other value =>
      cases value <;> cases asked
      exact decide_eq_decide.mpr Option.some_inj.symm
  | connect | disconnect =>
      cases asked
      exact decide_eq_decide.mpr Option.some_inj.symm
  | shutdown =>
      cases asked
      rfl

/-- The operations of a connection are those of the commands returned for it. -/
theorem Traced.concerns (traced : Traced env access timeout capacity none w) (id : Connection) :
    w.operations.filter (Operation.concerns id) =
      (returned id w.calls).filterMap operation? := by
  have asked : w.operations.filter (Operation.concerns id) =
      (w.operations.filter isAsked).filter (Operation.concerns id) := by
    rw [List.filter_filter]
    apply List.filter_congr
    intro op _
    cases op <;> simp [isAsked, Operation.concerns]
  have served := traced.served
  rw [Option.bind_none, Option.toList_none, List.append_nil] at served
  rw [asked, ← served, returned_taken, List.filter_filterMap, List.filterMap_filter]
  apply List.filterMap_congr
  intro command _
  cases found : operation? command with
  | none => simp
  | some op =>
      rw [Option.filter_some, operation?_concerns found]

/-- The bridge is asked for the operations of a connection in order: first its registration, then
what its client said, and then its end. -/
theorem Reaches.operations (opened : Incoming.channel capacity = .ok channel)
    (reached : Reaches env channel access timeout happenings w) (id : Connection) :
    ∃ first, first <+: Operation.connect id :: (said id happenings).map (Operation.command id) ∧
      (w.operations.filter (Operation.concerns id) = first ∨
        w.operations.filter (Operation.concerns id) = first ++ [Operation.disconnect id]) := by
  have kept := reached.kept opened
  have regular := kept.traced.regular
  rw [kept.traced.concerns]
  exact (kept.registered.single id).operations (regular.recorded id) (regular.attributed id)
    (kept.heard.heard id)

/-- The bridge registers each connection at most once. -/
theorem Reaches.connects_once (opened : Incoming.channel capacity = .ok channel)
    (reached : Reaches env channel access timeout happenings w) :
    (w.operations.filterMap Operation.connects?).Nodup := by
  refine List.nodup_iff_count_le_one.mpr fun id => ?_
  have part : (w.operations.filterMap Operation.connects?).count id =
      ((w.operations.filter (Operation.concerns id)).filterMap Operation.connects?).count id := by
    induction w.operations with
    | nil => rfl
    | cons op rest inductionHypothesis =>
        rw [List.filterMap_cons, List.filter_cons]
        cases op with
        | connect other | command other fields | disconnect other =>
            by_cases own : other = id <;>
              simp [List.filterMap_cons, Operation.connects?, Operation.concerns, own,
                inductionHypothesis]
        | tick | shutdown => exact inductionHypothesis
  obtain ⟨first, ⟨rest, whole⟩, same⟩ := reached.operations opened id
  have registers : first.filterMap Operation.connects? <+: [id] := by
    have all : ((said id happenings).map (Operation.command id)).filterMap Operation.connects? = [] := by
      simp [List.filterMap_eq_nil_iff, Operation.connects?]
    have before : (first ++ rest).filterMap Operation.connects? = [id] := by
      rw [whole, List.filterMap_cons, all]
      rfl
    rw [List.filterMap_append] at before
    exact ⟨_, before⟩
  have once : ((w.operations.filter (Operation.concerns id)).filterMap
      Operation.connects?) = first.filterMap Operation.connects? := by
    rcases same with same | same
    · rw [same]
    · rw [same, List.filterMap_append]
      exact List.append_nil _
  rw [part, once]
  exact (registers.sublist.count_le id).trans (by simp)

/-- Unless the worker panicked, the bridge is in a state of its own runs, in which nobody registers
twice. -/
theorem Reaches.reachable (opened : Incoming.channel capacity = .ok channel)
    (reached : Reaches env channel access timeout happenings w)
    (running : ∀ site, w.worker ≠ .ended (.panicked site)) :
    Reachable env access timeout w.machine ∧ w.machine.log.ConnectsOnce := by
  obtain ⟨onward, connects⟩ := (reached.kept opened).traced.reached running
  refine ⟨onward, ?_⟩
  unfold History.ConnectsOnce
  rw [connects]
  exact reached.connects_once opened

/-- Whatever order the worker, the accept loop and the connections take their steps in: the bridge
performs one operation after the other, it is in a state of its own runs, in which nobody registers
twice, unless the worker panicked, and it is asked for the operations of each connection in order,
first the registration, then what its client said, then the end. -/
theorem server_operations (opened : Incoming.channel capacity = .ok channel)
    (reached : Reaches env channel access timeout happenings w) :
    w.machine = w.operations.foldl (Machine.next env) (.new access timeout) ∧
      ((∀ site, w.worker ≠ .ended (.panicked site)) →
        Reachable env access timeout w.machine ∧ w.machine.log.ConnectsOnce) ∧
      ∀ id, ∃ first, first <+: Operation.connect id :: (said id happenings).map (Operation.command id) ∧
        (w.operations.filter (Operation.concerns id) = first ∨
          w.operations.filter (Operation.concerns id) = first ++ [Operation.disconnect id]) := by
  exact ⟨(reached.kept opened).traced.machine, reached.reachable opened, reached.operations opened⟩

/-- A client advertises a topic and leaves. -/
def visit : List Happening :=
  [.accepted, .upgraded 1, .woke 1,
    .said 1 [("op", .str "advertise"), ("topic", .str "/chatter"),
      ("type", .str "std_msgs/msg/String")],
    .woke 1, .checked 0, .resumed, .received, .received, .received, .ticked, .finished 1, .closed 1,
    .left 1, .woke 1, .checked 1, .resumed, .received, .received, .ticked]

theorem server_operations_visit :
    ∃ w, (World.start ⟨∅, [], 4, false⟩ {} 5).run? .steady visit = some w ∧
      Reachable .steady {} 5 w.machine ∧ w.operations.length = 5 ∧
      (w.operations.filter (Operation.concerns 1)).length = 3 := by
  have runs : ((World.start ⟨∅, [], 4, false⟩ {} 5).run? .steady visit).any fun w =>
      !w.worker.isEnded && w.operations.length == 5 &&
        (w.operations.filter (Operation.concerns 1)).length == 3 := by decide +kernel
  obtain ⟨w, ran, holds⟩ := (Option.any_eq_true _ _).mp runs
  simp only [Bool.and_eq_true, beq_iff_eq, Bool.not_eq_true'] at holds
  obtain ⟨⟨running, five⟩, three⟩ := holds
  have alive : ∀ site, w.worker ≠ .ended (.panicked site) := by
    intro site ended
    rw [ended] at running
    cases running
  have reached : Reaches .steady ⟨∅, [], 4, false⟩ {} 5 visit w := .of_run ran
  exact ⟨w, ran, ((server_operations (channel_pos (by decide)) reached).2.1 alive).1, five, three⟩

/-! ### Sleep -/

/-- No wakeup is lost. A worker that waits does so for at most 100 ms, and for no time at which
something of the bridge is due; and if a command waits in the channel meanwhile, the guard condition
is triggered, or a task or the accept loop is still to trigger it. -/
theorem no_lost_wakeup (opened : Incoming.channel capacity = .ok channel)
    (reached : Reaches env channel access timeout happenings w) {wait : Duration}
    (waits : w.worker = .waiting wait) :
    wait ≤ Duration.fromMillis 100 ∧
      (0 < wait → ∃ now, lastChecked happenings = some now ∧
        ∀ time, time < now + wait → w.machine.bridge.due time = 0) ∧
      (0 < wait → hasPending w.channel = true → w.guard = true ∨
        (∃ id stage, w.tasks.lookup id = some ⟨stage, true⟩) ∨ w.main = .waking) := by
  have awake := (reached.kept opened).awake
  obtain ⟨limit, timely⟩ := awake.timely wait waits
  exact ⟨limit, timely, awake.alert wait waits⟩

/-- The worker waits for some time. -/
def Worker.sleeps : Worker → Bool
  | waiting wait => decide (0 < wait)
  | _ => false

/-- A client connects while the worker sleeps. -/
theorem no_lost_wakeup_upgraded :
    ∃ w wait, (World.start ⟨∅, [], 4, false⟩ {} 5).run? .steady
        [.accepted, .checked 0, .upgraded 1] = some w ∧ w.worker = .waiting wait ∧ 0 < wait ∧
      hasPending w.channel = true ∧ (w.guard = true ∨
        (∃ id stage, w.tasks.lookup id = some ⟨stage, true⟩) ∨ w.main = .waking) := by
  have runs : ((World.start ⟨∅, [], 4, false⟩ {} 5).run? .steady
      [.accepted, .checked 0, .upgraded 1]).any fun w =>
        w.worker.sleeps && hasPending w.channel := by decide +kernel
  obtain ⟨w, ran, holds⟩ := (Option.any_eq_true _ _).mp runs
  rw [Bool.and_eq_true] at holds
  obtain ⟨wait, waits, sleeps⟩ : ∃ wait, w.worker = .waiting wait ∧ 0 < wait := by
    have asleep := holds.1
    cases stands : w.worker with
    | waiting wait =>
        rw [stands] at asleep
        exact ⟨wait, rfl, of_decide_eq_true asleep⟩
    | _ =>
        rw [stands] at asleep
        cases asleep
  have reached : Reaches .steady ⟨∅, [], 4, false⟩ {} 5 [.accepted, .checked 0, .upgraded 1] w :=
    .of_run ran
  exact ⟨w, wait, ran, waits, sleeps, holds.2,
    (no_lost_wakeup (channel_pos (by decide)) reached waits).2.2 sleeps holds.2⟩

/-! ### Connections -/

/-- The bridge holds nothing: nobody is registered, its tables are empty, and every entity that was
created was destroyed. -/
structure Released (m : Machine) : Prop where
  outputs : ∀ id, id ∉ m.bridge.outputs
  publishers : m.bridge.publishers = ∅
  subscriptions : m.bridge.subscriptions = ∅
  services : m.bridge.services = ∅
  calls : m.bridge.calls = ∅
  external : m.bridge.external = ∅
  goals : m.bridge.goals = ∅
  actionServers : m.bridge.actionServers = ∅
  serverGoals : m.bridge.serverGoals = ∅
  entities : m.log.created.Nodup → (m.log.filterMap Entry.drawn?).Nodup →
    ∀ entity ∈ m.log.created, entity ∈ m.log.destroyed

/-- A bridge that nobody is registered with holds nothing. -/
theorem Released.of_reachable {m : Machine} (reached : Reachable env access timeout m)
    (once : m.log.ConnectsOnce) (outputs : ∀ id, id ∉ m.bridge.outputs) : Released m := by
  have unowned (owner : Connection) : ¬ m.bridge.Mentions owner :=
    fun mention => outputs owner (reached.registered owner mention)
  obtain ⟨publishers, subscriptions, services, calls, external, goals, actionServers, serverGoals⟩ :=
    reached.used.empty unowned
  refine ⟨outputs, publishers, subscriptions, services, calls, external, goals, actionServers,
    serverGoals, fun entities uuids entity made => ?_⟩
  have fresh : Fresh m.log := ⟨entities, uuids, once⟩
  obtain ⟨held, -, -⟩ := (ReachableBy.balanced reached fresh).lifecycle fresh
  by_contra kept
  have member := (held entity).mpr ⟨made, kept⟩
  unfold Bridge.held at member
  rw [publishers, subscriptions, services, calls, goals, actionServers] at member
  exact absurd member (Multiset.notMem_zero entity)

/-- Nothing of a connection outlives it. While the server runs, whatever the bridge holds belongs to
a connection whose task is not done, or whose end waits in the channel. Once every task is done and
no command waits, the bridge holds nothing. -/
theorem no_leaked_connection (opened : Incoming.channel capacity = .ok channel)
    (reached : Reaches env channel access timeout happenings w)
    (running : w.worker.isEnded = false) (serving : w.channel.closed = false) :
    (∀ id, w.machine.bridge.Mentions id ∨ id ∈ w.machine.bridge.outputs →
      ∃ task, w.tasks.lookup id = some task ∧ task.stage ≠ .handshaking ∧
        (task.stage = .done → id ∈ w.channel.ready)) ∧
    ((∀ id task, w.tasks.lookup id = some task → task.stage = .done) →
      hasPending w.channel = false → Released w.machine) := by
  have kept := reached.kept opened
  have coherent := kept.traced.regular.coherent
  obtain ⟨onward, once⟩ := reached.reachable opened (alive_of_running running)
  have owns (id : Connection)
      (holds : w.machine.bridge.Mentions id ∨ id ∈ w.machine.bridge.outputs) :
      ∃ task, w.tasks.lookup id = some task ∧ task.stage ≠ .handshaking ∧
        (task.stage = .done → id ∈ w.channel.ready) := by
    have connected := holds.elim (onward.registered id) fun member => member
    obtain ⟨client, found⟩ :=
      (AList.mem_iff_lookup _ _).mp (kept.attached running serving id connected)
    obtain ⟨task, known, past, leaves⟩ := kept.housed id client found
    refine ⟨task, known, past, fun done => (coherent.listed id).mpr ⟨client, found, ?_⟩⟩
    exact (coherent.sound id client found).busy.mpr (.inr (.inr (leaves done)))
  refine ⟨owns, fun done quiet => .of_reachable onward once fun id member => ?_⟩
  obtain ⟨task, known, -, waits⟩ := owns id (.inr member)
  have queued := waits (done id task known)
  unfold hasPending at quiet
  rw [serving, Bool.false_or, Bool.not_eq_false', List.isEmpty_iff] at quiet
  rw [quiet] at queued
  cases queued

/-- The client of the visit left, and its task is done. -/
theorem no_leaked_connection_visit :
    ∃ w, (World.start ⟨∅, [], 4, false⟩ {} 5).run? .steady (visit ++ [.released 1, .woke 1]) =
        some w ∧ w.machine.log.created.length = 1 ∧ Released w.machine := by
  have runs : ((World.start ⟨∅, [], 4, false⟩ {} 5).run? .steady
      (visit ++ [.released 1, .woke 1])).any fun w =>
        !w.worker.isEnded && !w.channel.closed && !hasPending w.channel &&
          w.machine.log.created.length == 1 &&
          w.tasks.entries.all fun entry => decide (entry.2.stage = .done) := by decide +kernel
  obtain ⟨w, ran, holds⟩ := (Option.any_eq_true _ _).mp runs
  simp only [Bool.and_eq_true, beq_iff_eq, Bool.not_eq_true'] at holds
  obtain ⟨⟨⟨⟨running, serving⟩, quiet⟩, one⟩, done⟩ := holds
  have reached : Reaches .steady ⟨∅, [], 4, false⟩ {} 5 (visit ++ [.released 1, .woke 1]) w :=
    .of_run ran
  refine ⟨w, ran, one, (no_leaked_connection (channel_pos (by decide)) reached running serving).2
    (fun id task known => ?_) quiet⟩
  exact of_decide_eq_true (List.all_eq_true.mp done ⟨id, task⟩ (AList.mem_lookup_iff.mp known))

/-! ### The end -/

/-- Once the channel is closed, the worker takes at most four more steps, and it can take one until
it ended. It asks the bridge for at most one more tick, and then for the shutdown; and if it ended
so, the bridge holds nothing. -/
theorem shutdown_ends (opened : Incoming.channel capacity = .ok channel)
    (reached : Reaches env channel access timeout happenings w) (closed : w.channel.closed = true)
    {more : List Happening} {last : World} (run : Trail (Steps env) more w last) :
    (more.filter Happening.isWorkers).length + last.worker.left ≤ w.worker.left ∧
      (last.worker.isEnded = false →
        ∃ happening, happening.isWorkers = true ∧ ∃ next, Steps env happening last next) ∧
      (∃ rest, last.operations = w.operations ++ rest ∧
        (rest <+: [.tick, .shutdown] ∨ rest <+: [.shutdown])) ∧
      (last.worker = .ended .stopped → Released last.machine) := by
  have start : Closing w.operations w :=
    ⟨closed, fun _ => .inl rfl, [], (List.append_nil _).symm, .inl List.nil_prefix⟩
  obtain ⟨traced, closing, steps⟩ := run.history (fun done v =>
      Traced env access timeout capacity none v ∧ Closing w.operations v ∧
        (done.filter Happening.isWorkers).length + v.worker.left ≤ w.worker.left)
    (fun done happening before after steps held => by
      obtain ⟨traced, closing, left⟩ := held
      obtain ⟨closing', fewer⟩ := closing.step traced steps
      refine ⟨traced.step steps, closing', ?_⟩
      rw [List.filter_append, List.length_append, List.filter_cons]
      cases worker : happening.isWorkers with
      | false =>
          rw [worker, cond_false] at fewer
          simp only [Bool.false_eq_true, if_false, List.filter_nil, List.length_nil]
          omega
      | true =>
          rw [worker, cond_true] at fewer
          simp only [if_true, List.filter_nil, List.length_singleton]
          omega)
    ⟨(reached.kept opened).traced, start, (Nat.zero_add _).le⟩
  have onward : Reaches env channel access timeout (happenings ++ more) last := reached.append run
  refine ⟨steps, fun running => ?_, closing.operations, fun ended => ?_⟩
  · cases stands : last.worker with
    | checking =>
        refine ⟨.checked 0, rfl, { last with worker := .waiting (last.pause env 0) }, ?_⟩
        unfold Steps World.after?
        rw [stands]
    | waiting wait =>
        refine ⟨.resumed, rfl, { last with worker := .draining 0, guard := false }, ?_⟩
        unfold Steps World.after?
        rw [stands]
    | draining index =>
        refine ⟨.received, rfl, last.receive env index, ?_⟩
        unfold Steps World.after?
        rw [stands]
    | ticking =>
        refine ⟨.ticked, rfl, last.tick env, ?_⟩
        unfold Steps World.after?
        rw [stands]
    | ended ending =>
        rw [stands] at running
        cases running
  · have alive : ∀ site, last.worker ≠ .ended (.panicked site) := by
      intro site panicked
      rw [ended] at panicked
      cases panicked
    obtain ⟨reachable, once⟩ := onward.reachable opened alive
    exact .of_reachable reachable once ((onward.kept opened).stopped ended)

/-- Whether the worker stopped in order. -/
def Worker.isStopped : Worker → Bool
  | ended .stopped => true
  | _ => false

/-- A signal stops a server that serves a publisher. -/
theorem shutdown_ends_signal :
    let happenings := [Happening.accepted, .upgraded 1, .woke 1, .checked 0, .resumed, .received,
      .said 1 [("op", .str "advertise"), ("topic", .str "/chatter"),
        ("type", .str "std_msgs/msg/String")], .received, .stopped]
    ∃ w last, (World.start ⟨∅, [], 4, false⟩ {} 5).run? .steady happenings = some w ∧
      Trail (Steps .steady) [.received] w last ∧ last.machine.log.created.length = 1 ∧
      Released last.machine := by
  intro happenings
  have runs : ((World.start ⟨∅, [], 4, false⟩ {} 5).run? .steady happenings).any fun w =>
      w.channel.closed && (w.after? .steady .received).any fun last =>
        last.worker.isStopped && last.machine.log.created.length == 1 := by decide +kernel
  obtain ⟨w, ran, holds⟩ := (Option.any_eq_true _ _).mp runs
  rw [Bool.and_eq_true] at holds
  obtain ⟨last, takes, ends⟩ := (Option.any_eq_true _ _).mp holds.2
  rw [Bool.and_eq_true, beq_iff_eq] at ends
  have stopped : last.worker = .ended .stopped := by
    have orderly := ends.1
    unfold Worker.isStopped at orderly
    split at orderly
    · assumption
    · cases orderly
  have reached : Reaches .steady ⟨∅, [], 4, false⟩ {} 5 happenings w := .of_run ran
  have run : Trail (Steps .steady) [.received] w last := .single takes
  exact ⟨w, last, ran, run, ends.2,
    (shutdown_ends (channel_pos (by decide)) reached holds.1 run).2.2.2 stopped⟩

end Server

end Rosbridge
