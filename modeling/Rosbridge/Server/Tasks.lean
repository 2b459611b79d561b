import Rosbridge.Server.Runs

/-!
The tasks of the connections.

Owns: what the worker leaves alone; that numbers are given out in order and that a connection
registers once, in the step that ends its handshake; and that what the channel took of a connection
is what its client said.
-/

set_option autoImplicit false

namespace Rosbridge.Server

open Foundation Incoming

variable {env : Environment} {access : Access} {timeout : Duration} {capacity : Nat}
  {w after last : World}

/-! ### What the worker leaves alone -/

/-- The tasks and the accept loop stand where they stood, and the calls since then are the
worker's or a shutdown. -/
structure Apart (before after : World) : Prop where
  tasks : after.tasks = before.tasks
  next : after.next = before.next
  main : after.main = before.main
  calls : ∃ events, after.calls = before.calls ++ events ∧
    Trail Takes events before.channel after.channel ∧
    ∀ event ∈ events, event.call = .tryRecv ∨ event.call = .shutdown

theorem Apart.refl (w : World) : Apart w w :=
  ⟨rfl, rfl, rfl, [], (List.append_nil _).symm, .nil w.channel, nofun⟩

theorem Apart.trans (first : Apart w after) (second : Apart after last) : Apart w last := by
  obtain ⟨more, calls, run, own⟩ := first.calls
  obtain ⟨rest, calls', run', own'⟩ := second.calls
  refine ⟨second.tasks.trans first.tasks, second.next.trans first.next,
    second.main.trans first.main, more ++ rest, ?_, run.append run', fun event member => ?_⟩
  · rw [calls', calls, List.append_assoc]
  · rcases List.mem_append.mp member with old | new
    · exact own event old
    · exact own' event new

theorem Apart.keep (apart : Apart w after) (tasks : last.tasks = after.tasks)
    (next : last.next = after.next) (main : last.main = after.main)
    (calls : last.calls = after.calls) (channel : last.channel = after.channel) : Apart w last := by
  obtain ⟨events, calls', run, own⟩ := apart.calls
  exact ⟨tasks.trans apart.tasks, next.trans apart.next, main.trans apart.main, events,
    calls.trans calls', channel ▸ run, own⟩

theorem World.call_apart (w : World) {sent : Incoming.Call Output}
    (own : sent = .tryRecv ∨ sent = .shutdown) : Apart w (w.call sent).2 := by
  refine ⟨rfl, rfl, rfl, [⟨sent, (w.call sent).1⟩], rfl, .single (w.call_takes sent),
    fun event member => ?_⟩
  rw [List.mem_singleton.mp member]
  exact own

theorem World.finish_apart (w : World) (ending : Ending) : Apart w (w.finish ending) := by
  have shut := w.call_apart (.inr rfl)
  exact ⟨shut.tasks, shut.next, shut.main, shut.calls⟩

theorem World.serve_apart (w : World) (index : Nat) (command : Command Output) :
    Apart w (w.serve env index command) := by
  unfold World.serve
  generalize Server.serve env command w.machine = ended
  obtain ⟨outcome, machine⟩ := ended
  have served : Apart w
      { w with machine, operations := w.operations ++ (operation? command).toList } :=
    (Apart.refl w).keep rfl rfl rfl rfl rfl
  cases outcome with
  | panic site => exact served.trans (World.finish_apart _ _)
  | ok value | error cause =>
      cases command with
      | shutdown => exact served.trans (World.finish_apart _ _)
      | _ => exact served.keep rfl rfl rfl rfl rfl

theorem World.receive_apart (w : World) (index : Nat) : Apart w (w.receive env index) := by
  have woken : Apart w (if index = 63 then { w with guard := true } else w) := by
    split
    · exact (Apart.refl w).keep rfl rfl rfl rfl rfl
    · exact .refl w
  unfold World.receive
  generalize (if index = 63 then { w with guard := true } else w) = v at woken
  have called : Apart w (v.call .tryRecv).2 := woken.trans (v.call_apart (.inl rfl))
  dsimp only
  generalize v.call .tryRecv = ended at called
  obtain ⟨outcome, after⟩ := ended
  cases outcome with
  | ok reply =>
      cases reply with
      | none => exact called.keep rfl rfl rfl rfl rfl
      | some command => exact called.trans (World.serve_apart _ _ _)
  | error cause => exact called.trans (World.finish_apart _ _)
  | panic site => exact called.trans (World.finish_apart _ _)

theorem World.tick_apart (w : World) : Apart w (w.tick env) := by
  unfold World.tick
  generalize Rosbridge.perform env .tick w.machine = ended
  obtain ⟨outcome, machine⟩ := ended
  have ticked : Apart w { w with machine, operations := w.operations ++ [Operation.tick] } :=
    (Apart.refl w).keep rfl rfl rfl rfl rfl
  cases outcome with
  | ok value => exact ticked.keep rfl rfl rfl rfl rfl
  | error cause | panic site => exact ticked.trans (World.finish_apart _ _)

/-! ### Registrations -/

/-- What the calls on the channel say of the tasks: numbers are given out in order, and a
connection registers in the step that ends its handshake. -/
structure Registered (w : World) : Prop where
  numbered : ∀ id ∈ w.tasks, id ≤ w.next
  single : ∀ id, Single id w.calls
  first : ∀ id, chronicle id w.calls ≠ [] →
    ∃ task, w.tasks.lookup id = some task ∧ task.stage ≠ .handshaking

theorem Registered.keep (registered : Registered w) (calls : after.calls = w.calls)
    (tasks : after.tasks = w.tasks) (next : after.next = w.next) : Registered after := by
  refine ⟨?_, ?_, ?_⟩
  · rw [tasks, next]
    exact registered.numbered
  · rw [calls]
    exact registered.single
  · rw [calls, tasks]
    exact registered.first

/-- A task that has shaken hands does not do so again. -/
theorem Registered.setTask {id : Connection} {old task : Task} (registered : Registered w)
    (stands : w.tasks.lookup id = some old)
    (past : task.stage = .handshaking → old.stage = .handshaking) :
    Registered (w.setTask id task) := by
  refine ⟨fun other member => ?_, registered.single, fun other began => ?_⟩
  · rcases (AList.mem_insert _).mp member with rfl | known
    · exact registered.numbered other ((AList.mem_iff_lookup _ _).mpr ⟨old, stands⟩)
    · exact registered.numbered other known
  · obtain ⟨current, found, done⟩ := registered.first other began
    show ∃ next, (w.tasks.insert id task).lookup other = some next ∧ _
    rw [AList.lookup_insert_if]
    split
    · next same =>
        rw [same, stands] at found
        cases found
        exact ⟨task, rfl, fun again => done (past again)⟩
    · exact ⟨current, found, done⟩

/-- A new task starts under a new number. -/
theorem Registered.accept (registered : Registered w) : Registered
    { w with next := w.next + 1, tasks := w.tasks.insert (w.next + 1) ⟨.handshaking, false⟩ } := by
  refine ⟨fun other member => ?_, registered.single, fun other began => ?_⟩
  · rcases (AList.mem_insert _).mp member with rfl | known
    · exact Nat.le_refl _
    · exact (registered.numbered other known).trans (Nat.le_succ _)
  · obtain ⟨current, found, done⟩ := registered.first other began
    have known := registered.numbered other ((AList.mem_iff_lookup _ _).mpr ⟨current, found⟩)
    refine ⟨current, ?_, done⟩
    show (w.tasks.insert (w.next + 1) _).lookup other = _
    rw [AList.lookup_insert_ne fun same => absurd (same ▸ known) (Nat.not_succ_le_self _)]
    exact found

/-- Only `Connect` opens a record. -/
theorem record_nil {id : Connection} {event : Incoming.Event Output}
    (opens : event.record id [] ≠ []) : ∃ output, event.call = .connect id output := by
  obtain ⟨call, outcome⟩ := event
  cases call with
  | connect other output =>
      by_cases own : other = id
      · exact ⟨output, by rw [own]⟩
      · cases outcome with
        | ok reply => exact absurd (if_neg own) opens
        | error | panic => exact absurd rfl opens
  | message other value =>
      cases outcome with
      | ok reply => exact absurd (ite_self []) opens
      | error | panic => exact absurd rfl opens
  | disconnect other =>
      cases outcome with
      | ok reply => exact absurd (ite_self []) opens
      | error | panic => exact absurd rfl opens
  | shutdown => cases outcome <;> exact absurd rfl opens
  | tryRecv =>
      cases outcome with
      | ok reply =>
          cases reply with
          | none => exact absurd rfl opens
          | some command => exact absurd (ite_self []) opens
      | error | panic => exact absurd rfl opens

/-- Neither the receiver nor a shutdown registers anybody. -/
theorem Apart.single {events : List (Incoming.Event Output)} {id : Connection}
    (own : ∀ event ∈ events, event.call = .tryRecv ∨ event.call = .shutdown)
    {calls : List (Incoming.Event Output)} (single : Single id calls) :
    Single id (calls ++ events) ∧ (chronicle id (calls ++ events) ≠ [] → chronicle id calls ≠ []) := by
  induction events generalizing calls with
  | nil =>
      rw [List.append_nil]
      exact ⟨single, fun began => began⟩
  | cons event events inductionHypothesis =>
      have here := own event List.mem_cons_self
      have one : Single id (calls ++ [event]) := by
        apply single.step
        · intro output same
          rw [same] at here
          exact here.elim nofun nofun
        · intro value takes
          obtain ⟨call, outcome⟩ := event
          obtain rfl | rfl := here <;> cases takes
      have later := inductionHypothesis (fun event member => own event (List.mem_cons_of_mem _ member))
        one
      rw [List.append_assoc, List.singleton_append] at later
      refine ⟨later.1, fun began none => later.2 began ?_⟩
      rw [chronicle_snoc, none]
      by_contra opens
      obtain ⟨output, same⟩ := record_nil opens
      rw [same] at here
      exact here.elim nofun nofun

theorem Registered.apart (registered : Registered w) (apart : Apart w after) : Registered after := by
  obtain ⟨events, calls, -, own⟩ := apart.calls
  refine ⟨?_, fun id => ?_, fun id began => ?_⟩
  · rw [apart.tasks, apart.next]
    exact registered.numbered
  · rw [calls]
    exact (Apart.single own (registered.single id)).1
  · rw [apart.tasks]
    rw [calls] at began
    exact registered.first id ((Apart.single own (registered.single id)).2 began)

/-- A call on the channel. A `Connect` comes from a task that shakes hands and is done with it. -/
theorem Registered.call (registered : Registered w) (regular : Regular capacity w.calls w.channel)
    {sent : Incoming.Call Output}
    {tasks : Table Connection Task}
    (shaking : ∀ id output, sent = .connect id output →
      w.tasks.lookup id = some ⟨.handshaking, false⟩ ∧
        ∃ task, tasks.lookup id = some task ∧ task.stage ≠ .handshaking)
    (numbered : ∀ id ∈ tasks, id ≤ w.next)
    (first : ∀ id task, w.tasks.lookup id = some task → task.stage ≠ .handshaking →
      ∃ task, tasks.lookup id = some task ∧ task.stage ≠ .handshaking) :
    Registered { (w.call sent).2 with tasks } := by
  have effect := (w.call_takes sent).effect regular.coherent
  have unopened (id : Connection) (output : Output) (same : sent = .connect id output) :
      chronicle id w.calls = [] := by
    by_contra began
    obtain ⟨task, found, done⟩ := registered.first id began
    rw [(shaking id output same).1] at found
    cases found
    exact done rfl
  refine ⟨numbered, fun id => ?_, fun id began => ?_⟩
  · exact (registered.single id).step (unopened id) fun value =>
      effect.takes_known regular.recorded
  · by_cases opened : chronicle id w.calls = []
    · have opens : Event.record id [] ⟨sent, (w.call sent).1⟩ ≠ [] := by
        intro nothing
        apply began
        show chronicle id (w.calls ++ [⟨sent, (w.call sent).1⟩]) = []
        rw [chronicle_snoc, opened, nothing]
      obtain ⟨output, same⟩ := record_nil opens
      exact (shaking id output same).2
    · obtain ⟨task, found, done⟩ := registered.first id opened
      exact first id task found done

/-- After `try_send` the task waits to wake the worker, or goes on without. -/
theorem World.trySend_eq (w : World) (id : Connection) (sent : Incoming.Call Output)
    (accepts refuses : Stage) :
    (∃ reply, (w.call sent).1 = .ok reply ∧
      w.trySend id sent accepts refuses = (w.call sent).2.setTask id ⟨accepts, true⟩) ∨
    (∀ reply, (w.call sent).1 ≠ .ok reply) ∧
      w.trySend id sent accepts refuses = (w.call sent).2.setTask id ⟨refuses, false⟩ := by
  unfold World.trySend
  generalize w.call sent = ended
  obtain ⟨outcome, after⟩ := ended
  cases outcome with
  | ok reply => exact .inl ⟨reply, rfl, rfl⟩
  | error cause => exact .inr ⟨nofun, rfl⟩
  | panic site => exact .inr ⟨nofun, rfl⟩

theorem Happening.sends_stage {happening : Happening} {id : Connection}
    {call : Incoming.Call Output} {stage accepts refuses : Stage}
    (sends : happening.sends = some (id, call, stage, accepts, refuses)) :
    accepts ≠ .handshaking ∧ refuses ≠ .handshaking ∧
      ∀ other output, call = .connect other output → other = id ∧ stage = .handshaking := by
  cases happening <;> cases sends
  case upgraded =>
    refine ⟨nofun, nofun, fun other output same => ?_⟩
    cases same
    exact ⟨rfl, rfl⟩
  all_goals exact ⟨nofun, nofun, nofun⟩

theorem Registered.trySend (registered : Registered w)
    (regular : Regular capacity w.calls w.channel) {happening : Happening} {id : Connection}
    {sent : Incoming.Call Output} {stage accepts refuses : Stage}
    (sends : happening.sends = some (id, sent, stage, accepts, refuses))
    (stands : w.tasks.lookup id = some ⟨stage, false⟩) :
    Registered (w.trySend id sent accepts refuses) := by
  obtain ⟨takes, drops, shakes⟩ := Happening.sends_stage sends
  have known : id ∈ w.tasks := (AList.mem_iff_lookup _ _).mpr ⟨_, stands⟩
  have called (task : Task) (past : task.stage ≠ .handshaking) :
      Registered ((w.call sent).2.setTask id task) := by
    refine registered.call regular (fun other output same => ?_) (fun other member => ?_)
      fun other current found done => ?_
    · obtain ⟨rfl, rfl⟩ := shakes other output same
      exact ⟨stands, task, AList.lookup_insert _, past⟩
    · rcases (AList.mem_insert _).mp member with rfl | old
      · exact registered.numbered other known
      · exact registered.numbered other old
    · show ∃ next, (w.tasks.insert id task).lookup other = some next ∧ _
      rw [AList.lookup_insert_if]
      split
      · exact ⟨task, rfl, past⟩
      · exact ⟨current, found, done⟩
  rcases w.trySend_eq id sent accepts refuses with ⟨-, -, same⟩ | ⟨-, same⟩
  · rw [same]
    exact called _ takes
  · rw [same]
    exact called _ drops

theorem Registered.step {happening : Happening} (registered : Registered w)
    (regular : Regular capacity w.calls w.channel) (steps : Steps env happening w after) :
    Registered after := by
  cases steps.turn with
  | accepted => exact registered.accept
  | refused | wokeWorker | joined | checked | resumed => exact registered.keep rfl rfl rfl
  | sent sends stands => exact registered.trySend regular sends stands
  | moved moves stands =>
      refine registered.setTask stands fun again => ?_
      cases moves with
      | rejected | finished | closed => cases again
      | aborted drops =>
          obtain ⟨-, rfl⟩ | ⟨-, rfl⟩ := drops <;> cases again
  | @woke _ id stage stands =>
      have moved : Registered (w.setTask id ⟨stage, false⟩) := registered.setTask stands fun again => again
      exact moved.keep rfl rfl rfl
  | stopped =>
      have shut : Registered (w.call .shutdown).2 := registered.apart (w.call_apart (.inr rfl))
      exact shut.keep rfl rfl rfl
  | interrupted => exact registered.apart (w.finish_apart _)
  | received => exact registered.apart (w.receive_apart _)
  | ticked => exact registered.apart w.tick_apart

theorem Registered.start (channel : State Output) (access : Access) (timeout : Duration) :
    Registered (World.start channel access timeout) :=
  ⟨fun _ member => absurd member (AList.notMem_empty _), fun _ => .inl ⟨rfl, rfl⟩,
    fun _ began => absurd rfl began⟩

/-! ### What a client said -/

/-- The object that the client of this connection said. -/
def Happening.said? (id : Connection) : Happening → Option Object
  | .said other fields => if other = id then some fields else none
  | _ => none

/-- Everything that the client of this connection said, in order. -/
def said (id : Connection) (happenings : List Happening) : List Object :=
  happenings.filterMap (Happening.said? id)

theorem said_snoc (id : Connection) (happenings : List Happening) (happening : Happening) :
    said id (happenings ++ [happening]) = said id happenings ++ (happening.said? id).toList := by
  unfold said
  rw [List.filterMap_append, List.filterMap_cons]
  cases happening.said? id <;> rfl

/-- The client of this connection may still say something. -/
def World.Early (w : World) (id : Connection) : Prop :=
  ∀ task, w.tasks.lookup id = some task → task.stage = .handshaking ∨ task.stage = .session

/-- What the channel took of a client is the first of what it said, and all of it up to the end of
its session. -/
structure Heard (happenings : List Happening) (w : World) : Prop where
  heard : ∀ id, accepted id w.calls <+: (said id happenings).map Json.obj
  complete : ∀ id, w.Early id → accepted id w.calls = (said id happenings).map Json.obj

theorem Apart.hears (apart : Apart w after) (id : Connection) :
    accepted id after.calls = accepted id w.calls := by
  obtain ⟨events, calls, -, own⟩ := apart.calls
  have none : accepted id events = [] := by
    refine List.filterMap_eq_nil_iff.mpr fun event member => ?_
    obtain ⟨call, outcome⟩ := event
    obtain rfl | rfl := own _ member <;> rfl
  rw [calls]
  unfold Incoming.accepted at none ⊢
  rw [List.filterMap_append, none, List.append_nil]

/-- Nobody said anything. -/
theorem Heard.silent {happenings : List Happening} {happening : Happening}
    (heard : Heard happenings w) (silent : ∀ id, happening.said? id = none)
    (same : ∀ id, accepted id after.calls = accepted id w.calls)
    (early : ∀ id, after.Early id → w.Early id) : Heard (happenings ++ [happening]) after := by
  refine ⟨fun id => ?_, fun id still => ?_⟩
  all_goals
    rw [same, said_snoc, silent, Option.toList_none, List.append_nil]
  · exact heard.heard id
  · exact heard.complete id (early id still)

theorem World.Early.setTask {id other : Connection} {old task : Task}
    (early : (w.setTask id task).Early other) (stands : w.tasks.lookup id = some old)
    (before : task.stage = .handshaking ∨ task.stage = .session →
      old.stage = .handshaking ∨ old.stage = .session) : w.Early other := by
  intro current found
  by_cases own : other = id
  · subst own
    rw [stands] at found
    cases found
    exact before (early task (AList.lookup_insert _))
  · apply early current
    show (w.tasks.insert id task).lookup other = some current
    rw [AList.lookup_insert_ne own]
    exact found

theorem World.Early.apart {id : Connection} (apart : Apart w after) (early : after.Early id) :
    w.Early id := by
  unfold World.Early at early ⊢
  rwa [apart.tasks] at early

/-- A call adds what the channel took by it. -/
theorem World.call_accepted (w : World) (id : Connection) (sent : Incoming.Call Output) :
    accepted id (w.call sent).2.calls =
      accepted id w.calls ++ (Event.accepted? id ⟨sent, (w.call sent).1⟩).toList :=
  accepted_snoc id w.calls ⟨sent, (w.call sent).1⟩

/-- A command that says nothing. -/
theorem Heard.quiet {happenings : List Happening} {happening : Happening} {id : Connection}
    {sent : Incoming.Call Output} {old : Task} {accepts refuses : Stage}
    (heard : Heard happenings w) (silent : ∀ other, happening.said? other = none)
    (none : ∀ other outcome, Event.accepted? other ⟨sent, outcome⟩ = none)
    (stands : w.tasks.lookup id = some old)
    (before : ∀ stage, stage = accepts ∨ stage = refuses → stage = .handshaking ∨ stage = .session →
      old.stage = .handshaking ∨ old.stage = .session) :
    Heard (happenings ++ [happening]) (w.trySend id sent accepts refuses) := by
  have called (task : Task) (next : task.stage = accepts ∨ task.stage = refuses) :
      Heard (happenings ++ [happening]) ((w.call sent).2.setTask id task) := by
    apply heard.silent silent
    · intro other
      show accepted other (w.call sent).2.calls = _
      rw [World.call_accepted, none, Option.toList_none, List.append_nil]
    · intro other early
      exact World.Early.setTask early stands (before task.stage next)
  rcases w.trySend_eq id sent accepts refuses with ⟨-, -, same⟩ | ⟨-, same⟩
  · rw [same]
    exact called _ (.inl rfl)
  · rw [same]
    exact called _ (.inr rfl)

/-- A client says something: the channel takes it, or its session is at an end. -/
theorem Heard.said {happenings : List Happening} {id : Connection} {fields : Object}
    (heard : Heard happenings w) (stands : w.tasks.lookup id = some ⟨.session, false⟩) :
    Heard (happenings ++ [.said id fields])
      (w.trySend id (.message id (.obj fields)) .session .closing) := by
  have talks : w.Early id := by
    intro task found
    rw [stands] at found
    cases found
    exact .inr rfl
  rcases w.trySend_eq id (.message id (.obj fields)) .session .closing with
    ⟨reply, took, same⟩ | ⟨refused, same⟩
  · have adds (other : Connection) :
        (Event.accepted? other ⟨.message id (.obj fields), .ok reply⟩).toList =
          (Happening.said? other (.said id fields)).toList.map Json.obj := by
      show (if id = other then some (Json.obj fields) else none).toList =
        List.map Json.obj (if id = other then some fields else none).toList
      split <;> rfl
    have whole (other : Connection)
        (before : accepted other w.calls = (Server.said other happenings).map Json.obj) :
        accepted other (w.call (.message id (.obj fields))).2.calls =
          (Server.said other (happenings ++ [.said id fields])).map Json.obj := by
      rw [World.call_accepted, took, said_snoc, List.map_append, adds, before]
    rw [same]
    refine ⟨fun other => ?_, fun other early => ?_⟩
    · by_cases own : other = id
      · have all := whole other (heard.complete other (own ▸ talks))
        exact ⟨[], (List.append_nil _).trans all⟩
      · show accepted other (w.call (.message id (.obj fields))).2.calls <+: _
        have none : Happening.said? other (.said id fields) = none := if_neg fun eq => own eq.symm
        rw [World.call_accepted, took, said_snoc, List.map_append, adds, none]
        exact (List.append_nil _).symm ▸ (List.append_nil _).symm ▸ heard.heard other
    · exact whole other (heard.complete other (World.Early.setTask early stands fun _ => .inr rfl))
  · have keeps (other : Connection) :
        accepted other (w.call (.message id (.obj fields))).2.calls = accepted other w.calls := by
      rw [World.call_accepted]
      cases outcome : (w.call (.message id (.obj fields))).1 with
      | ok reply => exact absurd outcome (refused reply)
      | error | panic => exact List.append_nil _
    rw [same]
    refine ⟨fun other => ?_, fun other early => ?_⟩
    · show accepted other (w.call (.message id (.obj fields))).2.calls <+: _
      rw [keeps, said_snoc, List.map_append]
      exact (heard.heard other).trans (List.prefix_append _ _)
    · by_cases own : other = id
      · subst own
        rcases early _ (AList.lookup_insert _) with stage | stage <;> cases stage
      · show accepted other (w.call (.message id (.obj fields))).2.calls = _
        have none : Happening.said? other (.said id fields) = none := if_neg fun eq => own eq.symm
        rw [keeps, said_snoc, none, Option.toList_none, List.append_nil]
        apply heard.complete other
        intro task found
        apply early task
        show (w.tasks.insert id _).lookup other = some task
        rw [AList.lookup_insert_ne own]
        exact found

theorem Heard.step {happenings : List Happening} {happening : Happening}
    (heard : Heard happenings w) (registered : Registered w) (steps : Steps env happening w after) :
    Heard (happenings ++ [happening]) after := by
  have apart (silent : ∀ id, happening.said? id = none) (apart : Apart w after) :
      Heard (happenings ++ [happening]) after :=
    heard.silent silent apart.hears fun _ early => World.Early.apart apart early
  cases steps.turn with
  | accepted =>
      refine heard.silent (fun _ => rfl) (fun _ => rfl) fun id early task found => ?_
      apply early task
      have known := registered.numbered id ((AList.mem_iff_lookup _ _).mpr ⟨task, found⟩)
      show (w.tasks.insert (w.next + 1) _).lookup id = some task
      rw [AList.lookup_insert_ne fun same => absurd (same ▸ known) (Nat.not_succ_le_self _)]
      exact found
  | refused | wokeWorker | joined | checked | resumed =>
      exact heard.silent (fun _ => rfl) (fun _ => rfl) fun _ early => early
  | sent sends stands =>
      cases happening <;> cases sends
      case sent.said.refl id fields => exact heard.said stands
      case sent.upgraded.refl id =>
        apply heard.quiet (fun _ => rfl) (fun _ outcome => by cases outcome <;> rfl) stands
        exact fun _ _ _ => .inl rfl
      all_goals
        apply heard.quiet (fun _ => rfl) (fun _ outcome => by cases outcome <;> rfl) stands
        intro stage next early
        obtain rfl | rfl := next <;> obtain same | same := early <;> cases same
  | moved moves stands =>
      have silent : ∀ id, happening.said? id = none := by
        intro id
        cases moves <;> rfl
      refine heard.silent silent (fun _ => rfl) fun id early => ?_
      refine World.Early.setTask early stands fun still => ?_
      cases moves with
      | rejected | finished | closed => obtain same | same := still <;> cases same
      | aborted drops =>
          obtain ⟨-, rfl⟩ | ⟨-, rfl⟩ := drops <;> obtain same | same := still <;> cases same
  | @woke _ id stage stands =>
      refine heard.silent (fun _ => rfl) (fun _ => rfl) fun other early => ?_
      have moved : (w.setTask id ⟨stage, false⟩).Early other := early
      exact World.Early.setTask moved stands fun still => still
  | stopped =>
      have shut := w.call_apart (.inr rfl)
      exact heard.silent (fun _ => rfl) shut.hears fun id early => World.Early.apart shut early
  | interrupted => exact apart (fun _ => rfl) (w.finish_apart _)
  | received => exact apart (fun _ => rfl) (w.receive_apart _)
  | ticked => exact apart (fun _ => rfl) w.tick_apart

end Rosbridge.Server
