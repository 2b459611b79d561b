import Rosbridge.Properties.Cleanup
import Rosbridge.Properties.Incoming
import Rosbridge.Server.World

/-!
What the worker does with the commands of the channel.

Owns: that the history of the channel is a run of it and carries objects only; that the bridge is
in a state of its own runs; that its operations are the commands it took and its ticks; and that
each connection is registered at most once.
-/

set_option autoImplicit false

namespace Rosbridge

open Foundation Program

/-! ### Registrations in the history of the bridge -/

/-- The connection that an operation registers. -/
def Operation.connects? : Operation → Option Connection
  | connect connection => some connection
  | _ => none

section Registrations

variable {env : Environment} {move : Move} {m after : Machine} {op : Operation}

/-- Only `connected` registers a connection. -/
theorem Move.entries_connected (enabled : move.Enabled env m)
    (other : ∀ connection, move ≠ .connected connection) :
    move.entries.filterMap Entry.connected? = [] := by
  refine List.filterMap_eq_nil_iff.mpr fun entry member => ?_
  cases move
  case connected connection => exact absurd rfl (other connection)
  case observed entries =>
    have inert := enabled entry member
    cases entry <;> first | rfl | exact inert.elim
  case aborted creations refusal =>
    rcases List.mem_append.mp member with before | gone
    · rcases List.mem_append.mp before with made | refused
      · rcases enabled.1 entry made with inert | vain | created
        · cases entry <;> first | rfl | exact inert.elim
        · cases entry <;> first | rfl | exact vain.elim
        · cases entry <;> first | rfl | cases created
      · obtain ⟨pair, -, rfl⟩ := List.mem_map.mp refused
        rfl
    · obtain ⟨entity, -, rfl⟩ := List.mem_map.mp gone
      rfl
  case used used =>
    have idle := enabled.idle
    obtain rfl := List.mem_singleton.mp member
    cases entry <;> first | rfl | exact idle.elim
  case goalFinished key goal values status success =>
    obtain ⟨entity, -, rfl⟩ := List.mem_map.mp member
    rfl
  case actionRemoved action server closed replies =>
    rcases List.mem_append.mp member with answered | gone
    · obtain ⟨reply, -, rfl⟩ := List.mem_map.mp answered
      rfl
    · obtain ⟨entity, -, rfl⟩ := List.mem_map.mp gone
      rfl
  case probed readings =>
    obtain ⟨reading, -, rfl⟩ := List.mem_map.mp member
    rfl
  all_goals
    revert entry
    simp [Move.entries, Entry.connected?]

theorem Sent.connected {message : Option Message} (sent : Sent message m after) :
    after.log.filterMap Entry.connected? = m.log.filterMap Entry.connected? := by
  cases sent <;> simp [Message.entry, Entry.connected?]

theorem Transition.silent_connects (taken : Transition env move m after)
    (other : ∀ connection, move ≠ .connected connection) :
    after.log.filterMap Entry.connected? = m.log.filterMap Entry.connected? := by
  obtain ⟨middle, sent, enabled, rfl⟩ := taken
  rw [List.filterMap_append, Move.entries_connected enabled other, List.append_nil]
  exact sent.connected

theorem Dropped.silent_connects {owner : Connection} (dropped : Dropped env owner m after) :
    after.log.filterMap Entry.connected? = m.log.filterMap Entry.connected? := by
  obtain ⟨gone, left, released, -⟩ := dropped
  refine Eq.trans ?_ (left.silent_connects nofun)
  refine released.invariant (fun machine =>
    machine.log.filterMap Entry.connected? = gone.log.filterMap Entry.connected?)
    (fun move before last releasing taken held => ?_) rfl
  refine (taken.silent_connects fun connection same => ?_).trans held
  subst same
  rcases releasing with pass | pass | pass | pass | pass | pass | pass
  all_goals first | exact pass.elim | cases pass

/-- Every operation but `connect` registers nobody. -/
theorem Performed.silent_connects (performed : Performed env op m after) (shaped : Shaped m)
    (other : ∀ connection, op ≠ .connect connection) :
    after.log.filterMap Entry.connected? = m.log.filterMap Entry.connected? := by
  refine performed.invariant (fun machine => machine.log.filterMap Entry.connected? =
    m.log.filterMap Entry.connected?) shaped ?_ ?_ ?_ ?_ ?_ rfl
  · rintro move before last - inner taken held
    refine (taken.silent_connects fun connection same => ?_).trans held
    rw [same] at inner
    exact inner
  · exact fun connection _ _ same => absurd same (other connection)
  · exact fun _ _ _ taken held => (taken.silent_connects nofun).trans held
  · exact fun _ _ _ _ taken held => (taken.silent_connects nofun).trans held
  · exact fun _ _ _ _ dropped held => dropped.silent_connects.trans held

/-- An operation notes the connection that it registers. -/
theorem Performed.connects (performed : Performed env op m after) (shaped : Shaped m) :
    after.log.filterMap Entry.connected? =
      m.log.filterMap Entry.connected? ++ op.connects?.toList := by
  by_cases other : ∀ connection, op ≠ .connect connection
  · have none : op.connects? = none := by
      cases op with
      | connect connection => exact absurd rfl (other connection)
      | _ => rfl
    rw [performed.silent_connects shaped other, none]
    exact (List.append_nil _).symm
  · push Not at other
    obtain ⟨connection, rfl⟩ := other
    obtain ⟨middle, sent, -, rfl⟩ := performed
    rw [List.filterMap_append, sent.connected]
    rfl

end Registrations

namespace Incoming

/-! ### One registration for each connection -/

section Channel

variable {event : Event Output} {log : List (Event Output)} {before after : State Output}
  {id : Connection}

/-- The messages that wait are objects. -/
def Objects (s : State Output) : Prop :=
  ∀ id client, s.clients.lookup id = some client → ∀ value ∈ client.messages,
    ∃ fields, value = Json.obj fields

/-- The message that a call added to the queue of a connection. -/
def Event.accepted? (id : Connection) (event : Event Output) : Option Json :=
  match event.call, event.outcome with
  | .message other value, .ok _ => if other = id then some value else none
  | _, _ => none

/-- The messages of a connection that the channel took, in order. -/
def accepted (id : Connection) (log : List (Event Output)) : List Json :=
  log.filterMap (Event.accepted? id)

/-- The connection registered at most once, and its messages are those of that registration. -/
def Single (id : Connection) (log : List (Event Output)) : Prop :=
  chronicle id log = [] ∧ accepted id log = [] ∨
    ∃ registration, chronicle id log = [registration] ∧ registration.accepted = accepted id log

theorem accepted_snoc (id : Connection) (log : List (Event Output)) (event : Event Output) :
    accepted id (log ++ [event]) = accepted id log ++ (event.accepted? id).toList := by
  unfold accepted
  rw [List.filterMap_append, List.filterMap_cons]
  cases event.accepted? id <;> rfl

/-- An event that neither registers the connection nor adds a message of it. -/
theorem Single.still {change : Registration Output → Registration Output} (single : Single id log)
    (silent : event.accepted? id = none)
    (recorded : event.record id (chronicle id log) = (chronicle id log).modifyHead change)
    (same : ∀ registration, (change registration).accepted = registration.accepted) :
    Single id (log ++ [event]) := by
  unfold Single
  rw [chronicle_snoc, accepted_snoc, silent, recorded, Option.toList_none, List.append_nil]
  rcases single with ⟨none, empty⟩ | ⟨registration, only, kept⟩
  · rw [none]
    exact .inl ⟨rfl, empty⟩
  · rw [only]
    exact .inr ⟨_, rfl, (same registration).trans kept⟩

/-- Only the first `Connect` of a connection registers it, and messages come after. -/
theorem Single.step (single : Single id log)
    (first : ∀ output, event.call = .connect id output → chronicle id log = [])
    (known : ∀ value, event.accepted? id = some value → chronicle id log ≠ []) :
    Single id (log ++ [event]) := by
  have stays (silent : event.accepted? id = none)
      (recorded : event.record id (chronicle id log) = chronicle id log) :
      Single id (log ++ [event]) :=
    single.still silent (recorded.trans (congrFun List.modifyHead_id (chronicle id log)).symm)
      fun _ => rfl
  obtain ⟨call, outcome⟩ := event
  cases outcome with
  | error | panic => cases call <;> exact stays rfl rfl
  | ok returned =>
      cases call with
      | connect other output =>
          by_cases own : other = id
          · subst own
            have none := first output rfl
            unfold Single
            rw [chronicle_snoc, accepted_snoc, none]
            rcases single with ⟨-, empty⟩ | ⟨registration, only, -⟩
            · rw [empty]
              exact .inr ⟨_, if_pos rfl, rfl⟩
            · rw [only] at none
              cases none
          · exact stays rfl (if_neg own)
      | message other value =>
          by_cases own : other = id
          · subst own
            have takes : Event.accepted? other ⟨.message other value, .ok returned⟩ = some value :=
              if_pos rfl
            rcases single with ⟨none, -⟩ | ⟨registration, only, kept⟩
            · exact absurd none (known value takes)
            · refine .inr ⟨{ registration with accepted := registration.accepted ++ [value] }, ?_, ?_⟩
              · rw [chronicle_snoc, only]
                exact if_pos rfl
              · rw [accepted_snoc, takes, ← kept]
                rfl
          · exact stays (if_neg own) (if_neg own)
      | disconnect other =>
          by_cases own : other = id
          · exact single.still rfl (if_pos own) fun _ => rfl
          · exact stays rfl (if_neg own)
      | shutdown => exact stays rfl rfl
      | tryRecv =>
          cases returned with
          | none => exact stays rfl rfl
          | some command =>
              by_cases own : command.connection? = some id
              · exact single.still rfl (if_pos own) fun _ => rfl
              · exact stays rfl (if_neg own)

theorem Effect.takes_known (effect : Effect event before after) (recorded : RecordedIn log before)
    {value : Json} (takes : event.accepted? id = some value) : chronicle id log ≠ [] := by
  cases effect with
  | @accepted other _ _ _ _ found =>
      have own : other = id := by
        by_contra apart
        cases (if_neg apart).symm.trans takes
      subst own
      obtain ⟨newest, past, chronicled, -⟩ := recorded.at found
      rw [chronicled]
      exact List.cons_ne_nil _ _
  | @refused call _ _ _ => cases call <;> cases takes
  | _ => cases takes

/-- A client's turn with messages that are objects. -/
theorem Turns.objects {client : Option (Client Output)} {ready : List Connection}
    (turns : Turns id client ready before after) (objects : Objects before)
    (here : ∀ next, client = some next → ∀ value ∈ next.messages, ∃ fields, value = Json.obj fields) :
    Objects after := by
  intro other next found
  rw [turns.lookup] at found
  split at found
  · exact here next found
  · exact objects other next found

theorem Effect.objects (effect : Effect event before after) (objects : Objects before)
    (sent : ∀ id value, event.call = .message id value → ∃ fields, value = Json.obj fields) :
    Objects after := by
  cases effect with
  | refused | unknown | finished | idle => exact objects
  | connected _ _ turns =>
      refine turns.objects objects fun next same value member => ?_
      cases same
      cases member
  | @accepted id value client _ _ found _ _ turns =>
      refine turns.objects objects fun next same other member => ?_
      cases same
      rcases List.mem_append.mp member with old | new
      · exact objects id client found other old
      · rw [List.mem_singleton.mp new]
        exact sent id value rfl
  | leaving _ turns =>
      refine turns.objects objects fun next same value member => ?_
      cases same
      cases member
  | shut => exact fun _ _ found => nomatch found
  | dropped _ _ _ turns => exact turns.objects objects fun _ same => nomatch same
  | @introduced id _ client _ _ _ _ found _ _ turns =>
      refine turns.objects objects fun next same value member => ?_
      cases same
      exact objects id client found value member
  | @delivered id _ _ client _ _ _ _ found _ _ pending turns =>
      refine turns.objects objects fun next same value member => ?_
      cases same
      refine objects id client found value ?_
      rw [pending]
      exact List.mem_cons_of_mem _ member

/-- The command that a call returned. -/
def Event.command? (event : Event Output) : Option (Command Output) :=
  match event.call, event.outcome with
  | .tryRecv, .ok reply => reply
  | _, _ => none

/-- The commands that the receiver took, in order. -/
def taken (log : List (Event Output)) : List (Command Output) := log.filterMap Event.command?

theorem taken_snoc (log : List (Event Output)) (event : Event Output) :
    taken (log ++ [event]) = taken log ++ event.command?.toList := by
  unfold taken
  rw [List.filterMap_append, List.filterMap_cons]
  cases event.command? <;> rfl

/-- Every command that is returned asks for an operation of the bridge. -/
theorem Effect.asks (effect : Effect event before after) (objects : Objects before)
    {command : Command Output} (returned : event.command? = some command) :
    ∃ op, Server.operation? command = some op := by
  cases effect with
  | @refused call _ _ _ => cases call <;> cases returned
  | connected | accepted | unknown | leaving | shut | idle => cases returned
  | finished | dropped | introduced =>
      cases returned
      exact ⟨_, rfl⟩
  | @delivered id value messages client _ _ _ _ found _ _ pending _ =>
      cases returned
      have waits : value ∈ client.messages := by
        rw [pending]
        exact List.mem_cons_self
      obtain ⟨fields, rfl⟩ := objects id client found value waits
      exact ⟨_, rfl⟩

end Channel

end Incoming

namespace Server

open Incoming

/-! ### The worker -/

/-- Whether a command asks for the operation. -/
def isAsked : Operation → Bool
  | .tick => false
  | _ => true

variable {env : Environment} {access : Access} {timeout : Duration} {capacity : Nat}
  {w after : World} {unserved : Option (Command Output)}

/-- What holds in every world. The command `unserved` was taken and is still to be served. -/
structure Traced (env : Environment) (access : Access) (timeout : Duration) (capacity : Nat)
    (unserved : Option (Command Output)) (w : World) : Prop where
  regular : Regular capacity w.calls w.channel
  objects : Objects w.channel
  machine : w.machine = w.operations.foldl (Machine.next env) (.new access timeout)
  served : (taken w.calls).filterMap operation? =
    w.operations.filter isAsked ++ (unserved.bind operation?).toList
  reached : (∀ site, w.worker ≠ .ended (.panicked site)) →
    Reachable env access timeout w.machine ∧
      w.machine.log.filterMap Entry.connected? = w.operations.filterMap Operation.connects?

theorem World.call_takes (w : World) (sent : Incoming.Call Output) :
    Takes ⟨sent, (w.call sent).1⟩ w.channel (w.call sent).2.channel := rfl

/-- A call on the channel. What it returns is still to be served. -/
theorem Traced.call (traced : Traced env access timeout capacity none w)
    {sent : Incoming.Call Output}
    (given : ∀ id value, sent = .message id value → ∃ fields, value = Json.obj fields) :
    Traced env access timeout capacity (Event.command? ⟨sent, (w.call sent).1⟩)
      (w.call sent).2 := by
  have effect := (w.call_takes sent).effect traced.regular.coherent
  refine ⟨traced.regular.step (w.call_takes sent), effect.objects traced.objects given,
    traced.machine, ?_, traced.reached⟩
  show (taken (w.calls ++ [⟨sent, (w.call sent).1⟩])).filterMap operation? =
    w.operations.filter isAsked ++ _
  rw [taken_snoc, List.filterMap_append, traced.served, Option.bind_none, Option.toList_none,
    List.append_nil]
  cases Event.command? ⟨sent, (w.call sent).1⟩ with
  | none => rfl
  | some command =>
      rw [Option.toList_some, Option.bind_some, List.filterMap_cons]
      cases operation? command <;> rfl

/-- A call that is not the worker's. -/
theorem Traced.sent (traced : Traced env access timeout capacity none w)
    {sent : Incoming.Call Output}
    (given : ∀ id value, sent = .message id value → ∃ fields, value = Json.obj fields)
    (other : sent ≠ .tryRecv) : Traced env access timeout capacity none (w.call sent).2 := by
  have called := traced.call given
  have none : Event.command? ⟨sent, (w.call sent).1⟩ = none := by
    cases sent <;> first | rfl | exact absurd rfl other
  rwa [none] at called

/-- Nothing that was traced changes. -/
theorem Traced.keep (traced : Traced env access timeout capacity unserved w)
    (channel : after.channel = w.channel) (calls : after.calls = w.calls)
    (machine : after.machine = w.machine) (operations : after.operations = w.operations)
    (worker : ∀ site, w.worker = .ended (.panicked site) → after.worker = .ended (.panicked site)) :
    Traced env access timeout capacity unserved after := by
  refine ⟨?_, ?_, ?_, ?_, fun running => ?_⟩
  · rw [calls, channel]
    exact traced.regular
  · rw [channel]
    exact traced.objects
  · rw [machine, operations]
    exact traced.machine
  · rw [calls, operations]
    exact traced.served
  · rw [machine, operations]
    exact traced.reached fun site ended => running site (worker site ended)

/-- The worker ends. -/
theorem Traced.finish (traced : Traced env access timeout capacity none w) (ending : Ending)
    (running : (∀ site, ending ≠ .panicked site) → ∀ site, w.worker ≠ .ended (.panicked site)) :
    Traced env access timeout capacity none (w.finish ending) := by
  have shut : Traced env access timeout capacity none (w.call .shutdown).2 := traced.sent nofun nofun
  refine ⟨shut.regular, shut.objects, shut.machine, shut.served, fun alive => ?_⟩
  refine traced.reached (running fun site same => alive site ?_)
  rw [← same]
  rfl

/-- The bridge performs an operation. -/
theorem Traced.perform (traced : Traced env access timeout capacity unserved w) {op : Operation}
    {worker : Worker} (running : ∀ site, w.worker ≠ .ended (.panicked site))
    (asked : (unserved.bind operation?).toList = [op].filter isAsked)
    (ends : (Rosbridge.perform env op w.machine).1.IsPanic →
      ∃ site, worker = .ended (.panicked site)) :
    Traced env access timeout capacity none
      { w with machine := w.machine.next env op, operations := w.operations ++ [op], worker } := by
  obtain ⟨reached, connects⟩ := traced.reached running
  refine ⟨traced.regular, traced.objects, ?_, ?_, fun alive => ?_⟩
  · rw [List.foldl_append, ← traced.machine]
    rfl
  · rw [traced.served, List.filter_append, asked]
    exact (List.append_nil _).symm
  · have returns : ¬ (Rosbridge.perform env op w.machine).1.IsPanic := by
      intro panics
      obtain ⟨site, same⟩ := ends panics
      exact alive site same
    have shaped := Onward.shaped reached (shaped_new access timeout)
    refine ⟨reached.step op returns trivial, ?_⟩
    rw [(performed_next op shaped returns).connects shaped, connects, List.filterMap_append,
      List.filterMap_cons]
    cases op <;> rfl

theorem serve_operation {command : Command Output} {op : Operation}
    (asked : operation? command = some op) : serve env command = Rosbridge.perform env op := by
  cases command with
  | message id value =>
      cases value with
      | obj fields =>
          cases asked
          rfl
      | _ => cases asked
  | _ =>
      cases asked
      rfl

theorem Traced.serve {command : Command Output} (index : Nat)
    (traced : Traced env access timeout capacity (some command) w)
    (running : ∀ site, w.worker ≠ .ended (.panicked site))
    (asks : ∃ op, operation? command = some op) :
    Traced env access timeout capacity none (w.serve env index command) := by
  obtain ⟨op, asked⟩ := asks
  have other : [op].filter isAsked = [op] := by
    cases command with
    | message id value =>
        cases value <;> cases asked
        rfl
    | _ =>
        cases asked
        rfl
  have performed (worker : Worker) (ends : (Rosbridge.perform env op w.machine).1.IsPanic →
      ∃ site, worker = .ended (.panicked site)) :
      Traced env access timeout capacity none
        { w with machine := w.machine.next env op, operations := w.operations ++ [op], worker } :=
    traced.perform running (by rw [other, Option.bind_some, asked]; rfl) ends
  unfold World.serve
  rw [serve_operation asked, asked]
  unfold Machine.next at performed
  rcases ran : Rosbridge.perform env op w.machine with ⟨outcome, machine⟩
  rw [ran] at performed
  cases outcome with
  | panic site =>
      have ended := performed (.ended (.panicked site)) fun _ => ⟨site, rfl⟩
      exact ended.finish (.panicked site) fun not => absurd rfl (not site)
  | ok value =>
      cases command with
      | shutdown =>
          exact (performed w.worker nofun).finish .stopped fun _ => running
      | _ => exact performed _ nofun
  | error cause =>
      cases command with
      | shutdown =>
          exact (performed w.worker nofun).finish .stopped fun _ => running
      | _ => exact performed _ nofun

theorem Traced.receive (index : Nat) (traced : Traced env access timeout capacity none w)
    (running : ∀ site, w.worker ≠ .ended (.panicked site)) :
    Traced env access timeout capacity none (w.receive env index) := by
  have woken : Traced env access timeout capacity none
      (if index = 63 then { w with guard := true } else w) := by
    split
    · exact traced.keep rfl rfl rfl rfl fun _ => id
    · exact traced
  have still : ∀ site, (if index = 63 then { w with guard := true } else w).worker ≠
      .ended (.panicked site) := by
    split <;> exact running
  unfold World.receive
  generalize (if index = 63 then { w with guard := true } else w) = v at woken still
  have called : Traced env access timeout capacity
      (Event.command? ⟨.tryRecv, (v.call .tryRecv).1⟩) (v.call .tryRecv).2 := woken.call nofun
  have asks {command : Command Output}
      (returned : Event.command? ⟨.tryRecv, (v.call .tryRecv).1⟩ = some command) :
      ∃ op, operation? command = some op :=
    ((v.call_takes .tryRecv).effect woken.regular.coherent).asks woken.objects returned
  have alive : ∀ site, (v.call .tryRecv).2.worker ≠ .ended (.panicked site) := still
  dsimp only
  generalize v.call .tryRecv = ended at called asks alive
  obtain ⟨outcome, after⟩ := ended
  cases outcome with
  | ok reply =>
      cases reply with
      | none => exact called.keep rfl rfl rfl rfl fun site ended => absurd ended (alive site)
      | some command => exact called.serve index alive (asks rfl)
  | error cause => exact called.finish (.failed cause) fun _ => alive
  | panic site => exact called.finish (.panicked site) fun not => absurd rfl (not site)

theorem Traced.tick (traced : Traced env access timeout capacity none w)
    (running : ∀ site, w.worker ≠ .ended (.panicked site)) :
    Traced env access timeout capacity none (w.tick env) := by
  have performed (worker : Worker) (ends : (Rosbridge.perform env .tick w.machine).1.IsPanic →
      ∃ site, worker = .ended (.panicked site)) :
      Traced env access timeout capacity none
        { w with
          machine := w.machine.next env .tick
          operations := w.operations ++ [Operation.tick]
          worker } := traced.perform running rfl ends
  unfold World.tick
  unfold Machine.next at performed
  rcases ran : Rosbridge.perform env .tick w.machine with ⟨outcome, machine⟩
  rw [ran] at performed
  cases outcome with
  | ok value => exact performed _ nofun
  | error cause =>
      exact (performed w.worker nofun).finish (.failed cause) fun _ => running
  | panic site =>
      have ended := performed (.ended (.panicked site)) fun _ => ⟨site, rfl⟩
      exact ended.finish (.panicked site) fun not => absurd rfl (not site)

/-! ### Steps -/

theorem Traced.setTask (traced : Traced env access timeout capacity unserved w) (id : Connection)
    (task : Task) : Traced env access timeout capacity unserved (w.setTask id task) :=
  traced.keep rfl rfl rfl rfl fun _ ended => ended

theorem Traced.trySend (traced : Traced env access timeout capacity none w) (id : Connection)
    {sent : Incoming.Call Output} (accepts refuses : Stage)
    (given : ∀ id value, sent = .message id value → ∃ fields, value = Json.obj fields)
    (other : sent ≠ .tryRecv) :
    Traced env access timeout capacity none (w.trySend id sent accepts refuses) := by
  have called := traced.sent given other
  unfold World.trySend
  generalize w.call sent = ended at called
  obtain ⟨outcome, after⟩ := ended
  cases outcome with
  | ok reply => exact called.setTask id _
  | error cause => exact called.setTask id _
  | panic site => exact called.setTask id _

theorem Happening.sends_object {happening : Happening} {id : Connection}
    {call : Incoming.Call Output} {stage accepts refuses : Stage}
    (sends : happening.sends = some (id, call, stage, accepts, refuses)) :
    (∀ other value, call = .message other value → ∃ fields, value = Json.obj fields) ∧
      call ≠ .tryRecv := by
  cases happening <;> cases sends
  case said fields =>
    refine ⟨fun other value same => ?_, nofun⟩
    cases same
    exact ⟨fields, rfl⟩
  all_goals exact ⟨nofun, nofun⟩

theorem Traced.step {happening : Happening} (traced : Traced env access timeout capacity none w)
    (steps : Steps env happening w after) : Traced env access timeout capacity none after := by
  have alive {worker : Worker} (stands : w.worker = worker) (running : worker.isEnded = false) :
      ∀ site, w.worker ≠ .ended (.panicked site) := by
    intro site ended
    rw [stands] at ended
    rw [ended] at running
    cases running
  cases steps.turn with
  | accepted | refused | woke | wokeWorker | joined =>
      exact traced.keep rfl rfl rfl rfl fun _ => id
  | sent sends =>
      have object := Happening.sends_object sends
      exact traced.trySend _ _ _ object.1 object.2
  | moved => exact traced.setTask _ _
  | stopped =>
      have shut : Traced env access timeout capacity none (w.call .shutdown).2 :=
        traced.sent nofun nofun
      exact shut.keep rfl rfl rfl rfl fun _ => id
  | checked now stands | resumed stands =>
      exact traced.keep rfl rfl rfl rfl fun site ended => absurd ended (alive stands rfl site)
  | interrupted cause stands => exact traced.finish _ fun _ => alive stands rfl
  | received stands => exact traced.receive _ (alive stands rfl)
  | ticked stands => exact traced.tick (alive stands rfl)

theorem Traced.start {channel : State Output} (opened : Incoming.channel capacity = .ok channel) :
    Traced env access timeout capacity none (World.start channel access timeout) := by
  obtain ⟨-, -, -, empty⟩ := Coherent.opened opened
  refine ⟨Incoming.regular opened (.nil channel), fun id client found => ?_, rfl, rfl, fun _ => ⟨.here, rfl⟩⟩
  have vacant : channel.clients.lookup id = some client := found
  rw [empty] at vacant
  cases vacant

end Server

end Rosbridge
