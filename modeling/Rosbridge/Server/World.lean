import Rosbridge.Bridge.Dispatch
import Rosbridge.Incoming.Channel

/-!
The server: one worker thread that owns the bridge, a task for each connection, and the accept
loop (`server.rs`, with `Wake` of `ros/wait.rs`).

Owns: the state of all of them together; everything that one of them may do next, whatever the
others do; and the runs.

A task of a connection and the accept loop reach the worker through the incoming channel and the
guard condition only. Sockets, signals and the clock decide which step comes next.
-/

set_option autoImplicit false

namespace Rosbridge.Server

open Foundation Incoming

/-! ### State -/

/-- How the worker thread ended. -/
inductive Ending where
  | stopped
  | failed (cause : Error)
  | panicked (site : String)

/-- Where the worker thread stands in its loop. -/
inductive Worker where
  | checking
  | waiting (timeout : Duration)
  | draining (index : Nat)
  | ticking
  | ended (ending : Ending)

def Worker.isEnded : Worker → Bool
  | ended _ => true
  | _ => false

/-- Where the task of a connection stands. The guard of its registration exists from `session` to
`releasing`. -/
inductive Stage where
  | handshaking
  | session
  | closing
  | leaving
  | releasing
  | done
deriving DecidableEq

/-- The task of a connection. It is `waking` while a command is in the channel and the worker is
still to be woken. -/
structure Task where
  stage : Stage
  waking : Bool
deriving DecidableEq

/-- Where the accept loop stands. -/
inductive Main where
  | serving
  | waking
  | waiting
  | ended
deriving DecidableEq

/-- Everything together. `guard` is the guard condition of the worker's wait set. `calls` and
`operations` are the history of the channel and of the bridge. -/
structure World where
  channel : State Output
  calls : List (Incoming.Event Output)
  machine : Machine
  operations : List Operation
  worker : Worker
  guard : Bool
  tasks : Table Connection Task
  next : Nat
  main : Main

/-- The accept loop begins, and the worker is ready. -/
def World.start (channel : State Output) (access : Access) (timeout : Duration) : World where
  channel
  calls := []
  machine := .new access timeout
  operations := []
  worker := .checking
  guard := false
  tasks := ∅
  next := 0
  main := .serving

/-! ### The parts of a step -/

namespace World

variable (w : World)

/-- One critical section of the channel. -/
def call (call : Incoming.Call Output) : Outcome Error (Option (Command Output)) × World :=
  let (outcome, channel) := Incoming.perform call w.channel
  (outcome, { w with channel, calls := w.calls ++ [⟨call, outcome⟩] })

def setTask (id : Connection) (task : Task) : World := { w with tasks := w.tasks.insert id task }

/-- `Sender::try_send` by the task of a connection: the worker is woken only if the channel took
the command. -/
def trySend (id : Connection) (sent : Incoming.Call Output) (taken refused : Stage) : World :=
  match w.call sent with
  | (.ok _, after) => after.setTask id ⟨taken, true⟩
  | (_, after) => after.setTask id ⟨refused, false⟩

/-- The worker thread ends, and its receiver is dropped. -/
def finish (ending : Ending) : World := { (w.call .shutdown).2 with worker := .ended ending }

end World

/-- The operation that a command asks the bridge for. -/
def operation? : Command Output → Option Operation
  | .connect id _ => some (.connect id)
  | .message id (.obj fields) => some (.command id fields)
  | .message _ _ => none
  | .disconnect id => some (.disconnect id)
  | .shutdown => some .shutdown

section Worker

variable (env : Environment)

/-- What the worker does with a command. -/
def serve : Command Output → Step Unit
  | .connect id _ => connect id
  | .message id value => command env id value
  | .disconnect id => disconnect env id
  | .shutdown => shutdown env

/-- The worker serves a command as the `index`-th of its round. -/
def World.serve (w : World) (index : Nat) (command : Command Output) : World :=
  let (outcome, machine) := Server.serve env command w.machine
  let served := { w with machine, operations := w.operations ++ (operation? command).toList }
  match outcome, command with
  | .panic site, _ => served.finish (.panicked site)
  | _, .shutdown => served.finish .stopped
  | _, _ => { served with worker := if index + 1 < 64 then .draining (index + 1) else .ticking }

/-- The worker takes the next command of its round. The last one of a full round leaves the guard
triggered, so the next wait returns at once. -/
def World.receive (w : World) (index : Nat) : World :=
  let w := if index = 63 then { w with guard := true } else w
  match w.call .tryRecv with
  | (.ok (some command), after) => after.serve env index command
  | (.ok none, after) => { after with worker := .ticking }
  | (.error cause, after) => after.finish (.failed cause)
  | (.panic site, after) => after.finish (.panicked site)

/-- The worker's tick. -/
def World.tick (w : World) : World :=
  let (outcome, machine) := Rosbridge.perform env Operation.tick w.machine
  let ticked := { w with machine, operations := w.operations ++ [Operation.tick] }
  match outcome with
  | .ok _ => { ticked with worker := .checking }
  | .error cause => ticked.finish (.failed cause)
  | .panic site => ticked.finish (.panicked site)

/-- How long the worker waits, at this reading of its clock. -/
def World.pause (w : World) (now : Instant) : Duration :=
  if hasPending w.channel then 0
  else
    match (nextWakeup { env with instant := fun _ => now } w.machine).1 with
    | .ok wait => wait
    | _ => 0

end Worker

/-! ### Steps -/

/-- Something that happens next. -/
inductive Happening where
  | accepted
  | refused
  | upgraded (id : Connection)
  | rejected (id : Connection)
  | woke (id : Connection)
  | said (id : Connection) (fields : Object)
  | finished (id : Connection)
  | closed (id : Connection)
  | left (id : Connection)
  | released (id : Connection)
  | aborted (id : Connection)
  | stopped
  | wokeWorker
  | joined
  | checked (now : Instant)
  | resumed
  | interrupted (cause : Error)
  | received
  | ticked

variable (env : Environment)

/-- The task of a connection takes a step from this stage. -/
def World.advance (w : World) (id : Connection) (stage : Stage) (after : World) : Option World :=
  if w.tasks.lookup id = some ⟨stage, false⟩ then some after else none

/-- The world after something happened, if it can happen. -/
def World.after? (w : World) : Happening → Option World
  | .accepted =>
      if w.main = .serving then
        some { w with next := w.next + 1, tasks := w.tasks.insert (w.next + 1) ⟨.handshaking, false⟩ }
      else none
  -- An error of the listener ends the accept loop, and so every task, but not the worker.
  | .refused => if w.main = .serving then some { w with main := .ended } else none
  | .upgraded id =>
      w.advance id .handshaking (w.trySend id (.connect id ⟨id⟩) .session .session)
  | .rejected id => w.advance id .handshaking (w.setTask id ⟨.done, false⟩)
  | .woke id =>
      match w.tasks.lookup id with
      | some ⟨stage, true⟩ => some { w.setTask id ⟨stage, false⟩ with guard := true }
      | _ => none
  -- A command that the channel refuses ends the session.
  | .said id fields =>
      w.advance id .session (w.trySend id (.message id (.obj fields)) .session .closing)
  | .finished id => w.advance id .session (w.setTask id ⟨.closing, false⟩)
  | .closed id => w.advance id .closing (w.setTask id ⟨.leaving, false⟩)
  | .left id => w.advance id .leaving (w.trySend id (.disconnect id) .releasing .releasing)
  | .released id => w.advance id .releasing (w.trySend id (.disconnect id) .done .done)
  | .aborted id =>
      if w.main = .waiting ∨ w.main = .ended then
        match w.tasks.lookup id with
        | some ⟨.handshaking, false⟩ => some (w.setTask id ⟨.done, false⟩)
        | some ⟨.session, false⟩ | some ⟨.closing, false⟩ =>
            some (w.setTask id ⟨.releasing, false⟩)
        | _ => none
      else none
  | .stopped =>
      if w.main = .serving then some { (w.call .shutdown).2 with main := .waking } else none
  | .wokeWorker =>
      if w.main = .waking then some { w with main := .waiting, guard := true } else none
  | .joined =>
      if w.main = .waiting ∧ w.worker.isEnded ∧
          ∀ entry ∈ w.tasks.entries, entry.2 = ⟨.done, false⟩ then
        some { w with main := .ended }
      else none
  | .checked now =>
      match w.worker with
      | .checking => some { w with worker := .waiting (w.pause env now) }
      | _ => none
  | .resumed =>
      match w.worker with
      | .waiting _ => some { w with worker := .draining 0, guard := false }
      | _ => none
  | .interrupted cause =>
      match w.worker with
      | .waiting _ => some (w.finish (.failed cause))
      | _ => none
  | .received =>
      match w.worker with
      | .draining index => some (w.receive env index)
      | _ => none
  | .ticked =>
      match w.worker with
      | .ticking => some (w.tick env)
      | _ => none

/-- One step of the server. -/
def Steps (happening : Happening) (before after : World) : Prop :=
  before.after? env happening = some after

/-- The call that a task makes on the channel, the stage it makes it at, and the stages that follow
if the channel takes it or not. -/
def Happening.sends : Happening → Option (Connection × Incoming.Call Output × Stage × Stage × Stage)
  | .upgraded id => some (id, .connect id ⟨id⟩, .handshaking, .session, .session)
  | .said id fields => some (id, .message id (.obj fields), .session, .session, .closing)
  | .left id => some (id, .disconnect id, .leaving, .releasing, .releasing)
  | .released id => some (id, .disconnect id, .releasing, .done, .done)
  | _ => none

/-- A task goes to its next stage and tells nobody. -/
inductive Happening.Moves : Happening → Connection → Stage → Stage → Prop where
  | rejected {id : Connection} : Moves (.rejected id) id .handshaking .done
  | finished {id : Connection} : Moves (.finished id) id .session .closing
  | closed {id : Connection} : Moves (.closed id) id .closing .leaving
  | aborted {id : Connection} {stage next : Stage}
      (drops : stage = .handshaking ∧ next = .done ∨
        (stage = .session ∨ stage = .closing) ∧ next = .releasing) :
      Moves (.aborted id) id stage next

/-- What a step can do. -/
inductive Turn (env : Environment) : Happening → World → World → Prop where
  | accepted {w : World} (serving : w.main = .serving) : Turn env .accepted w
      { w with next := w.next + 1, tasks := w.tasks.insert (w.next + 1) ⟨.handshaking, false⟩ }
  | refused {w : World} (serving : w.main = .serving) : Turn env .refused w { w with main := .ended }
  | sent {w : World} {happening : Happening} {id : Connection} {call : Incoming.Call Output}
      {stage taken refused : Stage} (sends : happening.sends = some (id, call, stage, taken, refused))
      (stands : w.tasks.lookup id = some ⟨stage, false⟩) :
      Turn env happening w (w.trySend id call taken refused)
  | moved {w : World} {happening : Happening} {id : Connection} {stage next : Stage}
      (moves : happening.Moves id stage next) (stands : w.tasks.lookup id = some ⟨stage, false⟩) :
      Turn env happening w (w.setTask id ⟨next, false⟩)
  | woke {w : World} {id : Connection} {stage : Stage}
      (stands : w.tasks.lookup id = some ⟨stage, true⟩) :
      Turn env (.woke id) w { w.setTask id ⟨stage, false⟩ with guard := true }
  | stopped {w : World} (serving : w.main = .serving) :
      Turn env .stopped w { (w.call .shutdown).2 with main := .waking }
  | wokeWorker {w : World} (waking : w.main = .waking) :
      Turn env .wokeWorker w { w with main := .waiting, guard := true }
  | joined {w : World} (waiting : w.main = .waiting) (ended : w.worker.isEnded = true)
      (done : ∀ entry ∈ w.tasks.entries, entry.2 = ⟨.done, false⟩) :
      Turn env .joined w { w with main := .ended }
  | checked {w : World} (now : Instant) (stands : w.worker = .checking) :
      Turn env (.checked now) w { w with worker := .waiting (w.pause env now) }
  | resumed {w : World} {wait : Duration} (stands : w.worker = .waiting wait) :
      Turn env .resumed w { w with worker := .draining 0, guard := false }
  | interrupted {w : World} {wait : Duration} (cause : Error) (stands : w.worker = .waiting wait) :
      Turn env (.interrupted cause) w (w.finish (.failed cause))
  | received {w : World} {index : Nat} (stands : w.worker = .draining index) :
      Turn env .received w (w.receive env index)
  | ticked {w : World} (stands : w.worker = .ticking) : Turn env .ticked w (w.tick env)

theorem Steps.turn {happening : Happening} {w after : World} (steps : Steps env happening w after) :
    Turn env happening w after := by
  have advances {id : Connection} {stage : Stage} {next : World}
      (moved : w.advance id stage next = some after) :
      w.tasks.lookup id = some ⟨stage, false⟩ ∧ next = after := by
    unfold World.advance at moved
    split at moved
    · exact ⟨‹_›, Option.some.inj moved⟩
    · cases moved
  unfold Steps World.after? at steps
  cases happening with
  | accepted | refused | woke | stopped | wokeWorker | checked | resumed | interrupted | received
  | ticked =>
      dsimp only at steps
      split at steps
      · cases steps
        constructor
        assumption
      · cases steps
  | upgraded id | said id fields | left id | released id =>
      obtain ⟨stands, rfl⟩ := advances steps
      exact .sent rfl stands
  | rejected id =>
      obtain ⟨stands, rfl⟩ := advances steps
      exact .moved .rejected stands
  | finished id =>
      obtain ⟨stands, rfl⟩ := advances steps
      exact .moved .finished stands
  | closed id =>
      obtain ⟨stands, rfl⟩ := advances steps
      exact .moved .closed stands
  | aborted id =>
      dsimp only at steps
      split at steps
      · split at steps
        · cases steps
          exact .moved (.aborted (.inl ⟨rfl, rfl⟩)) ‹_›
        · cases steps
          exact .moved (.aborted (.inr ⟨.inl rfl, rfl⟩)) ‹_›
        · cases steps
          exact .moved (.aborted (.inr ⟨.inr rfl, rfl⟩)) ‹_›
        · cases steps
      · cases steps
  | joined =>
      dsimp only at steps
      split at steps
      · next holds =>
          cases steps
          exact .joined holds.1 holds.2.1 holds.2.2
      · cases steps

/-- The worlds that a server with this channel can come to. -/
def Reaches (channel : State Output) (access : Access) (timeout : Duration)
    (happenings : List Happening) (w : World) : Prop :=
  Trail (Steps env) happenings (World.start channel access timeout) w

/-- One happening after the other. -/
def World.run? (w : World) (happenings : List Happening) : Option World :=
  happenings.foldlM (fun w happening => w.after? env happening) w

theorem Reaches.of_run {env : Environment} {channel : State Output} {access : Access}
    {timeout : Duration} {happenings : List Happening} {w : World}
    (ran : (World.start channel access timeout).run? env happenings = some w) :
    Reaches env channel access timeout happenings w := Trail.of_run ran

end Rosbridge.Server
