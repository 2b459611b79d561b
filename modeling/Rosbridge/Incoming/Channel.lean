import Rosbridge.Bridge.State
import Rosbridge.Foundation.Trail

/-!
Per-connection command queues, served one command at a time (`incoming.rs`).

Owns: the channel's state, the operations of `Sender` and `Receiver`, and the
calls and events of a run.

Every operation holds the mutex from beginning to end, so the interleavings of any
number of senders with the receiver are the sequences of calls.
-/

set_option autoImplicit false

namespace Rosbridge.Incoming

open Foundation

/-- What the receiver hands to the worker. `ω` is the handle of an outgoing channel. -/
inductive Command (ω : Type) where
  | connect (id : Connection) (output : ω)
  | message (id : Connection) (value : Json)
  | disconnect (id : Connection)
  | shutdown

/-- The connection a command belongs to. -/
def Command.connection? {ω : Type} : Command ω → Option Connection
  | .connect id _ => some id
  | .message id _ => some id
  | .disconnect id => some id
  | .shutdown => none

structure Client (ω : Type) where
  output : Option ω
  messages : List Json
  disconnect : Bool
  scheduled : Bool

structure State (ω : Type) where
  clients : Table Connection (Client ω)
  ready : List Connection
  capacity : Nat
  closed : Bool

/-- One critical section. -/
abbrev Locked (ω : Type) : Type → Type := Program (State ω) Error

variable {ω : Type}

/-- A new channel. -/
def channel (capacity : Nat) : Outcome Error (State ω) :=
  if 0 < capacity then .ok ⟨∅, [], capacity, false⟩
  else .panic "assertion failed: capacity > 0"

theorem channel_pos {capacity : Nat} (positive : 0 < capacity) :
    channel capacity = .ok (⟨∅, [], capacity, false⟩ : State ω) :=
  if_pos positive

/-- Change the client `id` in place. -/
def setClient (id : Connection) (change : Client ω → Client ω) : Locked ω Unit :=
  Program.modify fun s => { s with clients := s.clients.alter id change }

/-- `State::schedule`. -/
def schedule (id : Connection) : Locked ω Unit := do
  let s ← Program.get
  let client ← Program.unwrap "clients" (s.clients.lookup id)
  Program.whenever (!client.scheduled) do
    setClient id fun client => { client with scheduled := true }
    Program.modify fun s => { s with ready := s.ready ++ [id] }

/-! ### Senders -/

def connect (id : Connection) (output : ω) : Locked ω Unit := do
  let s ← Program.get
  Program.ensure (!s.closed) ⟨"ROS command receiver closed"⟩
  Program.ensure (s.clients.lookup id).isNone ⟨"duplicate connection"⟩
  Program.modify fun s => { s with clients := s.clients.insert id ⟨some output, [], false, false⟩ }
  schedule id

def message (id : Connection) (value : Json) : Locked ω Unit := do
  let s ← Program.get
  Program.ensure (!s.closed) ⟨"ROS command receiver closed"⟩
  match s.clients.lookup id with
  | none => Program.fail ⟨"connection is not registered"⟩
  | some client => do
      Program.ensure (!client.disconnect) ⟨"connection is closing"⟩
      Program.ensure (decide (client.messages.length < s.capacity))
        ⟨"client incoming queue full"⟩
      setClient id fun client => { client with messages := client.messages ++ [value] }
      schedule id

def disconnect (id : Connection) : Locked ω Unit := do
  let s ← Program.get
  match s.clients.lookup id with
  | none => pure ()
  | some _ => do
      setClient id fun client => { client with messages := [], disconnect := true }
      schedule id

/-- `Sender::shutdown`, and what dropping the `Receiver` does. -/
def shutdown : Locked ω Unit :=
  Program.modify fun s => { s with clients := ∅, ready := [], closed := true }

/-! ### The receiver -/

def hasPending (s : State ω) : Bool := s.closed || !s.ready.isEmpty

/-- Take the next command of a client that is not disconnecting. -/
def takeCommand (id : Connection) (client : Client ω) : Locked ω (Command ω) :=
  match client.output with
  | some output => do
      setClient id fun client => { client with output := none }
      pure (.connect id output)
  | none =>
      match client.messages with
      | value :: rest => do
          setClient id fun client => { client with messages := rest }
          pure (.message id value)
      | [] => Program.panic "messages"

def tryRecv : Locked ω (Option (Command ω)) := do
  let s ← Program.get
  if s.closed then pure (some .shutdown)
  else
    match s.ready with
    | [] => pure none
    | id :: rest => do
        Program.modify fun s => { s with ready := rest }
        let client ← Program.unwrap "clients" (s.clients.lookup id)
        setClient id fun client => { client with scheduled := false }
        if client.disconnect then do
          Program.modify fun s => { s with clients := s.clients.erase id }
          pure (some (.disconnect id))
        else do
          let command ← takeCommand id client
          let s ← Program.get
          let client ← Program.unwrap "clients" (s.clients.lookup id)
          Program.whenever (!client.messages.isEmpty) (schedule id)
          pure (some command)

/-! ### Runs -/

/-- A call on either end of the channel. -/
inductive Call (ω : Type) where
  | connect (id : Connection) (output : ω)
  | message (id : Connection) (value : Json)
  | disconnect (id : Connection)
  | shutdown
  | tryRecv

/-- Make one call. Only `tryRecv` returns a value. -/
def perform : Call ω → Locked ω (Option (Command ω))
  | .connect id output => do connect id output; pure none
  | .message id value => do message id value; pure none
  | .disconnect id => do disconnect id; pure none
  | .shutdown => do shutdown; pure none
  | .tryRecv => tryRecv

/-- A call and how it ended. -/
structure Event (ω : Type) where
  call : Call ω
  outcome : Outcome Error (Option (Command ω))

/-- The channel makes the call of `event`, which ends as `event` says. -/
def Takes (event : Event ω) (before after : State ω) : Prop :=
  perform event.call before = (event.outcome, after)

/-- Make calls one after another. -/
def performAll : List (Call ω) → State ω → List (Event ω) × State ω
  | [], s => ([], s)
  | call :: calls, s =>
      let (outcome, after) := perform call s
      let (events, last) := performAll calls after
      (⟨call, outcome⟩ :: events, last)

theorem performAll_run (calls : List (Call ω)) (s : State ω) :
    Trail Takes (performAll calls s).1 s (performAll calls s).2 := by
  induction calls generalizing s with
  | nil => exact .nil s
  | cons call calls inductionHypothesis =>
      exact .cons (Prod.ext rfl rfl) (inductionHypothesis (perform call s).2)

theorem mem_performAll {calls : List (Call ω)} {s : State ω} {event : Event ω}
    (member : event ∈ (performAll calls s).1) : event.call ∈ calls := by
  induction calls generalizing s with
  | nil => cases member
  | cons call calls inductionHypothesis =>
      rcases List.mem_cons.mp member with rfl | later
      · exact List.mem_cons_self
      · exact List.mem_cons_of_mem _ (inductionHypothesis later)

end Rosbridge.Incoming
