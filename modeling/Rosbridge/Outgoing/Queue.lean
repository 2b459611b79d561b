import Rosbridge.Bridge.State
import Rosbridge.Foundation.Trail

/-!
Bounded per-client send queues (`outgoing.rs`).

Owns: the state behind the mutex, the critical sections of `Output` and
`Receiver`, and the runs of their interleavings.

Each critical section is one program; the notification that follows it is part of
it. Encoding happens outside the lock, so its result is the label of a step. The
encoding pool only delays steps. A dropped `recv` future has no effect of its own:
the only code that drops it drops the `Receiver` next.
-/

set_option autoImplicit false

namespace Rosbridge.Outgoing

open Foundation

def controlCapacity : Nat := 16

/-- The sizes of frames and encoding requests. `φ` is the type of WebSocket messages
and `ρ` the type of encoding requests. -/
structure Sizes (φ ρ : Type) where
  len : φ → Nat
  retainedBytes : ρ → Nat

inductive Payload (φ ρ : Type) where
  | frames (frames : List φ)
  | encode (request : ρ)

structure Batch (φ ρ : Type) where
  connection : Connection
  topic : Option String
  payload : Payload φ ρ
  bytes : Nat

structure State (φ ρ : Type) where
  topics : List (Batch φ ρ)
  control : List (Batch φ ρ)
  topicBytes : Nat
  controlBytes : Nat
  capacity : Nat
  byteLimit : Nat
  senderClosed : Bool
  receiverClosed : Bool
  closeReason : Option String
  dropped : Nat

/-- The state, and whether each `Notify` holds a permit. -/
structure Shared (φ ρ : Type) where
  state : State φ ρ
  ready : Bool
  closed : Bool

inductive SendError where
  | closed
  | controlFull
deriving DecidableEq

inductive TryRecvError where
  | empty
  | disconnected
deriving DecidableEq

variable {φ ρ : Type}

def framesLen (sizes : Sizes φ ρ) (frames : List φ) : Nat := (frames.map sizes.len).sum

def Payload.bytes (sizes : Sizes φ ρ) : Payload φ ρ → Nat
  | .frames content => framesLen sizes content
  | .encode request => sizes.retainedBytes request

/-- The total recorded size of a lane. -/
def laneBytes (lane : List (Batch φ ρ)) : Nat := (lane.map Batch.bytes).sum

def Batch.ofTopic (topic : String) (batch : Batch φ ρ) : Bool := batch.topic = some topic

def State.isClosed (s : State φ ρ) : Bool := s.receiverClosed || s.senderClosed

/-- A new channel. -/
def channelWithPool (capacity byteLimit : Nat) : Outcome Error (Shared φ ρ) :=
  if 0 < capacity ∧ 0 < byteLimit then
    .ok ⟨⟨[], [], 0, 0, capacity, byteLimit, false, false, none, 0⟩, false, false⟩
  else .panic "assertion failed: capacity > 0 && byte_limit > 0"

/-! ### Critical sections -/

section Sections

variable {ε : Type}

def readState : Program (Shared φ ρ) ε (State φ ρ) := fun s => (.ok s.state, s)

def modifyState (change : State φ ρ → State φ ρ) : Program (Shared φ ρ) ε Unit :=
  Program.modify fun s => { s with state := change s.state }

/-- `ready.notify_one()`. -/
def notifyReady : Program (Shared φ ρ) ε Unit := Program.modify fun s => { s with ready := true }

/-- `closed.notify_one()`. -/
def notifyClosed : Program (Shared φ ρ) ε Unit := Program.modify fun s => { s with closed := true }

/-- Unsigned subtraction, which must not underflow. -/
def subtract (left right : Nat) : Program (Shared φ ρ) ε Nat :=
  if right ≤ left then pure (left - right) else Program.panic "attempt to subtract with overflow"

/-- Close the sending side and clear both lanes. -/
def State.close (s : State φ ρ) : State φ ρ :=
  { s with
    senderClosed := true, topics := [], control := [], topicBytes := 0, controlBytes := 0 }

/-- There is no room for `bytes` more of the topic. -/
def State.crowded (topic : String) (topicLimit bytes : Nat) (s : State φ ρ) : Bool :=
  decide (topicLimit ≤ (s.topics.filter (Batch.ofTopic topic)).length) ||
    decide (s.capacity ≤ s.topics.length) || decide (s.byteLimit - s.topicBytes < bytes)

/-- The eviction loop: remove the oldest batch of the topic until there is room or none
is left. It counts what it removed. `fuel` bounds the rounds; the source has no bound. -/
def evict (topic : String) (topicLimit bytes : Nat) : Nat → Program (Shared φ ρ) ε Nat
  | 0 => Program.panic "eviction does not end"
  | fuel + 1 => do
      let s ← readState
      if s.crowded topic topicLimit bytes then
        match s.topics.find? (Batch.ofTopic topic) with
        | none => pure 0
        | some old => do
            let left ← subtract s.topicBytes old.bytes
            modifyState fun s =>
              { s with topics := s.topics.eraseP (Batch.ofTopic topic), topicBytes := left }
            let dropped ← evict topic topicLimit bytes fuel
            pure (dropped + 1)
      else pure 0

/-- Evict only this topic, if it is limited and the new batch can fit at all. -/
def makeRoom (topic : String) (topicLimit bytes : Nat) : Program (Shared φ ρ) ε Nat := do
  let s ← readState
  if bytes ≤ s.byteLimit ∧ 0 < topicLimit then
    evict topic topicLimit bytes (s.topics.length + 1)
  else pure 0

/-- Queue a topic batch if there is room, and count what was dropped. -/
def storeTopic (batch : Batch φ ρ) (dropped : Nat) : Program (Shared φ ρ) ε Unit :=
  modifyState fun s =>
    if s.capacity ≤ s.topics.length ∨ s.byteLimit - s.topicBytes < batch.bytes then
      { s with dropped := s.dropped + (dropped + 1) }
    else
      { s with
        topicBytes := s.topicBytes + batch.bytes
        topics := s.topics ++ [batch]
        dropped := s.dropped + dropped }

/-- `Output::enqueue`. -/
def enqueue (sizes : Sizes φ ρ) (connection : Connection) (topic : Option String)
    (topicLimit : Nat) (payload : Payload φ ρ) : Program (Shared φ ρ) SendError Unit := do
  let bytes := payload.bytes sizes
  let s ← readState
  if s.isClosed then Program.fail .closed
  else
    match topic with
    | some topic => do
        let dropped ← makeRoom topic topicLimit bytes
        storeTopic ⟨connection, some topic, payload, bytes⟩ dropped
        notifyReady
    | none =>
        if controlCapacity ≤ s.control.length ∨ s.byteLimit - s.controlBytes < bytes then do
          modifyState fun s => { s.close with closeReason := some "control send queue full" }
          notifyReady
          notifyClosed
          Program.fail .controlFull
        else do
          modifyState fun s =>
            { s with
              controlBytes := s.controlBytes + bytes
              control := s.control ++ [⟨connection, none, payload, bytes⟩] }
          notifyReady

/-- Dropping the `Output`. -/
def dropOutput : Program (Shared φ ρ) ε Unit := do
  modifyState State.close
  notifyReady
  notifyClosed

/-- `Receiver::take`. -/
def take : Program (Shared φ ρ) TryRecvError (Batch φ ρ) := do
  let s ← readState
  match s.control with
  | batch :: rest => do
      let left ← subtract s.controlBytes batch.bytes
      modifyState fun s => { s with control := rest, controlBytes := left }
      pure batch
  | [] =>
      match s.topics with
      | batch :: rest => do
          let left ← subtract s.topicBytes batch.bytes
          modifyState fun s => { s with topics := rest, topicBytes := left }
          pure batch
      | [] => Program.fail (if s.senderClosed then .disconnected else .empty)

/-- Refuse a batch after encoding it. -/
def reject (topic : Bool) (reason : String) : Program (Shared φ ρ) ε Unit :=
  modifyState fun s =>
    if topic then { s with dropped := s.dropped + 1 }
    else { s.close with closeReason := some reason }

/-- `Receiver::finish`. -/
def finish (sizes : Sizes φ ρ) (topic : Bool) (result : Except Error (List φ)) :
    Program (Shared φ ρ) ε (Option (List φ)) := do
  let s ← readState
  if s.senderClosed || s.receiverClosed then pure none
  else
    match result with
    | .ok frames =>
        if framesLen sizes frames ≤ s.byteLimit then pure (some frames)
        else do
          reject topic "encoded batch exceeds byte limit"
          pure none
    | .error _ => do
        reject topic "outbound encoding failed"
        pure none

/-- Dropping the `Receiver`. The counters are left as they are. -/
def dropReceiver : Program (Shared φ ρ) ε Unit :=
  modifyState fun s => { s with receiverClosed := true, topics := [], control := [] }

end Sections

/-! ### The consumer -/

/-- The two ways to receive. -/
inductive Mode where
  | tryRecv
  | recv
deriving DecidableEq

/-- Where the consumer stands between two critical sections. -/
inductive Phase (φ ρ : Type) where
  /-- Between two calls. -/
  | idle
  /-- In `try_recv`, or in `recv` with a permit of the pool: about to take a batch. -/
  | taking (mode : Mode)
  /-- In `recv`: about to look for pending batches. -/
  | checking
  /-- In `recv`: waiting for `ready`. -/
  | awaiting
  /-- In `recv`: waiting for the pool, or for `closed`. -/
  | pooling
  /-- Encoding a batch outside the lock. -/
  | holding (mode : Mode) (batch : Batch φ ρ)
  /-- The receiver is dropped. -/
  | gone

structure Machine (φ ρ : Type) where
  shared : Shared φ ρ
  phase : Phase φ ρ

/-- The start of a round of the receive loop. -/
def Mode.round : Mode → Phase φ ρ
  | .tryRecv => .taking .tryRecv
  | .recv => .checking

/-- What a batch may be encoded to. Frames are passed on as they are; an encoding
request may give any result. -/
def Payload.Encodes : Payload φ ρ → Except Error (List φ) → Prop
  | .frames content, result => result = .ok content
  | .encode _, _ => True

/-- The phase after `take`. -/
def Phase.taken (mode : Mode) : Outcome TryRecvError (Batch φ ρ) → Phase φ ρ
  | .ok batch => .holding mode batch
  | .error .disconnected => .idle
  | .error .empty =>
      match mode with
      | .tryRecv => .idle
      | .recv => .checking
  | .panic _ => .gone

/-- The phase after `finish`. -/
def Phase.finished (mode : Mode) : Outcome Error (Option (List φ)) → Phase φ ρ
  | .ok (some _) => .idle
  | _ => mode.round

/-- One step of either side, with what it returned. -/
inductive Event (φ ρ : Type) where
  | enqueue (connection : Connection) (topic : Option String) (topicLimit : Nat)
      (payload : Payload φ ρ) (outcome : Outcome SendError Unit)
  | dropOutput
  /-- The consumer calls `try_recv` or `recv`. -/
  | call (mode : Mode)
  /-- `recv` looks for pending batches, and returns if the queue is disconnected. -/
  | check (disconnected : Bool)
  /-- `ready.notified()` completes. -/
  | wake
  /-- The pool grants a permit. -/
  | permit
  /-- `closed.notified()` completes. -/
  | canceled
  | take (mode : Mode) (outcome : Outcome TryRecvError (Batch φ ρ))
  | finish (batch : Batch φ ρ) (result : Except Error (List φ))
      (outcome : Outcome Error (Option (List φ)))
  /-- The encoding worker fails: `recv` reports a failed control batch. -/
  | workerFailed
  | dropReceiver

/-- The phase after `recv` looked for pending batches. -/
def Phase.checked (s : State φ ρ) : Phase φ ρ :=
  if s.senderClosed then .idle
  else if !s.control.isEmpty || !s.topics.isEmpty then .pooling
  else .awaiting

/-- The steps of the two sides. -/
inductive Takes (sizes : Sizes φ ρ) : Event φ ρ → Machine φ ρ → Machine φ ρ → Prop where
  | enqueue {connection : Connection} {topic : Option String} {topicLimit : Nat}
      {payload : Payload φ ρ} {outcome : Outcome SendError Unit} {before after : Shared φ ρ}
      (phase : Phase φ ρ)
      (ran : Outgoing.enqueue sizes connection topic topicLimit payload before = (outcome, after)) :
      Takes sizes (.enqueue connection topic topicLimit payload outcome)
        ⟨before, phase⟩ ⟨after, phase⟩
  | dropOutput (shared : Shared φ ρ) (phase : Phase φ ρ) :
      Takes sizes .dropOutput ⟨shared, phase⟩
        ⟨((Outgoing.dropOutput : Program (Shared φ ρ) Error Unit) shared).2, phase⟩
  | call (mode : Mode) (shared : Shared φ ρ) :
      Takes sizes (.call mode) ⟨shared, .idle⟩ ⟨shared, mode.round⟩
  | check (shared : Shared φ ρ) :
      Takes sizes (.check shared.state.senderClosed) ⟨shared, .checking⟩
        ⟨shared, .checked shared.state⟩
  | wake {shared : Shared φ ρ} (notified : shared.ready = true) :
      Takes sizes .wake ⟨shared, .awaiting⟩ ⟨{ shared with ready := false }, .checking⟩
  | permit (shared : Shared φ ρ) :
      Takes sizes .permit ⟨shared, .pooling⟩ ⟨shared, .taking .recv⟩
  | canceled {shared : Shared φ ρ} (notified : shared.closed = true) :
      Takes sizes .canceled ⟨shared, .pooling⟩ ⟨{ shared with closed := false }, .idle⟩
  | take {outcome : Outcome TryRecvError (Batch φ ρ)} {before after : Shared φ ρ} (mode : Mode)
      (ran : Outgoing.take before = (outcome, after)) :
      Takes sizes (.take mode outcome) ⟨before, .taking mode⟩ ⟨after, .taken mode outcome⟩
  | finish {batch : Batch φ ρ} {result : Except Error (List φ)}
      {outcome : Outcome Error (Option (List φ))} {before after : Shared φ ρ} (mode : Mode)
      (encoded : batch.payload.Encodes result)
      (ran : Outgoing.finish sizes batch.topic.isSome result before = (outcome, after)) :
      Takes sizes (.finish batch result outcome) ⟨before, .holding mode batch⟩
        ⟨after, .finished mode outcome⟩
  | workerFailed {request : ρ} {batch : Batch φ ρ} {outcome : Outcome Error (Option (List φ))}
      {before after : Shared φ ρ} (encoding : batch.payload = .encode request)
      (ran : Outgoing.finish sizes false (.error ⟨"encoding worker failed"⟩) before =
        (outcome, after)) :
      Takes sizes .workerFailed ⟨before, .holding .recv batch⟩ ⟨after, .holding .recv batch⟩
  | dropReceiver (shared : Shared φ ρ) (phase : Phase φ ρ) (present : phase ≠ .gone) :
      Takes sizes .dropReceiver ⟨shared, phase⟩
        ⟨((Outgoing.dropReceiver : Program (Shared φ ρ) Error Unit) shared).2, .gone⟩

end Rosbridge.Outgoing
