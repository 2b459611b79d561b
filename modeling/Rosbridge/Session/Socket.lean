import Mathlib.Logic.Function.Basic
import Rosbridge.Foundation.Trail
import Rosbridge.Wire.Frames

/-!
A WebSocket session (`websocket.rs`).

Owns: the reader, the writer and the heartbeat, which run side by side and share the sink; how the
first of them that returns ends the session; and the closing handshake.

The socket, the outgoing channel, the callback and the clock decide which step comes next.
-/

set_option autoImplicit false

namespace Rosbridge

open Foundation

namespace Session

/-! ### Frames -/

inductive CloseCode where
  | away
  | again
  | error
deriving DecidableEq

/-- What the session sends. -/
inductive Packet where
  | frame (frame : Frame)
  | ping (payload : List UInt8)
  | close (code : CloseCode) (reason : String)
deriving DecidableEq

/-- What the session hears. -/
inductive Heard where
  | close
  | ping
  | pong (payload : List UInt8)
  | data (arrival : Arrival)

/-- How `on_message` answers. -/
inductive Reply where
  | taken
  | full
  | unavailable
deriving DecidableEq

/-! ### Results -/

/-- What a write is for. -/
inductive Write where
  | pong
  | status
  | batch
  | ping
deriving DecidableEq

inductive End where
  | peerClose
  | eof
  | outputClosed (reason : Option String)
  | heartbeatTimeout
deriving DecidableEq

inductive Failure where
  | readFailed
  | refused (full : Bool)
  | timedOut (write : Write)
  | writeFailed (write : Write)
deriving DecidableEq

def Write.name : Write → String
  | pong => "pong"
  | status => "status"
  | batch => "batch"
  | ping => "ping"

/-- The context that the error is reported with. -/
def Failure.context : Failure → String
  | readFailed => "WebSocket read failed"
  | refused _ => "ROS command queue unavailable"
  | timedOut write => "WebSocket " ++ write.name ++ " write timed out"
  | writeFailed write => "WebSocket " ++ write.name ++ " write failed"

abbrev Result : Type := Except Failure End

/-- `local_code` and `reason`. -/
def closing : Result → Option CloseCode × String
  | .ok .peerClose => (none, "peer close")
  | .ok .eof => (none, "peer stream ended")
  | .ok .heartbeatTimeout => (some .away, "WebSocket pong timed out")
  | .ok (.outputClosed (some "outbound encoding failed")) =>
      (some .error, "outbound encoding failed")
  | .ok (.outputClosed (some reason)) => (some .again, reason)
  | .ok (.outputClosed none) => (some .away, "bridge disconnected")
  | .error (.refused true) => (some .again, "client incoming queue full")
  | .error (.timedOut _) => (some .error, "WebSocket write timed out")
  | .error _ => (some .error, "WebSocket session failed")

/-! ### State -/

structure Timing where
  writeTimeout : Duration := Duration.fromSecs 10
  pingInterval : Duration := Duration.fromSecs 30
  pingTimeout : Duration := Duration.fromSecs 30

/-- What a session is started with, and how `serde_json` shows a value. -/
structure Settings where
  codec : Codec
  display : Json → String
  max : Nat
  fragmentTimeout : Duration
  timing : Timing

inductive Party where
  | reader
  | writer
  | heartbeat
deriving DecidableEq

/-- What a party is writing: what it has sent, and what it still has to send. Until it has the sink
it has sent nothing. -/
structure Job where
  write : Write
  done : List Packet
  rest : List Packet
  deadline : Instant
deriving DecidableEq

/-- Where the heartbeat stands. Once parked, it looks again only if it is notified. -/
inductive Probe where
  | disabled
  | sleeping (wake : Instant)
  | pinging
  | awaiting (deadline : Instant) (parked : Bool)
deriving DecidableEq

inductive Stage where
  | running
  | ended (result : Result)
  | closing (result : Result)
  | closed (result : Result)

end Session

open Session

/-- A session. `permit` is the permit of `pong_received`, `holder` has the lock of the sink, and
`offered` is what `on_message` was called with. -/
structure Session where
  now : Instant
  decoder : Decoder
  pending : Option (List UInt8)
  permit : Bool
  sequence : Nat
  probe : Probe
  jobs : Party → Option Job
  holder : Option Party
  sent : List Packet
  offered : List Json
  stage : Stage

namespace Session

def start (settings : Settings) (now : Instant) : Session where
  now
  decoder := .withTimeout settings.fragmentTimeout
  pending := none
  permit := false
  sequence := 0
  probe :=
    if settings.timing.pingInterval = 0 then .disabled
    else .sleeping (now + settings.timing.pingInterval)
  jobs := fun _ => none
  holder := none
  sent := []
  offered := []
  stage := .running

/-! ### Steps -/

/-- Something that happens next. -/
inductive Occurrence where
  | elapsed (time : Duration)
  | heard (heard : Heard) (reply : Reply)
  | lost (failed : Bool)
  | received (frames : List Frame)
  | drained (reason : Option String)
  | woke
  | locked (party : Party)
  | fed (party : Party)
  | flushed (party : Party)
  | broke (party : Party)
  | overran (party : Party)
  | looked
  | notified
  | expired
  | closes
  | closed

section Parts

variable (settings : Settings) (s : Session)

/-- A party begins to write. -/
def begin (party : Party) (write : Write) (packets : List Packet) : Session :=
  { s with
    jobs := Function.update s.jobs party
      (some ⟨write, [], packets, s.now + settings.timing.writeTimeout⟩) }

/-- The first party that returns ends the session; the others are dropped, and the lock with
them. -/
def finish (result : Result) : Session :=
  { s with jobs := fun _ => none, holder := none, stage := .ended result }

/-- `sequence.to_be_bytes()`. -/
def payload (sequence : Nat) : List UInt8 := (toLeBytes 8 sequence).reverse

/-- The status that a client is sent about a frame of its. -/
def status (cause : Error) : Packet :=
  .frame (.text (settings.display (.obj
    [("op", .str "status"), ("level", .str "error"), ("msg", .str cause.message)])))

/-- The reader hears something. A decoder that panics takes the session with it. -/
def hear (reply : Reply) : Heard → Option Session
  | .close => some (s.finish (.ok .peerClose))
  | .ping => some (s.begin settings .reader .pong [])
  | .pong payload =>
      if s.pending = some payload then some { s with pending := none, permit := true } else some s
  | .data arrival =>
      match Decoder.decode settings.codec settings.max arrival s.decoder with
      | (.ok (some value), decoder) =>
          let s := { s with decoder, offered := s.offered ++ [value] }
          match reply with
          | .taken => some s
          | .full => some (s.finish (.error (.refused true)))
          | .unavailable => some (s.finish (.error (.refused false)))
      | (.ok none, decoder) => some { s with decoder }
      | (.error cause, decoder) =>
          some (begin settings { s with decoder } .reader .status [status settings cause])
      | (.panic _, _) => none

/-- The party that has the sink writes its next packet. -/
def feed (party : Party) (job : Job) : Session :=
  match job.rest with
  | [] => s
  | packet :: rest =>
      { s with
        sent := s.sent ++ [packet]
        jobs := Function.update s.jobs party
          (some { job with done := job.done ++ [packet], rest }) }

/-- The party that has the sink is done with it. -/
def flush (party : Party) : Session :=
  let s := { s with jobs := Function.update s.jobs party none, holder := none }
  match party with
  | .heartbeat => { s with probe := .awaiting (s.now + settings.timing.pingTimeout) false }
  | _ => s

end Parts

variable (settings : Settings)

/-- The session after something happened while it is running, if that can happen. -/
def after? (s : Session) : Occurrence → Option Session
  | .elapsed time => some { s with now := s.now + time }
  | .heard heard reply => if s.jobs .reader = none then s.hear settings reply heard else none
  | .lost failed =>
      if s.jobs .reader = none then
        some (s.finish (if failed then .error .readFailed else .ok .eof))
      else none
  | .received frames =>
      if s.jobs .writer = none then some (s.begin settings .writer .batch (frames.map .frame))
      else none
  | .drained reason =>
      if s.jobs .writer = none then some (s.finish (.ok (.outputClosed reason))) else none
  | .woke =>
      match s.probe with
      | .sleeping wake =>
          if wake ≤ s.now ∧ s.jobs .heartbeat = none then
            let sequence := (s.sequence + 1) % 2 ^ 64
            let s := { s with sequence, pending := some (payload sequence), probe := .pinging }
            some (s.begin settings .heartbeat .ping [.ping (payload sequence)])
          else none
      | _ => none
  | .locked party =>
      if (s.jobs party).isSome ∧ s.holder = none then some { s with holder := some party } else none
  | .fed party =>
      match s.jobs party with
      | some job =>
          if s.holder = some party ∧ job.rest ≠ [] then some (s.feed party job) else none
      | none => none
  | .flushed party =>
      match s.jobs party with
      | some job =>
          if s.holder = some party ∧ job.rest = [] then some (s.flush settings party) else none
      | none => none
  | .broke party =>
      match s.jobs party with
      | some job =>
          if s.holder = some party then some (s.finish (.error (.writeFailed job.write))) else none
      | none => none
  | .overran party =>
      match s.jobs party with
      | some job =>
          if job.deadline ≤ s.now then some (s.finish (.error (.timedOut job.write))) else none
      | none => none
  | .looked =>
      match s.probe with
      | .awaiting deadline false =>
          if s.pending = none then
            some { s with probe := .sleeping (s.now + settings.timing.pingInterval) }
          else some { s with probe := .awaiting deadline true }
      | _ => none
  | .notified =>
      match s.probe with
      | .awaiting deadline true =>
          if s.permit then some { s with permit := false, probe := .awaiting deadline false }
          else none
      | _ => none
  | .expired =>
      match s.probe with
      | .awaiting deadline true =>
          if deadline ≤ s.now ∧ s.permit = false then some (s.finish (.ok .heartbeatTimeout))
          else none
      | _ => none
  | .closes | .closed => none

/-- The end of a session: a close frame where there is a code for it, and then the wait for the
peer's. Either may fail or time out. -/
def afterEnd? (s : Session) (result : Result) : Occurrence → Option Session
  | .closes =>
      match closing result with
      | (some code, reason) =>
          some { s with sent := s.sent ++ [.close code reason], stage := .closing result }
      | (none, _) => none
  | .closed => some { s with stage := .closed result }
  | _ => none

/-- One step of a session. -/
def next? (s : Session) (occurrence : Occurrence) : Option Session :=
  match s.stage with
  | .running => s.after? settings occurrence
  | .ended result => s.afterEnd? result occurrence
  | .closing result =>
      match occurrence with
      | .closed => some { s with stage := .closed result }
      | _ => none
  | .closed _ => none

def Steps (occurrence : Occurrence) (before after : Session) : Prop :=
  before.next? settings occurrence = some after

theorem next?_running {settings : Settings} {s : Session} (running : s.stage = .running)
    (occurrence : Occurrence) : s.next? settings occurrence = s.after? settings occurrence := by
  unfold next?
  rw [running]

/-- The sessions that these settings lead to. -/
def Reaches (now : Instant) (occurrences : List Occurrence) (s : Session) : Prop :=
  Trail (Steps settings) occurrences (start settings now) s

/-- One occurrence after the other. -/
def run? (s : Session) (occurrences : List Occurrence) : Option Session :=
  occurrences.foldlM (fun s occurrence => s.next? settings occurrence) s

theorem Reaches.of_run {settings : Settings} {now : Instant} {occurrences : List Occurrence}
    {s : Session} (ran : (start settings now).run? settings occurrences = some s) :
    Reaches settings now occurrences s := Trail.of_run ran

end Session

end Rosbridge
