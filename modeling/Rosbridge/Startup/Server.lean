import Rosbridge.Incoming.Channel
import Rosbridge.Outgoing.Workers
import Rosbridge.Startup.Arguments

/-!
What the server makes of its settings (`run` and `connection` of `server.rs`).

Owns: the conversions and constructors that `run` applies to the arguments before it starts
the threads, and those that a connection applies to its options.

Signals, threads, sockets and ROS itself are not owned here.
-/

set_option autoImplicit false

namespace Rosbridge.Startup

open Foundation

/-- `websocket::Timing`, whose write timeout is not set. -/
structure Timing where
  writeTimeout : Duration := Duration.fromSecs 10
  pingInterval : Duration
  pingTimeout : Duration

/-- What `run` hands to the worker thread and to connections. -/
structure Settings where
  timeout : Duration
  access : Access
  incoming : Incoming.State Unit
  max : Nat
  writeQueue : Nat
  writeQueueBytes : Nat
  fragmentTimeout : Duration
  urlPath : String
  encodingPool : Outgoing.Pool
  timing : Timing

/-- `Duration::from_secs_f64`. -/
def fromSecsF64 (seconds : F64) : Outcome Error Duration :=
  match Duration.tryFromSecsF64 seconds with
  | .ok duration => .ok duration
  | .error cause => .panic cause.message

/-- `result.context(message)`, of which the message is shown. -/
def context {α : Type} (message : String) : Except Error α → Except Error α
  | .ok value => .ok value
  | .error _ => .error ⟨message⟩

/-- A step of a thread that may fail or panic. -/
abbrev Thread (α : Type) : Type := Program Unit Error α

def ofOutcome {α : Type} (outcome : Outcome Error α) : Thread α := fun state => (outcome, state)

/-- `run`, up to the start of the worker thread. -/
def prepare (host : Host) (args : Args) : Thread Settings := do
  let timeout ← Program.ofExcept
    (context "invalid service timeout" (Duration.tryFromSecsF64 args.serviceTimeout))
  Program.ensure (0 < args.maxMessageSize) ⟨"max-message-size must be positive"⟩
  let access ← Program.ofExcept (fromRosArgs host args.rosArgs)
  let incoming ← ofOutcome (Incoming.channel args.incomingQueueSize)
  let fragmentTimeout ← ofOutcome (fromSecsF64 args.fragmentTimeout)
  let encodingPool ← ofOutcome (Outgoing.Pool.new args.encodingWorkers)
  let pingInterval ← Program.ofExcept (Duration.tryFromSecsF64 args.websocketPingInterval)
  let pingTimeout ← Program.ofExcept (Duration.tryFromSecsF64 args.websocketPingTimeout)
  return {
    timeout
    access
    incoming
    max := args.maxMessageSize
    writeQueue := args.writeQueueSize
    writeQueueBytes := args.writeQueueBytes
    fragmentTimeout
    urlPath := args.urlPath
    encodingPool
    timing := { pingInterval, pingTimeout } }

/-- The queue of a connection. -/
def openQueue {φ ρ : Type} (settings : Settings) : Thread (Outgoing.Shared φ ρ) :=
  ofOutcome (Outgoing.channelWithPool settings.writeQueue settings.writeQueueBytes)

end Rosbridge.Startup
