import Mathlib.Data.Finset.Insert
import Rosbridge.Foundation.Program
import Rosbridge.Foundation.Table
import Rosbridge.Access
import Rosbridge.Backend

/-!
Tables of the bridge (`bridge/mod.rs`), its environment and its history.

Owns: the records and tables of `Bridge`; `Environment`, which answers every call
the bridge makes to code outside it; `Entry`, one such call with its answer; and
`Machine`, a bridge together with everything that has happened to it.

An environment is a strategy: it answers from the history, so a statement about
all environments covers every pattern of successes and failures. Times at which
requests started are only logged by the source and are left out.
-/

set_option autoImplicit false

namespace Rosbridge

open Foundation

abbrev Connection : Type := Nat

/-- The sending half of a connection's queue. It is moved into the bridge when the
connection registers and never copied, so the connection identifies it. -/
structure Output where
  connection : Connection
deriving DecidableEq

/-- Why a queue refused a message. -/
inductive SendError where
  | closed
  | controlFull
deriving DecidableEq

/-! ### Records -/

structure Publisher where
  entity : Entity
  typ : String
  owners : Table Connection (Finset (Option String))

structure ClientSubscription where
  registrations : Table (Option String) Options
  last : Option Instant
  pending : List RosMessage

structure Subscription where
  transientLocal : Bool
  retained : Option RosMessage
  entity : Entity
  typ : String
  clients : Table Connection ClientSubscription

structure Service where
  nextRequest : Nat
  owner : Connection
  entity : Entity
  typ : String

structure Call where
  parameterNames : Bool
  owner : Connection
  id : Option String
  service : String
  options : Options
  expires : Instant

structure ExternalRequest where
  owner : Connection
  entity : Entity
  request : Nat
  service : String
  expires : Instant

structure ClientGoal where
  owner : Connection
  id : Option String
  action : String
  uuid : Json
  feedback : Bool
  options : Options
  send : Entity
  result : Entity
  cancel : Entity
  feedbackSub : Entity
  statusSub : Entity
  accepted : Bool
  acceptanceDeadline : Instant
  cancelling : Bool

structure ActionServer where
  owner : Connection
  advertisedType : String
  typ : String
  send : Entity
  cancel : Entity
  result : Entity
  feedback : Entity
  status : Entity

structure ServerGoal where
  owner : Connection
  action : String
  id : String
  uuid : Json
  status : Int
  stamp : Json
  result : Option Json
  requests : List (Entity × Nat)
  completed : Option Instant

/-- What an outstanding request of a goal's clients is for. -/
inductive ActionCall where
  | send (goal : String)
  | result (goal : String)
  | cancel (goal : String)
deriving DecidableEq

/-- The goal that a pending request belongs to. -/
def ActionCall.goal : ActionCall → String
  | send goal | result goal | cancel goal => goal

/-- The options that serve all registrations of one client: the least throttle,
queue and fragment size, and the most binary compression. -/
def ClientSubscription.options (client : ClientSubscription) : Options :=
  let registered := client.registrations.entries.map fun entry => entry.2
  let seed := registered.head?.getD {}
  { seed with
    throttle := ((registered.map Options.throttle).min?).getD 0
    queue := ((registered.map Options.queue).min?).getD 0
    fragment := (registered.filterMap Options.fragment).min?
    -- Match Python rosbridge's precedence for registrations sharing a topic.
    compression := ([Compression.raw, Compression.cbor, Compression.png].find? fun compression =>
      registered.any fun options => options.compression == compression).getD .none }

/-- The bridge without its backend. `next` and `nextRequest` are unbounded
counters here. -/
structure Bridge where
  access : Access
  outputs : Table Connection Output
  publishers : Table String Publisher
  subscriptions : Table String Subscription
  services : Table String Service
  calls : Table (Entity × Int) Call
  external : Table String ExternalRequest
  goals : Table String ClientGoal
  actionCalls : Table (Entity × Int) ActionCall
  actionServers : Table String ActionServer
  serverGoals : Table String ServerGoal
  next : Nat
  timeout : Duration
  failed : List Connection

/-- `Bridge::new`, with the allowlists the server assigns right after it. -/
def Bridge.new (access : Access) (timeout : Duration) : Bridge where
  access := access
  outputs := ∅
  publishers := ∅
  subscriptions := ∅
  services := ∅
  calls := ∅
  external := ∅
  goals := ∅
  actionCalls := ∅
  actionServers := ∅
  serverGoals := ∅
  next := 0
  timeout := timeout
  failed := []

/-! ### History -/

/-- A random goal identifier. -/
structure Uuid where
  bytes : List UInt8
  length : bytes.length = 16
deriving DecidableEq

/-- An encoding job, as `encoding::Request::new` builds it. -/
structure EncodeRequest where
  value : Json
  binary : Option Cbor
  options : Options
  fragmentId : String

/-- `encoding::Request::new`: a binary encoding drops the JSON view if it has its
own body, a text encoding drops the binary one. -/
def EncodeRequest.new (value : Json) (binary : Option Cbor) (options : Options)
    (fragmentId : String) : EncodeRequest :=
  if options.compression = .cbor ∨ options.compression = .raw then
    { value := if binary.isSome then .null else value
      binary, options, fragmentId }
  else { value, binary := none, options, fragmentId }

/-- One thing that happened: a call to code outside the bridge with its answer, a
new connection, or a message handed to `send`. -/
inductive Entry where
  | connected (connection : Connection)
  | publisher (name typ : String) (qos : Qos) (reply : Except Error Entity)
  | subscription (name typ : String) (qos : Qos) (reply : Except Error Entity)
  | client (name typ : String) (reply : Except Error Entity)
  | service (name typ : String) (reply : Except Error Entity)
  | publish (entity : Entity) (message : Json) (reply : Except Error Unit)
  | request (entity : Entity) (args : Json) (reply : Except Error Int)
  | validateResponse (entity : Entity) (values : Json) (reply : Except Error Unit)
  | respond (entity : Entity) (request : Nat) (values : Json) (reply : Except Error Unit)
  | discardRequest (entity : Entity) (request : Nat)
  | destroy (entity : Entity)
  | poll (reply : Except Error (List Event))
  | topics (reply : Except Error Graph)
  | services (reply : Except Error Graph)
  | publisherQos (topic : String) (reply : Except Error (List Qos))
  | now (stamp : Int × Nat)
  | instant (reading : Instant)
  | uuid (fresh : Uuid)
  | order (code : Nat)
  | handed (owner : Connection) (value : Object) (options : Options)
  | sendRequest (output : Output) (operation : String) (topic : Option String) (queue : Nat)
      (request : EncodeRequest) (reply : Except SendError Unit)
  | isClosed (output : Output) (reply : Bool)

abbrev History : Type := List Entry

/-- Everything outside the bridge: the backend, the clock, random identifiers,
the visiting order of hash maps, the outgoing queues and the Base64 decoder. -/
structure Environment where
  publisher : History → String → String → Qos → Except Error Entity
  subscription : History → String → String → Qos → Except Error Entity
  client : History → String → String → Except Error Entity
  service : History → String → String → Except Error Entity
  publish : History → Entity → Json → Except Error Unit
  request : History → Entity → Json → Except Error Int
  validateResponse : History → Entity → Json → Except Error Unit
  respond : History → Entity → Nat → Json → Except Error Unit
  poll : History → Except Error (List Event)
  topics : History → Except Error Graph
  services : History → Except Error Graph
  publisherQos : History → String → Except Error (List Qos)
  now : History → Int × Nat
  instant : History → Instant
  uuid : History → Uuid
  order : History → Nat
  sendRequest : History → Output → String → Option String → Nat → EncodeRequest →
    Except SendError Unit
  isClosed : History → Output → Bool
  base64 : String → Except Error (List UInt8)

/-- A bridge and everything that has happened to it, oldest first. -/
structure Machine where
  bridge : Bridge
  log : History

/-- A handler of the bridge. -/
abbrev Step (α : Type) : Type := Program Machine Error α

/-- The tables. -/
def tables : Step Bridge := fun machine => (.ok machine.bridge, machine)

/-- Change the tables. -/
def update (change : Bridge → Bridge) : Step Unit := fun machine =>
  (.ok (), { machine with bridge := change machine.bridge })

/-- Put a question to the environment and note its answer. -/
def ask {ρ : Type} (answer : History → ρ) (entry : ρ → Entry) : Step ρ := fun machine =>
  (.ok (answer machine.log), { machine with log := machine.log ++ [entry (answer machine.log)] })

/-- Note an event that needs no answer. -/
def note (entry : Entry) : Step Unit := ask (fun _ => ()) fun _ => entry

/-- A call to the environment that may fail. -/
def call {ρ : Type} (answer : History → Except Error ρ) (entry : Except Error ρ → Entry) :
    Step ρ :=
  ask answer entry >>= Program.ofExcept

section Rules

variable {machine : Machine}

open Program

@[simp] theorem wp_tables {post : Outcome Error Bridge → Machine → Prop} :
    wp tables post machine ↔ post (.ok machine.bridge) machine := Iff.rfl

@[simp] theorem wp_update {post : Outcome Error Unit → Machine → Prop}
    (change : Bridge → Bridge) :
    wp (update change) post machine ↔
      post (.ok ()) { machine with bridge := change machine.bridge } := Iff.rfl

@[simp] theorem wp_ask {ρ : Type} {post : Outcome Error ρ → Machine → Prop}
    (answer : History → ρ) (entry : ρ → Entry) :
    wp (ask answer entry) post machine ↔
      post (.ok (answer machine.log))
        { machine with log := machine.log ++ [entry (answer machine.log)] } := Iff.rfl

@[simp] theorem wp_note {post : Outcome Error Unit → Machine → Prop} (entry : Entry) :
    wp (note entry) post machine ↔
      post (.ok ()) { machine with log := machine.log ++ [entry] } := Iff.rfl

@[simp] theorem wp_call {ρ : Type} {post : Outcome Error ρ → Machine → Prop}
    (answer : History → Except Error ρ) (entry : Except Error ρ → Entry) :
    wp (call answer entry) post machine ↔
      match answer machine.log with
      | .ok value => post (.ok value) { machine with log := machine.log ++ [entry (.ok value)] }
      | .error cause =>
          post (.error cause) { machine with log := machine.log ++ [entry (.error cause)] } := by
  unfold call
  rw [wp_bind, wp_ask, andThen_ok, wp_ofExcept]
  cases answer machine.log <;> rfl

end Rules

/-! ### Calls to the environment -/

section Calls

variable (env : Environment)

namespace Backend

def publisher (name typ : String) (qos : Qos) : Step Entity :=
  call (fun log => env.publisher log name typ qos) (.publisher name typ qos)

def subscription (name typ : String) (qos : Qos) : Step Entity :=
  call (fun log => env.subscription log name typ qos) (.subscription name typ qos)

def client (name typ : String) : Step Entity :=
  call (fun log => env.client log name typ) (.client name typ)

def service (name typ : String) : Step Entity :=
  call (fun log => env.service log name typ) (.service name typ)

def publish (entity : Entity) (message : Json) : Step Unit :=
  call (fun log => env.publish log entity message) (.publish entity message)

def request (entity : Entity) (args : Json) : Step Int :=
  call (fun log => env.request log entity args) (.request entity args)

def validateResponse (entity : Entity) (values : Json) : Step Unit :=
  call (fun log => env.validateResponse log entity values) (.validateResponse entity values)

def respond (entity : Entity) (request : Nat) (values : Json) : Step Unit :=
  call (fun log => env.respond log entity request values) (.respond entity request values)

def discardRequest (entity : Entity) (request : Nat) : Step Unit :=
  note (.discardRequest entity request)

def destroy (entity : Entity) : Step Unit := note (.destroy entity)

def poll : Step (List Event) := call env.poll .poll

def topics : Step Graph := call env.topics .topics

def services : Step Graph := call env.services .services

def publisherQos (topic : String) : Step (List Qos) :=
  call (fun log => env.publisherQos log topic) (.publisherQos topic)

def now : Step (Int × Nat) := ask env.now .now

end Backend

/-- `Instant::now()`. -/
def instant : Step Instant := ask env.instant .instant

/-- `instant + duration`, which panics past the end of the clock's range. -/
def after (duration : Duration) : Step Instant := do
  Program.unwrap "overflow when adding duration to instant" (Instant.add? (← instant env) duration)

/-- The entries of a map in the order the hash map yields them this time. -/
def visit {κ ν : Type} (table : Table κ ν) : Step (List (κ × ν)) := do
  let code ← ask env.order .order
  return permute code (table.entries.map fun entry => (entry.1, entry.2))

end Calls

end Rosbridge
