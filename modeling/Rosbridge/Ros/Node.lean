import Mathlib.Data.Finset.Basic
import Std.Data.TreeMap.Lemmas
import Rosbridge.Access
import Rosbridge.Backend
import Rosbridge.Foundation.Program
import Rosbridge.Foundation.Table

/-!
The ROS node (`ros/mod.rs`, `ros/graph.rs`) as the native rosapi sees it.

Owns: the records of `Ros` and of the rosapi requests it serves; `Middleware`, which
answers every call the node makes to ROS; `Act`, one such call with its answer; and the
backend calls that rosapi makes.

A middleware is a strategy over what has happened, as the environment of the bridge is.
Its view of the graph is no part of that history.
-/

set_option autoImplicit false

namespace Rosbridge.Ros

open Foundation

/-! ### Records -/

inductive Role where
  | publisher
  | subscription
  | client
  | service
deriving DecidableEq

/-- `Handle`: an entity of the node, under the name and type it was created for. -/
structure Handle where
  role : Role
  name : String
  typ : String
deriving DecidableEq

/-- `Ros`, less its API. `next` and `nextRequest` are unbounded counters here. -/
structure Node where
  handles : Table Entity Handle := ∅
  next : Nat := 0
  requests : Finset (Entity × Nat) := ∅
  nextRequest : Nat := 0
  simulated : Option (Int × Nat) := none
  clockSubscription : Option Entity := none

/-- The operations of rosapi. -/
inductive Query where
  | topics
  | interfaces
  | topicsForType
  | topicsAndRawTypes
  | services
  | servicesForType
  | nodes
  | nodeDetails
  | actionServers
  | actionType
  | topicType
  | serviceType
  | publishers
  | subscribers
  | serviceProviders
  | serviceNode
  | messageDetails
  | serviceRequestDetails
  | serviceResponseDetails
  | actionGoalDetails
  | actionResultDetails
  | actionFeedbackDetails
  | setParam
  | getParam
  | hasParam
  | deleteParam
  | getParamNames
  | getTime
  | getRosVersion
deriving DecidableEq

/-- A request to a node for which rosapi waits. -/
structure Pending where
  group : Nat
  node : String
  deleteCheck : Bool

/-- A parameter request that rosapi serves. -/
structure Group where
  service : Entity
  request : Nat
  op : Query
  args : Json
  remaining : Nat
  names : List String
  deadline : Instant

/-- The texts and details of types that have been asked for. -/
structure Definitions where
  raw : Table String String := ∅
  details : Table String Json := ∅

structure Api where
  operations : Table Entity Query := ∅
  definitions : Definitions := {}
  pending : Table (Entity × Int) Pending := ∅
  groups : Table Nat Group := ∅
  config : Access := {}
  parameterTimeout : Duration := 0

/-! ### History -/

/-- One call of the node to ROS, with its answer. -/
inductive Act where
  | client (name typ : String) (reply : Except Error Entity)
  | service (name typ : String) (reply : Except Error Entity)
  | request (entity : Entity) (args : Json) (reply : Except Error Int)
  | respond (entity : Entity) (request : Nat) (value : Json) (reply : Except Error Unit)
  | discardRequest (entity : Entity) (request : Nat)
  | destroy (entity : Entity)
  | graph
  | instant (reading : Instant)
  | order (code : Nat)

abbrev Trace : Type := List Act

/-- Names with the types seen under each, as ROS lists them. -/
abbrev Names : Type := List (String × List String)

/-- The kinds of names that ROS lists for a node. -/
inductive Endpoint where
  | publishers
  | subscribers
  | services
deriving DecidableEq

/-- Everything outside the node: ROS, the clocks, the files of the interfaces, the JSON
parser and printer, and the visiting order of hash maps. -/
structure Middleware where
  create : Trace → Handle → Except Error Unit
  fill : String → Json → Except Error Unit
  sendRequest : Trace → Entity → Json → Except Error Int
  sendResponse : Trace → Entity → Nat → Json → Except Error Unit
  topics : Trace → Except Error Names
  services : Trace → Except Error Names
  nodeNames : Trace → Except Error (List (String × String))
  nodeGraph : Trace → Endpoint → String → String → Except Error Names
  systemTime : Trace → Int × Nat
  instant : Trace → Instant
  order : Trace → Nat
  interfaces : Trace → List String
  rawText : Trace → String → Except Error String
  typedefs : Trace → String → Except Error Json
  fromStr : String → Except Error Json
  toText : Json → String
  distro : String
  humble : Bool

/-- The node, its API, and everything that has happened. -/
structure Native where
  api : Api
  node : Node
  trace : Trace

/-- A function of the node. -/
abbrev Action (α : Type) : Type := Program Native Error α

def api : Action Api := fun s => (.ok s.api, s)

def node : Action Node := fun s => (.ok s.node, s)

def changeApi (change : Api → Api) : Action Unit := fun s => (.ok (), { s with api := change s.api })

def changeNode (change : Node → Node) : Action Unit :=
  fun s => (.ok (), { s with node := change s.node })

/-- What the middleware answers at this moment. -/
def consult {ρ : Type} (answer : Trace → ρ) : Action ρ := fun s => (.ok (answer s.trace), s)

/-- Note one call. -/
def record (act : Act) : Action Unit := fun s => (.ok (), { s with trace := s.trace ++ [act] })

section Rules

open Program

variable {s : Native}

@[simp] theorem wp_api {post : Outcome Error Api → Native → Prop} :
    wp api post s ↔ post (.ok s.api) s := Iff.rfl

@[simp] theorem wp_node {post : Outcome Error Node → Native → Prop} :
    wp node post s ↔ post (.ok s.node) s := Iff.rfl

@[simp] theorem wp_changeApi {post : Outcome Error Unit → Native → Prop} (change : Api → Api) :
    wp (changeApi change) post s ↔ post (.ok ()) { s with api := change s.api } := Iff.rfl

@[simp] theorem wp_changeNode {post : Outcome Error Unit → Native → Prop}
    (change : Node → Node) :
    wp (changeNode change) post s ↔ post (.ok ()) { s with node := change s.node } := Iff.rfl

@[simp] theorem wp_consult {ρ : Type} {post : Outcome Error ρ → Native → Prop}
    (answer : Trace → ρ) : wp (consult answer) post s ↔ post (.ok (answer s.trace)) s := Iff.rfl

@[simp] theorem wp_record {post : Outcome Error Unit → Native → Prop} (act : Act) :
    wp (record act) post s ↔ post (.ok ()) { s with trace := s.trace ++ [act] } := Iff.rfl

end Rules

/-! ### Backend calls -/

section Calls

variable (env : Middleware)

/-- `Ros::insert`. -/
def insertHandle (handle : Handle) : Action Entity := do
  changeNode fun n =>
    { n with next := n.next + 1, handles := n.handles.insert (n.next + 1) handle }
  return (← node).next

/-- Create an entity, if ROS does. -/
def create (handle : Handle) : Action Entity := do
  Program.ofExcept (← consult fun trace => env.create trace handle)
  insertHandle handle

/-- The call, and its answer in the history. -/
def recorded {α : Type} (program : Action α) (act : Except Error α → Act) : Action α := do
  let reply ← Program.attempt program
  record (act reply)
  Program.ofExcept reply

/-- `Ros::client`. -/
def client (name typ : String) : Action Entity :=
  recorded (create env ⟨.client, name, typ⟩) (.client name typ)

/-- `Ros::service`. -/
def service (name typ : String) : Action Entity :=
  recorded (create env ⟨.service, name, typ⟩) (.service name typ)

/-- The handle of an entity with the given role. -/
def handle (role : Role) (missing : String) (entity : Entity) : Action Handle := do
  match (← node).handles.lookup entity with
  | some handle =>
      if handle.role = role then return handle else Program.fail ⟨missing⟩
  | none => Program.fail ⟨missing⟩

/-- `Ros::request`. -/
def request (entity : Entity) (args : Json) : Action Int :=
  recorded (do
    let typ := (← handle .client "service client no longer exists" entity).typ
    Program.ofExcept (env.fill (typ ++ "_Request") args)
    Program.ofExcept (← consult fun trace => env.sendRequest trace entity args))
    (.request entity args)

/-- `Ros::respond`. -/
def respond (entity : Entity) (request : Nat) (value : Json) : Action Unit :=
  recorded (do
    let typ := (← handle .service "service no longer exists" entity).typ
    Program.ofExcept (env.fill (typ ++ "_Response") value)
    Program.ensure ((entity, request) ∈ (← node).requests) ⟨"unknown request"⟩
    Program.ofExcept (← consult fun trace => env.sendResponse trace entity request value)
    changeNode fun n => { n with requests := n.requests.erase (entity, request) })
    (.respond entity request value)

/-- `Ros::discard_request`. -/
def discardRequest (entity : Entity) (request : Nat) : Action Unit := do
  changeNode fun n => { n with requests := n.requests.erase (entity, request) }
  record (.discardRequest entity request)

/-- `Ros::destroy`. -/
def destroy (entity : Entity) : Action Unit := do
  changeNode fun n =>
    { n with
      requests := n.requests.filter fun key => key.1 ≠ entity
      handles := n.handles.erase entity }
  record (.destroy entity)

/-- `Instant::now()`. -/
def instant : Action Instant := do
  let reading ← consult env.instant
  record (.instant reading)
  return reading

/-- `instant + duration`, which panics past the end of the clock's range. -/
def after (duration : Duration) : Action Instant := do
  Program.unwrap "overflow when adding duration to instant"
    (Instant.add? (← instant env) duration)

/-- The entries of a map in the order the hash map yields them this time. -/
def visit {κ ν : Type} (table : Table κ ν) : Action (List (κ × ν)) := do
  let code ← consult env.order
  record (.order code)
  return permute code (table.entries.map fun entry => (entry.1, entry.2))

/-- `Ros::now`. -/
def now : Action (Int × Nat) := do
  match (← node).simulated with
  | some time => return time
  | none => consult env.systemTime

/-! ### The graph -/

/-- `BTreeMap<String, Vec<String>>`. -/
abbrev NameMap : Type := Std.TreeMap String (List String)

def nameMap (names : Names) : NameMap := .ofList names

/-- No part of the name is hidden. -/
def isPublic (name : String) : Bool :=
  !(splitText name '/').any fun part => part.toList.head? = some '_'

/-- Look at the graph. -/
def look {ρ : Type} (answer : Trace → Except Error ρ) : Action ρ := do
  let reply ← consult answer
  record .graph
  Program.ofExcept reply

/-- `Ros::topics`. -/
def topics : Action NameMap := do return nameMap (← look env.topics)

/-- `Ros::services`. -/
def services : Action NameMap := do return nameMap (← look env.services)

/-- `Ros::nodes`: the full names of the visible nodes. -/
def nodes : Action (List String) := do
  let names ← look env.nodeNames
  return (names.map fun entry => trimEndMatches entry.2 '/' ++ "/" ++ entry.1).filter isPublic

/-- The namespace and the name of a node. -/
def nodeParts (fullName : String) : String × String :=
  let fullName := "/" ++ trimStartMatches fullName '/'
  let (space, name) := (rsplitOnce fullName '/').getD ("", "")
  (if space = "" then "/" else space, name)

/-- `Ros::node_graph`: the visible names of one kind that a node has. -/
def nodeGraph (fullName : String) (kind : Endpoint) : Action NameMap := do
  let parts := nodeParts fullName
  Program.ensure (!parts.2.toList.contains (.ofNat 0) && !parts.1.toList.contains (.ofNat 0))
    ⟨"nul byte found in provided data"⟩
  let names ← look fun trace => env.nodeGraph trace kind parts.2 parts.1
  return nameMap (names.filter fun entry => isPublic entry.1)

end Calls

end Rosbridge.Ros
