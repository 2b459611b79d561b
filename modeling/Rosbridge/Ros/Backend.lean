import Rosbridge.Bridge.State
import Rosbridge.Foundation.Trail
import Rosbridge.Ros.Api
import Rosbridge.Ros.Rules

/-!
The node as the backend of a bridge (`impl Backend for Ros`, `Ros::new`).

Owns: the calls that only the bridge makes; how the node starts; and `Hosted`, which says that the
calls in the history of a bridge were answered by a node.

ROS may answer every call as it likes, and what it was asked before does not bind it.
-/

set_option autoImplicit false

namespace Rosbridge.Ros

open Foundation

/-! ### Calls of the bridge -/

/-- A middleware, with its answers to the calls that rosapi never makes. -/
structure Host extends Middleware where
  publish : Trace → Entity → Json → Except Error Unit
  publishersInfo : Trace → String → Except Error (List Qos)

/-- A call of the bridge is no act of rosapi. -/
def aside {α : Type} (program : Action α) : Action α := fun s =>
  ((program s).1, { (program s).2 with trace := s.trace })

section Calls

variable (host : Host)

/-- `Ros::publisher`. The quality of service is handed to ROS. -/
def publisher (name typ : String) (_ : Qos) : Action Entity :=
  create host.toMiddleware ⟨.publisher, name, typ⟩

/-- `Ros::subscription`. The quality of service is handed to ROS. -/
def subscription (name typ : String) (_ : Qos) : Action Entity :=
  create host.toMiddleware ⟨.subscription, name, typ⟩

/-- `Ros::publish`. -/
def publish (entity : Entity) (value : Json) : Action Unit := do
  let typ := (← handle .publisher "publisher no longer exists" entity).typ
  Program.ofExcept (host.fill typ value)
  Program.ofExcept (← consult fun trace => host.publish trace entity value)

/-- `Ros::validate_response`. -/
def validateResponse (entity : Entity) (value : Json) : Action Unit := do
  let typ := (← handle .service "service no longer exists" entity).typ
  Program.ofExcept (host.fill (typ ++ "_Response") value)

/-- `Ros::topics` and `Ros::services`, in the order of the names. -/
def listed (names : Action NameMap) : Action Graph := do return (← names).toList

/-- `Ros::publisher_qos`. -/
def publisherQos (topic : String) : Action (List Qos) := do
  Program.ofExcept (← consult fun trace => host.publishersInfo trace topic)

end Calls

/-! ### Start -/

section Start

variable (env : Middleware)

/-- `Ros::new`. A node with simulated time follows the clock. -/
def new (simulated : Bool) : Action Unit :=
  Program.whenever simulated do
    changeNode fun n => { n with simulated := some (0, 0) }
    let clock ← create env ⟨.subscription, "/clock", "rosgraph_msgs/msg/Clock"⟩
    changeNode fun n => { n with clockSubscription := some clock }

/-- The node before the bridge is made: `Ros::new`, and `Ros::enable_rosapi` if it is served. -/
def startup (simulated serving : Bool) (config : Access) (parameterTimeout : Duration) :
    Action Unit := do
  new env simulated
  Program.whenever serving (serveApi env config parameterTimeout)

end Start

/-! ### A hosted bridge -/

/-- What the node does for one entry in the history of the bridge. Entries that are no calls of the
backend leave it alone. -/
def serve (host : Host) (serving : Bool) (inbox : Entity → List Sample) (s : Native) :
    Entry → Native → Prop
  | .publisher name typ qos reply, after => publisher host name typ qos s = (answered reply, after)
  | .subscription name typ qos reply, after =>
      subscription host name typ qos s = (answered reply, after)
  | .client name typ reply, after =>
      aside (client host.toMiddleware name typ) s = (answered reply, after)
  | .service name typ reply, after =>
      aside (service host.toMiddleware name typ) s = (answered reply, after)
  | .publish entity message reply, after =>
      publish host entity message s = (answered reply, after)
  | .request entity args reply, after =>
      aside (request host.toMiddleware entity args) s = (answered reply, after)
  | .validateResponse entity values reply, after =>
      validateResponse host entity values s = (answered reply, after)
  | .respond entity id values reply, after =>
      aside (respond host.toMiddleware entity id values) s = (answered reply, after)
  | .discardRequest entity id, after => aside (discardRequest entity id) s = (.ok (), after)
  | .destroy entity, after => aside (destroy entity) s = (.ok (), after)
  | .poll reply, after => poll host.toMiddleware serving inbox s = (answered reply, after)
  | .topics reply, after =>
      aside (listed (topics host.toMiddleware)) s = (answered reply, after)
  | .services reply, after =>
      aside (listed (services host.toMiddleware)) s = (answered reply, after)
  | .publisherQos topic reply, after => publisherQos host topic s = (answered reply, after)
  | .now stamp, after => now host.toMiddleware s = (.ok stamp, after)
  | _, after => after = s

/-- ROS answers each call as it likes. -/
def Serves (serving : Bool) (entry : Entry) (s after : Native) : Prop :=
  ∃ host inbox, serve host serving inbox s entry after

/-- The states that a node can start in. -/
def Starts (simulated serving : Bool) (s : Native) : Prop :=
  ∃ env config parameterTimeout,
    startup env simulated serving config parameterTimeout ⟨{}, {}, []⟩ = (.ok (), s)

/-- The calls in the history were answered by a node, which is now in this state. -/
def Hosted (simulated serving : Bool) (log : History) (s : Native) : Prop :=
  ∃ start, Starts simulated serving start ∧ Trail (Serves serving) log start s

end Rosbridge.Ros
