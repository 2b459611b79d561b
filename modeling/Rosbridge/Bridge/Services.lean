import Rosbridge.Bridge.Common

/-!
Service advertisements, request correlation and responses (`bridge/services.rs`).

Payload previews for the log are not owned here.
-/

set_option autoImplicit false

namespace Rosbridge

open Foundation

/-- The timeout of a call: the client's own or the server's. -/
def callTimeout (standard : Duration) (v : Json) : Except Error Duration :=
  match v.get "timeout" with
  | none => .ok standard
  | some value =>
      match value.asF64 with
      | none => .error ⟨"timeout must be a number"⟩
      | some seconds => Duration.tryFromSecsF64 seconds

/-- The arguments of a request, an empty object by default. -/
def requestArgs (v : Json) : Json := (v.get "args").getD (.obj [])

/-- The identifier under which a native request is forwarded. -/
def externalId (service : String) (number : Nat) : String :=
  "service_request:" ++ service ++ ":" ++ toString number

variable (env : Environment)

/-- A request on a new client, which does not survive a refusal. -/
def requestOrDestroy (entity : Entity) (args : Json) : Step Int := do
  match ← Program.attempt (Backend.request env entity args) with
  | .ok sequence => return sequence
  | .error cause => do
      Backend.destroy entity
      Program.fail cause

/-- `Bridge::call_service`. -/
def callService (owner : Connection) (v : Json) : Step Unit := do
  let id ← requestId v
  let service ← name v "service"
  let options ← Options.parse v
  let typ ← resolve env v "service" "srv"
  (← tables).access.parameterService typ (v.index "args")
  let timeout ← callTimeout (← tables).timeout v
  let entity ← Backend.client env service typ
  let sequence ← requestOrDestroy env entity (requestArgs v)
  let expires ← after env timeout
  update fun b =>
    { b with
      calls := (b.calls.insert (entity, sequence)
        { parameterNames := typ = "rosapi_msgs/srv/GetParamNames"
          owner
          id
          service
          options
          expires }) }

/-- `Bridge::remove_service`. -/
def removeService (owner : Connection) (name : String) : Step Unit := do
  match (← tables).services.lookup name with
  | none => Program.fail ⟨"service is not advertised by this client"⟩
  | some service => do
      Program.ensure (service.owner = owner) ⟨"service is not advertised by this client"⟩
      update fun b => { b with services := b.services.erase name }
      Backend.destroy service.entity
      update fun b =>
        { b with
          external := (b.external.retain fun _ request => request.entity ≠ service.entity) }

/-- Create a service and record its owner. -/
def openService (owner : Connection) (service typ : String) : Step Unit := do
  let entity ← Backend.service env service typ
  update fun b =>
    { b with services := b.services.insert service { nextRequest := 0, owner, entity, typ } }

/-- `Bridge::advertise_service`. -/
def advertiseService (owner : Connection) (v : Json) : Step Unit := do
  let service ← name v "service"
  let typ ← typeName (← required v "type") "srv"
  (← tables).access.advertiseService typ
  match (← tables).services.lookup service with
  | none => openService env owner service typ
  | some current => do
      Program.ensure (current.owner = owner) ⟨"service is advertised by another client"⟩
      if current.typ = typ then return ()
      else do
        removeService owner service
        openService env owner service typ

/-- `Bridge::service_response`. -/
def serviceResponse (owner : Connection) (v : Json) : Step Unit := do
  let id ← required v "id"
  let service ← name v "service"
  match (← tables).external.lookup id with
  | none => Program.fail ⟨"unknown service request id"⟩
  | some request => do
      Program.ensure (request.owner = owner && request.service = service)
        ⟨"service response does not belong to this client"⟩
      match (v.index "result").asBool with
      | none => Program.fail ⟨"result must be boolean"⟩
      | some result => do
          Program.ensure result
            ⟨"ROS services cannot carry an error response; request will time out"⟩
          Backend.respond env request.entity request.request (v.index "values")
          update fun b => { b with external := b.external.erase id }

/-- The call a client receives for a native request. -/
def externalCall (service : String) (args : Json) : Object :=
  [("op", .str "call_service"), ("service", .str service), ("args", args)]

/-- Forward a native request to the client that advertises the service. -/
def forwardRequest (service : String) (current : Service) (entity : Entity) (request : Nat)
    (args : Json) : Step Unit := do
  update fun b =>
    { b with
      services := (b.services.alter service fun current =>
        { current with nextRequest := current.nextRequest + 1 }) }
  let id := externalId service (current.nextRequest + 1)
  let expires ← after env (← tables).timeout
  update fun b =>
    { b with
      external := (b.external.insert id
        { owner := current.owner, entity, request, service, expires }) }
  send env current.owner (externalCall service args) (some id) {} none

end Rosbridge
