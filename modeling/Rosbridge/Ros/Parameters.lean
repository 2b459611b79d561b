import Rosbridge.Ros.Node

/-!
The parameter requests of rosapi (`ros/parameters.rs`).

Owns: the requests that rosapi makes to the nodes, what it does with their answers, and
the reply to each parameter request.
-/

set_option autoImplicit false

namespace Rosbridge.Ros

open Foundation

/-- `text`: a string field, empty if there is none. -/
def text (v : Json) (key : String) : String := (v.index key).asStr.getD ""

/-- `value[place]` on a shared value: a missing element reads as null. -/
def element (v : Json) (place : Nat) : Json := (v.asArray.bind fun items => items[place]?).getD .null

/-! ### Values -/

/-- `parameter_json`. -/
def parameterJson (value : Json) : Json :=
  match (value.index "type").asU64.getD 0 with
  | 1 => value.index "bool_value"
  | 2 => value.index "integer_value"
  | 3 => value.index "double_value"
  | 4 => value.index "string_value"
  | 5 => value.index "byte_array_value"
  | 6 => value.index "bool_array_value"
  | 7 => value.index "integer_array_value"
  | 8 => value.index "double_array_value"
  | 9 => value.index "string_array_value"
  | _ => .null

def isNumber : Json → Bool
  | .num _ => true
  | _ => false

/-- `parameter_value`. -/
def parameterValue (value : Json) : Except Error Json :=
  let typed (typ : Int) (field : String) : Except Error Json :=
    .ok (.obj [("type", .int typ), (field, value)])
  match value with
  | .null => .ok (.obj [("type", .int 0)])
  | .bool _ => typed 1 "bool_value"
  | .num n => if (Json.num n).asI64.isSome then typed 2 "integer_value" else typed 3 "double_value"
  | .str _ => typed 4 "string_value"
  | .arr items =>
      if items.all fun item => item.asBool.isSome then typed 6 "bool_array_value"
      else if items.all fun item => item.asI64.isSome then typed 7 "integer_array_value"
      else if items.all isNumber then typed 8 "double_array_value"
      else if items.all fun item => item.asStr.isSome then typed 9 "string_array_value"
      else .error ⟨"parameter value must be a scalar or homogeneous array"⟩
  | .obj _ => .error ⟨"parameter value must be a scalar or homogeneous array"⟩

/-! ### Replies -/

section Handlers

variable (env : Middleware)

/-- The outcome fields of a reply, which Humble does not have. -/
def outcome (error : Option String) : Object :=
  if env.humble then []
  else [("successful", .bool error.isNone), ("reason", .str (error.getD ""))]

/-- The reply to a parameter request. -/
def groupResponse (group : Group) (value : Option Json) (error : Option String) : Json :=
  match group.op with
  | .getParamNames => .obj [("names", .arr (group.names.map Json.str))]
  | .hasParam =>
      let set := value.any fun v => (v.index "type").asU64.any fun t => 1 ≤ t && t ≤ 9
      .obj [("exists", .bool (error.isNone && set))]
  | .getParam =>
      let default :=
        match env.fromStr (text group.args "default_value") with
        | .ok parsed => parsed
        | .error _ => .str ""
      let result := if error.isNone then (value.map parameterJson).getD default else default
      .obj (("value", .str (env.toText result)) :: outcome env error)
  | _ => .obj (outcome env error)

/-- Stop waiting for a call to a node. -/
def forget (call : (Entity × Int) × Pending) : Action Unit := do
  changeApi fun a => { a with pending := a.pending.erase call.1 }
  destroy call.1.1

/-- Drop the calls of a group and reply to its request. -/
def closeGroup (id : Nat) (group : Group) (value : Option Json) (error : Option String) :
    Action Unit := do
  changeApi fun a => { a with groups := a.groups.erase id }
  let calls ← visit env (← api).pending
  Program.forEach (calls.filter fun call => call.2.group = id) forget
  respond env group.service group.request (groupResponse env group value error)

/-- `Api::finish`. -/
def finish (id : Nat) (value : Option Json) (error : Option String) : Action Unit := do
  match (← api).groups.lookup id with
  | none => Program.fail ⟨"missing parameter request"⟩
  | some group => closeGroup env id group value error

/-! ### Requests -/

/-- A request to a node. -/
structure NodeCall where
  node : String
  service : String
  typ : String
  payload : Json

/-- Ask a node for its parameters, if it has the service. -/
def listCall (graph : NameMap) (node : String) : Option NodeCall :=
  if graph.contains (node ++ "/list_parameters") then
    some ⟨node, node ++ "/list_parameters", "ListParameters",
      .obj [("prefixes", .arr []), ("depth", .int 0)]⟩
  else none

/-- The method, the type and the arguments that read or write a parameter. -/
def parameterPayload (op : Query) (args : Json) (name : String) :
    Except Error (String × String × Json) :=
  if op = .getParam ∨ op = .hasParam ∨ op = .deleteParam then
    .ok ("get_parameters", "GetParameters", .obj [("names", .arr [.str name])])
  else do
    let value ← env.fromStr (text args "value")
    let value ← parameterValue value
    return ("set_parameters", "SetParameters",
      .obj [("parameters", .arr [.obj [("name", .str name), ("value", value)]])])

/-- The request for one parameter. -/
def parameterCall (config : Access) (graph : NameMap) (op : Query) (args : Json) :
    Except Error NodeCall :=
  match splitOnce (text args "name") ':' with
  | none => .error ⟨"expected <node_name>:<param_name>"⟩
  | some (node, name) =>
      if onList config.params name then do
        let payload ← parameterPayload env op args name
        let node := "/" ++ trimStartMatches node '/'
        let service := node ++ "/" ++ payload.1
        if graph.contains service then return ⟨node, service, payload.2.1, payload.2.2⟩
        else .error ⟨"Service " ++ service ++ " is not available"⟩
      else .error ⟨"Parameter " ++ name ++ " does not match any of the glob strings"⟩

/-- The requests that serve a parameter request. -/
def nodeCalls (op : Query) (args : Json) : Action (List NodeCall) := do
  let graph ← services env
  if op = .getParamNames then
    return (← nodes env).filterMap (listCall graph)
  else do
    let call ← Program.ofExcept (parameterCall env (← api).config graph op args)
    return [call]

/-- A request on a new client, which is destroyed if the request fails. -/
def requestOn (service typ : String) (payload : Json) : Action (Entity × Except Error Int) := do
  let entity ← client env service typ
  match ← Program.attempt (request env entity payload) with
  | .ok sequence => return (entity, .ok sequence)
  | .error cause => do
      destroy entity
      return (entity, .error cause)

/-- Make one request and wait for its answer. -/
def issue (id : Nat) (op : Query) (call : NodeCall) : Action Unit := do
  let (entity, sequence) ←
    requestOn env call.service ("rcl_interfaces/srv/" ++ call.typ) call.payload
  let sequence ← Program.ofExcept sequence
  changeApi fun a =>
    { a with pending := a.pending.insert (entity, sequence) ⟨id, call.node, op = .deleteParam⟩ }
  let _ ← Program.unwrap "called `Option::unwrap()` on a `None` value" ((← api).groups.lookup id)
  changeApi fun a =>
    { a with groups := a.groups.alter id fun g => { g with remaining := g.remaining + 1 } }

/-- Reply at once, unless nodes were asked. -/
def conclude (id : Nat) : Except Error Unit → Action Unit
  | .error cause => finish env id none (some cause.message)
  | .ok _ => do
      let group ← Program.unwrap "no entry found for key" ((← api).groups.lookup id)
      Program.whenever (group.remaining = 0) (finish env id none none)

/-- `Api::parameter`. -/
def parameter (service : Entity) (id : Nat) (op : Query) (args : Json) : Action Unit := do
  let deadline ← after env (← api).parameterTimeout
  changeApi fun a =>
    { a with groups := a.groups.insert id ⟨service, id, op, args, 0, [], deadline⟩ }
  let result ← Program.attempt do
    let calls ← nodeCalls env op args
    Program.forEach calls (issue env id op)
  conclude env id result

/-! ### Answers -/

/-- A listed parameter exists. -/
def parameterExists (response : Json) : Bool :=
  ((response.index "values").asArray.bind List.head?).any fun v =>
    (v.index "type").asU64.any fun typ => 0 < typ

/-- Wait for the answer to the request that deletes a parameter. -/
def confirmDelete (pending : Pending) (request : Entity × Except Error Int) : Action Unit :=
  match request.2 with
  | .error cause => finish env pending.group none (some cause.message)
  | .ok sequence =>
      changeApi fun a =>
        { a with
          groups := a.groups.alter pending.group fun g => { g with remaining := g.remaining + 1 }
          pending := a.pending.insert (request.1, sequence) { pending with deleteCheck := false } }

/-- Delete the parameter that was found. -/
def deleteFound (pending : Pending) (group : Group) : Action Unit := do
  let parts ← Program.unwrap "called `Option::unwrap()` on a `None` value"
    (splitOnce (text group.args "name") ':')
  let request ← requestOn env (pending.node ++ "/set_parameters")
    "rcl_interfaces/srv/SetParameters"
    (.obj [("parameters",
      .arr [.obj [("name", .str parts.2), ("value", .obj [("type", .int 0)])]])])
  confirmDelete env pending request

/-- The names in the answer of a node that are on the list. -/
def listedNames (config : Access) (node : String) (response : Json) : List String :=
  match ((response.index "result").index "names").asArray with
  | none => []
  | some names =>
      ((names.filterMap Json.asStr).filter fun name => onList config.params name).map fun name =>
        node ++ ":" ++ name

/-- What an answer means for the request it belongs to. -/
def useAnswer (pending : Pending) (group : Group) (response : Json) : Action Unit :=
  if pending.deleteCheck then
    if parameterExists response then deleteFound env pending group
    else finish env pending.group none none
  else
    match group.op with
    | .getParamNames => do
        let config := (← api).config
        changeApi fun a =>
          { a with groups := a.groups.alter pending.group fun g =>
              { g with names := g.names ++ listedNames config pending.node response } }
        Program.whenever (group.remaining = 0) (finish env pending.group none none)
    | .getParam | .hasParam =>
        let value := (response.index "values").asArray.bind List.head?
        let error :=
          if value.all fun v => (v.index "type").eqInt 0 then some "Parameter not found" else none
        finish env pending.group value error
    | _ =>
        let result := element (response.index "results") 0
        let error := if (result.index "successful").eqBool true then none
          else some (text result "reason")
        finish env pending.group none error

/-- `Api::parameter_response`. -/
def parameterResponse (pending : Pending) (response : Json) : Action Unit := do
  let group ← Program.unwrap "called `Option::unwrap()` on a `None` value"
    ((← api).groups.lookup pending.group)
  if group.remaining = 0 then Program.panic "attempt to subtract with overflow"
  else do
    changeApi fun a =>
      { a with groups := a.groups.alter pending.group fun g =>
          { g with remaining := g.remaining - 1 } }
    useAnswer env pending { group with remaining := group.remaining - 1 } response

end Handlers

end Rosbridge.Ros
