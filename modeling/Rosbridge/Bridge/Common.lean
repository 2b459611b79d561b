import Rosbridge.Bridge.State

/-!
Helpers that every handler of the bridge shares (`bridge/mod.rs`).

Owns: reading required fields, identifiers and names of a request; handing a
message to a connection; resolving an interface type; and goal keys.
-/

set_option autoImplicit false

namespace Rosbridge

open Foundation

/-- `required`: a nonempty string field. -/
def required (v : Json) (key : String) : Except Error String :=
  match (v.get key).bind Json.asStr with
  | some text =>
      if text = "" then .error ⟨key ++ " must be a nonempty string"⟩ else .ok text
  | none => .error ⟨key ++ " must be a nonempty string"⟩

/-- `id`: the optional identifier of a request. -/
def requestId (v : Json) : Except Error (Option String) :=
  match v.get "id" with
  | none => .ok none
  | some value =>
      match value.asStr with
      | some text => .ok (some text)
      | none => .error ⟨"id must be a string"⟩

/-- Every nonempty segment of a ROS name is made of name characters. -/
def validName (text : String) : Bool :=
  !text.toList.contains '~' &&
    (text.toList.splitOn '/').all fun segment => segment.all isNameChar

/-- `name`: a ROS name with a leading slash. -/
def name (v : Json) (key : String) : Except Error String := do
  let text ← required v key
  if validName text then
    if text.toList.head? = some '/' then return text else return "/" ++ text
  else .error ⟨"invalid ROS name"⟩

/-- The bytes of a goal identifier, in Base64 or as an array. -/
def uuidBytes (env : Environment) (v : Json) : Except Error (List UInt8) :=
  match (v.index "uuid").asStr with
  | some text => env.base64 text
  | none =>
      match (v.index "uuid").asArray with
      | none => .error ⟨"missing goal UUID"⟩
      | some items => items.mapM fun item =>
          match item.asU64 with
          | none => .error ⟨"invalid UUID byte"⟩
          | some byte =>
              if byte < 256 then .ok (UInt8.ofNat byte)
              else .error ⟨"out of range integral type conversion attempted"⟩

/-- `uuid_key`: the hexadecimal form of a goal identifier. -/
def uuidKey (env : Environment) (v : Json) : Except Error String := do
  let bytes ← uuidBytes env v
  if bytes.length = 16 then return String.ofList (bytes.flatMap hexByte)
  else .error ⟨"goal UUID must be 16 bytes"⟩

theorem uuidKey_clean {env : Environment} {v : Json} {key : String}
    (read : uuidKey env v = .ok key) : ':' ∉ key.toList := by
  unfold uuidKey at read
  cases bytes : uuidBytes env v with
  | error cause =>
      rw [bytes] at read
      cases read
  | ok bytes' =>
      rw [bytes] at read
      change (if bytes'.length = 16 then _ else _) = _ at read
      split at read
      · cases read
        rw [String.toList_ofList]
        exact not_mem_flatMap_hexByte _
      · cases read

/-- The JSON form of a goal identifier. -/
def uuidValue (bytes : List UInt8) : Json :=
  .obj [("uuid", .arr (bytes.map fun byte => .int byte.toNat))]

/-- `Bridge::unique`. -/
def unique : Step String := do
  update fun b => { b with next := b.next + 1 }
  return "rosbridge:" ++ toString (← tables).next

variable (env : Environment)

/-- `Output::send_request`: the queue's verdict on one message. -/
def sendRequest (output : Output) (operation : String) (topic : Option String) (queue : Nat)
    (request : EncodeRequest) : Step (Except SendError Unit) :=
  ask (fun log => env.sendRequest log output operation topic queue request)
    (.sendRequest output operation topic queue request)

/-- The message with the identifier of the request it answers. -/
def labelled (value : Object) : Option String → Object
  | some id => Object.set value "id" (.str id)
  | none => value

/-- `Bridge::send`. A refused message marks its connection as failed. -/
def send (owner : Connection) (value : Object) (id : Option String) (options : Options)
    (binary : Option Cbor) : Step Unit := do
  note (.handed owner (labelled value id) options)
  if owner ∈ (← tables).failed then pure ()
  else do
    let key ← unique
    match (← tables).outputs.lookup owner with
    | none => pure ()
    | some output => do
        let message := Json.obj (labelled value id)
        let operation := (message.index "op").asStr.getD ""
        let topic := if operation = "publish" then (message.index "topic").asStr else none
        let request := EncodeRequest.new message binary options key
        match ← sendRequest env output operation topic options.queue request with
        | .ok _ => pure ()
        | .error _ => update fun b => { b with failed := b.failed.insert owner }

/-- The reply to a request that failed. -/
def errorResponse (v : Json) (cause : Error) : Object :=
  match (v.index "op").asStr.getD "" with
  | "call_service" =>
      [ ("op", .str "service_response"),
        ("service", v.index "service"),
        ("result", .bool false),
        ("values", .str cause.message) ]
  | "send_action_goal" =>
      [ ("op", .str "action_result"),
        ("action", v.index "action"),
        ("result", .bool false),
        ("status", .int 6),
        ("values", .str cause.message) ]
  | _ =>
      [ ("op", .str "status"),
        ("level", .str "error"),
        ("msg", .str cause.message) ]

/-- The identifier to answer under, if the request has a usable one. -/
def errorId (v : Json) : Option String :=
  match requestId v with
  | .ok id => id
  | .error _ => none

/-- `Bridge::error`. -/
def error (owner : Connection) (v : Json) (cause : Error) : Step Unit :=
  send env owner (errorResponse v cause) (errorId v) {} none

/-- The type of an interface, from the request or from the graph. -/
def chosenType (graph : Graph) (v : Json) (key kind : String) : Except Error String := do
  let topic ← name v key
  match v.get "type" with
  | some value =>
      match value.asStr with
      | none => .error ⟨"type must be a string"⟩
      | some text => do
          let typ ← typeName text kind
          match graph.lookup topic with
          | some types =>
              if types.all fun other => other == typ then return typ
              else .error ⟨topic ++ " has another type: requested " ++ typ ++ ", ROS graph " ++
                debugTexts types⟩
          | none => return typ
  | none =>
      match graph.lookup topic with
      | none => .error ⟨"type is required when interface is absent from ROS graph"⟩
      | some [only] => return only
      | some _ => .error ⟨"interface has ambiguous types"⟩

/-- `Bridge::resolve`. -/
def resolve (v : Json) (key kind : String) : Step String := do
  let graph ← (if kind = "msg" then Backend.topics env else Backend.services env)
  chosenType graph v key kind

end Rosbridge
