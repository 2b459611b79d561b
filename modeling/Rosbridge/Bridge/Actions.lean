import Rosbridge.Bridge.Services

/-!
ROS action goals of clients and action servers of clients (`bridge/actions.rs`).
-/

set_option autoImplicit false

namespace Rosbridge

open Foundation

/-- The entities of a client goal, in the order `finish_goal` destroys them. -/
def ClientGoal.entities (goal : ClientGoal) : List Entity :=
  [goal.send, goal.result, goal.cancel, goal.feedbackSub, goal.statusSub]

/-- The entities of an action server, in the order `remove_action` destroys them. -/
def ActionServer.entities (server : ActionServer) : List Entity :=
  [server.send, server.result, server.cancel, server.feedback, server.status]

/-- The request that asks for the result of a goal. -/
def resultArgs (uuid : Json) : Json := .obj [("goal_id", uuid)]

/-- The request that cancels one goal. -/
def cancelArgs (uuid : Json) : Json :=
  .obj [("goal_info", .obj [("goal_id", uuid),
    ("stamp", .obj [("sec", .int 0), ("nanosec", .int 0)])])]

/-- A `GetResult` reply. -/
def resultReply (status : Int) (values : Json) : Json :=
  .obj [("status", .int status), ("result", values)]

/-- A `SendGoal` reply. -/
def acceptReply (accepted : Bool) (stamp : Json) : Json :=
  .obj [("accepted", .bool accepted), ("stamp", stamp)]

/-- The message that ends a client goal. -/
def resultMessage (goal : ClientGoal) (values : Json) (status : Int) (success : Bool) : Object :=
  [ ("op", .str "action_result"),
    ("action", .str goal.action),
    ("values", values),
    ("status", .int status),
    ("result", .bool success) ]

/-- The goal identifier's key among the goals of all action servers. -/
def serverGoalKey (action uuid : String) : String := action ++ ":" ++ uuid

variable (env : Environment)

/-- Destroy entities one after the other. -/
def destroyAll (entities : List Entity) : Step Unit :=
  Program.forEach entities Backend.destroy

/-- Run one step of a construction. If it fails, destroy what was created before. -/
def orRelease {α : Type} (created : List Entity) (step : Step α) : Step α := do
  match ← Program.attempt step with
  | .ok value => return value
  | .error cause => do
      destroyAll created
      Program.fail cause

/-! ### Client goals -/

/-- Whether a request asks for feedback. -/
def wantsFeedback (v : Json) : Except Error Bool :=
  match v.get "feedback" with
  | none => .ok false
  | some value =>
      match value.asBool with
      | some feedback => .ok feedback
      | none => .error ⟨"feedback must be boolean"⟩

/-- The entities of a new goal and the sequence number of its `SendGoal` request. -/
structure OpenedGoal where
  send : Entity
  result : Entity
  cancel : Entity
  feedbackSub : Entity
  statusSub : Entity
  sequence : Int

/-- Create the entities of a goal and send it. -/
def openGoal (action typ : String) (uuid args : Json) : Step OpenedGoal := do
  let send ← Backend.client env (action ++ "/_action/send_goal") (typ ++ "_SendGoal")
  let result ← orRelease [send]
    (Backend.client env (action ++ "/_action/get_result") (typ ++ "_GetResult"))
  let cancel ← orRelease [send, result]
    (Backend.client env (action ++ "/_action/cancel_goal") "action_msgs/srv/CancelGoal")
  let feedbackSub ← orRelease [send, result, cancel]
    (Backend.subscription env (action ++ "/_action/feedback") (typ ++ "_FeedbackMessage")
      Qos.service)
  let statusSub ← orRelease [send, result, cancel, feedbackSub]
    (Backend.subscription env (action ++ "/_action/status") "action_msgs/msg/GoalStatusArray"
      { Qos.service with durability := 1 })
  let sequence ← orRelease [send, result, cancel, feedbackSub, statusSub]
    (Backend.request env send (.obj [("goal_id", uuid), ("goal", args)]))
  return { send, result, cancel, feedbackSub, statusSub, sequence }

/-- `Bridge::send_goal`. -/
def sendGoal (owner : Connection) (v : Json) : Step Unit := do
  let action ← name v "action"
  let typ ← typeName (← required v "action_type") "action"
  let id ← requestId v
  let options ← Options.parse v
  Program.ensure
    (!(← tables).goals.entries.any fun entry =>
      entry.2.owner = owner && entry.2.action = action && entry.2.id = id)
    ⟨"goal id is already active"⟩
  let feedback ← wantsFeedback v
  let fresh ← ask env.uuid .uuid
  let uuid := uuidValue fresh.bytes
  let key ← uuidKey env uuid
  let opened ← openGoal env action typ uuid (requestArgs v)
  update fun b =>
    { b with
      actionCalls := b.actionCalls.insert (opened.send, opened.sequence) (.send key) }
  let acceptanceDeadline ← after env (← tables).timeout
  update fun b =>
    { b with
      goals := (b.goals.insert key
        { owner, id, action, uuid, feedback, options
          send := opened.send
          result := opened.result
          cancel := opened.cancel
          feedbackSub := opened.feedbackSub
          statusSub := opened.statusSub
          accepted := false
          acceptanceDeadline
          cancelling := false }) }

/-- `Bridge::cancel_goal`. -/
def cancelGoal (owner : Connection) (v : Json) : Step Unit := do
  let action ← name v "action"
  let id ← required v "id"
  let goals ← visit env (← tables).goals
  match goals.find? fun entry =>
      entry.2.owner = owner && entry.2.action = action && entry.2.id = some id with
  | none => Program.fail ⟨"unknown active goal"⟩
  | some (key, goal) => do
      Program.ensure (!goal.cancelling) ⟨"goal cancellation is already in progress"⟩
      Program.ensure goal.accepted ⟨"goal is not accepted yet"⟩
      let sequence ← Backend.request env goal.cancel (cancelArgs goal.uuid)
      update fun b =>
        { b with
          goals := b.goals.alter key fun goal => { goal with cancelling := true }
          actionCalls := b.actionCalls.insert (goal.cancel, sequence) (.cancel key) }

/-- `Bridge::finish_goal`. -/
def finishGoal (key : String) (values : Json) (status : Int) (success : Bool) : Step Unit := do
  match (← tables).goals.lookup key with
  | none => return ()
  | some goal => do
      update fun b => { b with goals := b.goals.erase key }
      send env goal.owner (resultMessage goal values status success) goal.id goal.options none
      destroyAll goal.entities
      update fun b =>
        { b with actionCalls := b.actionCalls.retain fun _ call => call.goal ≠ key }

/-! ### Action servers -/

/-- `remove_action`, once the server is known to be the client's. -/
def closeAction (action : String) (server : ActionServer) : Step Unit := do
  let goals ← visit env (← tables).serverGoals
  Program.forEach (goals.filter fun entry => entry.2.action = action) fun entry => do
    update fun b => { b with serverGoals := b.serverGoals.erase entry.1 }
    Program.forEach entry.2.requests fun request => do
      let _ ← Program.attempt
        (Backend.respond env request.1 request.2 (resultReply 6 (.obj [])))
  update fun b => { b with actionServers := b.actionServers.erase action }
  destroyAll server.entities

/-- `Bridge::remove_action`. -/
def removeAction (owner : Connection) (action : String) : Step Unit := do
  match (← tables).actionServers.lookup action with
  | none => Program.fail ⟨"action is not advertised by this client"⟩
  | some server => do
      Program.ensure (server.owner = owner) ⟨"action is not advertised by this client"⟩
      closeAction env action server

/-- Create the entities of an action server and record it. -/
def openAction (owner : Connection) (action typ : String) (v : Json) : Step Unit := do
  let send ← Backend.service env (action ++ "/_action/send_goal") (typ ++ "_SendGoal")
  let result ← orRelease [send]
    (Backend.service env (action ++ "/_action/get_result") (typ ++ "_GetResult"))
  let cancel ← orRelease [send, result]
    (Backend.service env (action ++ "/_action/cancel_goal") "action_msgs/srv/CancelGoal")
  let feedback ← orRelease [send, result, cancel]
    (Backend.publisher env (action ++ "/_action/feedback") (typ ++ "_FeedbackMessage")
      Qos.service)
  let status ← orRelease [send, result, cancel, feedback]
    (Backend.publisher env (action ++ "/_action/status") "action_msgs/msg/GoalStatusArray"
      { Qos.service with durability := 1, depth := 1 })
  let advertisedType ← orRelease [send, result, cancel, feedback, status]
    (Program.ofExcept (required v "type"))
  update fun b =>
    { b with
      actionServers := (b.actionServers.insert action
        { owner, advertisedType, typ, send, cancel, result, feedback, status }) }

/-- `Bridge::advertise_action`. -/
def advertiseAction (owner : Connection) (v : Json) : Step Unit := do
  let action ← name v "action"
  let typ ← typeName (← required v "type") "action"
  match (← tables).actionServers.lookup action with
  | none => openAction env owner action typ v
  | some current => do
      Program.ensure (current.owner = owner) ⟨"action is advertised by another client"⟩
      if current.typ = typ then return ()
      else do
        removeAction env owner action
        openAction env owner action typ v

/-- The goal of an action server that a client's message is about. -/
def ownServerGoal (owner : Connection) (id action : String)
    (goals : List (String × ServerGoal)) : Option (String × ServerGoal) :=
  goals.find? fun entry =>
    entry.2.owner = owner && entry.2.id = id && entry.2.action = action

/-- `self.action_servers[action]`, which panics on an unknown action. -/
def actionServer (action : String) : Step ActionServer := do
  Program.unwrap "action_servers" ((← tables).actionServers.lookup action)

/-- `Bridge::publish_status`. -/
def publishStatus (action : String) : Step Unit := do
  let goals ← visit env (← tables).serverGoals
  let list := (goals.filter fun entry => entry.2.action = action).map fun entry =>
    Json.obj [ ("goal_info", .obj [("goal_id", entry.2.uuid), ("stamp", entry.2.stamp)]),
      ("status", .int entry.2.status) ]
  let server ← actionServer action
  Backend.publish env server.status (.obj [("status_list", .arr list)])

/-- `Bridge::action_feedback`. -/
def actionFeedback (owner : Connection) (v : Json) : Step Unit := do
  let id ← required v "id"
  let action ← name v "action"
  let goals ← visit env (← tables).serverGoals
  match ownServerGoal owner id action goals with
  | none => Program.fail ⟨"unknown goal"⟩
  | some (_, goal) => do
      Program.ensure goal.result.isNone ⟨"goal has completed"⟩
      Program.ensure (v.index "values").isObject ⟨"feedback values must be an object"⟩
      let server ← actionServer action
      Backend.publish env server.feedback
        (.obj [("goal_id", goal.uuid), ("feedback", v.index "values")])

/-- The status and the values a client reports for a goal. -/
def reportedResult (v : Json) : Except Error (Int × Json) :=
  match (v.index "status").asI64 with
  | none => .error ⟨"status must be an integer"⟩
  | some status =>
      if 4 ≤ status ∧ status ≤ 6 then
        match (v.index "result").asBool with
        | none => .error ⟨"result must be boolean"⟩
        | some true =>
            if (v.index "values").isObject then .ok (status, v.index "values")
            else .error ⟨"values must be an object"⟩
        | some false => .ok (status, .obj [])
      else .error ⟨"result requires terminal action status (4,5,6)"⟩

/-- Answer the parked requests of a goal, the latest first. -/
def answerParked (key : String) (requests : List (Entity × Nat)) (reply : Json) : Step Unit :=
  Program.forEach requests.reverse fun request => do
    Backend.respond env request.1 request.2 reply
    -- The native request is consumed even if a later reply fails.
    update fun b =>
      { b with
        serverGoals := (b.serverGoals.alter key fun goal =>
          { goal with requests := goal.requests.dropLast }) }

/-- `Bridge::action_result`. -/
def actionResult (owner : Connection) (v : Json) : Step Unit := do
  let id ← required v "id"
  let action ← name v "action"
  let goals ← visit env (← tables).serverGoals
  match ownServerGoal owner id action goals with
  | none => Program.fail ⟨"unknown goal"⟩
  | some (key, goal) => do
      Program.ensure goal.result.isNone ⟨"goal has completed"⟩
      let (status, values) ← reportedResult v
      let reply := resultReply status values
      -- A result may arrive before any GetResult request. Validate before caching it.
      let server ← actionServer action
      Backend.validateResponse env server.result reply
      answerParked env key goal.requests reply
      let completed ← instant env
      update fun b =>
        { b with
          serverGoals := (b.serverGoals.alter key fun goal =>
            { goal with status, result := some values, completed := some completed }) }
      publishStatus env action

/-! ### Native requests of action servers -/

/-- A new goal of an action server. -/
def ServerGoal.accepted (owner : Connection) (action id : String) (uuid stamp : Json) :
    ServerGoal where
  owner := owner
  action := action
  id := id
  uuid := uuid
  status := 2
  stamp := stamp
  result := none
  requests := []
  completed := none

/-- The message that announces a new goal to the client that serves it. -/
def goalMessage (action typ : String) (args : Json) : Object :=
  [ ("op", .str "send_action_goal"),
    ("action", .str action),
    ("action_type", .str typ),
    ("args", args.index "goal"),
    ("feedback", .bool true) ]

/-- A `SendGoal` request. -/
def goalRequest (action : String) (server : ActionServer) (entity : Entity) (request : Nat)
    (args : Json) : Step Unit := do
  let uuid := args.index "goal_id"
  let key := serverGoalKey action (← uuidKey env uuid)
  let now ← Backend.now env
  let stamp := Json.obj [("sec", .int now.1), ("nanosec", .int now.2)]
  if key ∈ (← tables).serverGoals then
    Backend.respond env entity request (acceptReply false stamp)
  else do
    let id ← unique
    Backend.respond env entity request (acceptReply true stamp)
    update fun b =>
      { b with
        serverGoals := b.serverGoals.insert key (.accepted server.owner action id uuid stamp) }
    send env server.owner (goalMessage action server.advertisedType args) (some id) {} none
    publishStatus env action

/-- A `GetResult` request. -/
def resultRequest (action : String) (entity : Entity) (request : Nat) (args : Json) :
    Step Unit := do
  let key := serverGoalKey action (← uuidKey env (args.index "goal_id"))
  match (← tables).serverGoals.lookup key with
  | none => Backend.respond env entity request (resultReply 0 (.obj []))
  | some goal =>
      match goal.result with
      | some values => Backend.respond env entity request (resultReply goal.status values)
      | none =>
          update fun b =>
            { b with
              serverGoals := (b.serverGoals.alter key fun goal =>
                { goal with requests := goal.requests ++ [(entity, request)] }) }

/-- What a cancel request has found so far. -/
structure CancelScan where
  cancelling : List Json := []
  notify : List String := []
  known : Bool := false
  terminal : Bool := false

/-- The seconds and nanoseconds of a stamp, zero where absent. -/
def stampOf (stamp : Json) : Int × Nat :=
  (((stamp.index "sec").asI64).getD 0, ((stamp.index "nanosec").asU64).getD 0)

/-- The lexicographic order of stamps. -/
def notAfter (left right : Int × Nat) : Bool :=
  left.1 < right.1 || (left.1 = right.1 && left.2 ≤ right.2)

/-- The identifier that names no goal in particular. -/
def zeroUuid : String := "00000000000000000000000000000000"

/-- Compare one goal with a cancel request, and mark it when it is to be cancelled. -/
def scanGoal (requested : String) (stamp : Int × Nat) (scan : CancelScan)
    (entry : String × ServerGoal) : Step CancelScan := do
  let exact := decide ((← uuidKey env entry.2.uuid) = requested)
  let known := scan.known || exact
  let terminal := if exact then entry.2.result.isSome else scan.terminal
  let earlier : Bool := notAfter (stampOf entry.2.stamp) stamp
  let all : Bool := requested = zeroUuid
  if entry.2.result.isNone &&
      (exact || (all && stamp = (0, 0)) || (stamp ≠ (0, 0) && earlier)) then do
    update fun b =>
      { b with
        serverGoals := b.serverGoals.alter entry.1 fun goal => { goal with status := 3 } }
    let cancelling := scan.cancelling ++
      [.obj [("goal_id", entry.2.uuid), ("stamp", entry.2.stamp)]]
    let notify := scan.notify ++ [entry.2.id]
    return { cancelling, notify, known, terminal }
  else return { scan with known, terminal }

/-- The return code of a cancel request. -/
def CancelScan.code (scan : CancelScan) (requested : String) : Int :=
  if !scan.cancelling.isEmpty || requested = zeroUuid then 0
  else if scan.terminal then 3
  else if !scan.known then 2
  else 1

/-- A `CancelGoal` request. -/
def cancelRequest (action : String) (server : ActionServer) (entity : Entity) (request : Nat)
    (args : Json) : Step Unit := do
  let requested ← uuidKey env ((args.index "goal_info").index "goal_id")
  let stamp := stampOf ((args.index "goal_info").index "stamp")
  let goals ← visit env (← tables).serverGoals
  let scan ← Program.foldEach (goals.filter fun entry => entry.2.action = action) {}
    (scanGoal env requested stamp)
  Backend.respond env entity request
    (.obj [("return_code", .int (scan.code requested)),
      ("goals_canceling", .arr scan.cancelling)])
  Program.forEach scan.notify fun id =>
    send env server.owner [("op", .str "cancel_action_goal"), ("action", .str action)] (some id)
      {} none
  publishStatus env action

/-- A request for one of the services of an action server. -/
def serverRequest (action : String) (server : ActionServer) (entity : Entity) (request : Nat)
    (args : Json) : Step Unit :=
  if entity = server.send then goalRequest env action server entity request args
  else if entity = server.result then resultRequest env action entity request args
  else cancelRequest env action server entity request args

/-- `Bridge::action_request`: whether the request was for an action server. -/
def actionRequest (entity : Entity) (request : Nat) (args : Json) : Step Bool := do
  let servers ← visit env (← tables).actionServers
  match servers.find? fun entry =>
      [entry.2.send, entry.2.cancel, entry.2.result].contains entity with
  | none => return false
  | some (action, server) => do
      serverRequest env action server entity request args
      return true

/-- `Bridge::service_request`. -/
def serviceRequest (entity : Entity) (request : Nat) (args : Json) : Step Unit := do
  if ← actionRequest env entity request args then return ()
  else do
    let services ← visit env (← tables).services
    match services.find? fun entry => entry.2.entity == entity with
    | none => return ()
    | some (service, current) => forwardRequest env service current entity request args

end Rosbridge
