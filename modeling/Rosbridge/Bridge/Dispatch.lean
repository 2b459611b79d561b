import Rosbridge.Bridge.Actions
import Rosbridge.Bridge.Topics

/-!
Protocol dispatch, event processing and cleanup (`bridge/mod.rs`).

Owns: `command`, `response`, `tick`, `nextWakeup`, `disconnect` and `shutdown`;
the `Operation`s the server performs on a bridge; and the machines they reach.
-/

set_option autoImplicit false

namespace Rosbridge

open Foundation

/-! ### Commands -/

/-- The allowlist check that precedes an operation. -/
def checkAccess (access : Access) (op : String) (v : Json) : Except Error Unit :=
  match op with
  | "advertise" | "publish" => do access.topic (← name v "topic") true
  | "subscribe" => do access.topic (← name v "topic") false
  | "call_service" | "advertise_service" => do access.service (← name v "service")
  | "send_action_goal" => do access.action (← name v "action") false
  | "advertise_action" => do access.action (← name v "action") true
  | _ => .ok ()

variable (env : Environment)

/-- The `publish` operation. -/
def publish (owner : Connection) (v : Json) : Step Unit := do
  let topic ← name v "topic"
  Program.ensure (v.index "msg").isObject ⟨"msg must be an object"⟩
  advertise env owner v
  let publisher ← Program.unwrap "publishers" ((← tables).publishers.lookup topic)
  Backend.publish env publisher.entity (v.index "msg")

/-- Perform one operation by name. -/
def operate (owner : Connection) (op : String) (v : Json) : Step Unit :=
  match op with
  | "advertise" => advertise env owner v
  | "unadvertise" => do unadvertise owner (← name v "topic") (← requestId v)
  | "publish" => publish env owner v
  | "subscribe" => subscribe env owner v
  | "unsubscribe" => do unsubscribe owner (← name v "topic") (← requestId v)
  | "call_service" => callService env owner v
  | "advertise_service" => advertiseService env owner v
  | "unadvertise_service" => do removeService owner (← name v "service")
  | "service_response" => serviceResponse env owner v
  | "send_action_goal" => sendGoal env owner v
  | "cancel_action_goal" => cancelGoal env owner v
  | "advertise_action" => advertiseAction env owner v
  | "unadvertise_action" => do removeAction env owner (← name v "action")
  | "action_feedback" => actionFeedback env owner v
  | "action_result" => actionResult env owner v
  | other => Program.fail ⟨"unknown operation: " ++ other⟩

/-- `Bridge::execute`. -/
def execute (owner : Connection) (v : Json) : Step Unit := do
  let _ ← requestId v
  let op ← required v "op"
  checkAccess (← tables).access op v
  operate env owner op v

/-- `Bridge::command`. Commands queued when a socket closes do nothing. -/
def command (owner : Connection) (v : Json) : Step Unit := do
  if owner ∈ (← tables).outputs then do
    match ← Program.attempt (execute env owner v) with
    | .ok _ => return ()
    | .error cause => error env owner v cause
  else return ()

/-! ### Responses -/

/-- Whether a full parameter name is on the allowlist. -/
def namesAllowed (access : Access) (value : Json) : Bool :=
  match value.asStr.bind fun full => splitOnce full ':' with
  | some (_, name) => onList access.params name
  | none => false

/-- Filter `values["names"]` in place. Indexing for writing inserts a missing
field, turns null into an object and panics on any other kind of value. -/
def filterNames (access : Access) : Json → Option Json
  | .null => some (.obj [("names", .null)])
  | .obj fields =>
      match fields.lookup "names" with
      | none => some (.obj (Object.set fields "names" .null))
      | some (.arr names) =>
          some (.obj (Object.set fields "names" (.arr (names.filter (namesAllowed access)))))
      | some _ => some (.obj fields)
  | _ => none

/-- The values of a response as its client may see them. -/
def visibleValues (access : Access) (call : Call) (values : Json) : Option Json :=
  if call.parameterNames && access.params.isSome then filterNames access values
  else some values

/-- The message that answers a service call. -/
def serviceMessage (call : Call) (values : Json) : Object :=
  [ ("op", .str "service_response"),
    ("service", .str call.service),
    ("result", .bool true),
    ("values", values) ]

/-- The message that ends a service call without an answer. -/
def timeoutMessage (call : Call) : Object :=
  [ ("op", .str "service_response"),
    ("service", .str call.service),
    ("values", .str "Timeout exceeded while waiting for service response"),
    ("result", .bool false) ]

/-- The message that reports a rejected cancellation. -/
def rejectedMessage : Object :=
  [ ("op", .str "status"),
    ("level", .str "error"),
    ("msg", .str "action cancellation rejected") ]

/-- A response to a service call of a client. -/
def callResponse (entity : Entity) (sequence : Int) (call : Call) (values : Json) :
    Step Unit := do
  update fun b => { b with calls := b.calls.erase (entity, sequence) }
  let values ← Program.unwrap "cannot access key in JSON"
    (visibleValues (← tables).access call values)
  send env call.owner (serviceMessage call values) call.id call.options none
  Backend.destroy entity

/-- A response to the `SendGoal` request of a goal. -/
def sendResponse (key : String) (values : Json) : Step Unit := do
  if (values.index "accepted").eqBool true then
    match (← tables).goals.lookup key with
    | none => return ()
    | some goal => do
        update fun b =>
          { b with goals := b.goals.alter key fun goal => { goal with accepted := true } }
        let sequence ← Backend.request env goal.result (resultArgs goal.uuid)
        update fun b =>
          { b with actionCalls := b.actionCalls.insert (goal.result, sequence) (.result key) }
  else finishGoal env key (.str "goal rejected") 6 false

/-- A response to the `GetResult` request of a goal. -/
def resultResponse (key : String) (values : Json) : Step Unit :=
  let status := ((values.index "status").asI64).getD 0
  finishGoal env key (values.index "result") status (status = 4)

/-- A response to the `CancelGoal` request of a goal. -/
def cancelResponse (key : String) (values : Json) : Step Unit := do
  if (values.index "return_code").eqInt 0 then return ()
  else
    match (← tables).goals.lookup key with
    | none => return ()
    | some goal => do
        update fun b =>
          { b with goals := b.goals.alter key fun goal => { goal with cancelling := false } }
        send env goal.owner rejectedMessage goal.id {} none

/-- A response to a request of a goal. -/
def actionResponse (entity : Entity) (sequence : Int) (call : ActionCall) (values : Json) :
    Step Unit := do
  update fun b => { b with actionCalls := b.actionCalls.erase (entity, sequence) }
  match call with
  | .send key => sendResponse env key values
  | .result key => resultResponse env key values
  | .cancel key => cancelResponse env key values

/-- `Bridge::response`. -/
def response (entity : Entity) (sequence : Int) (values : Json) : Step Unit := do
  match (← tables).calls.lookup (entity, sequence) with
  | some call => callResponse env entity sequence call values
  | none =>
      match (← tables).actionCalls.lookup (entity, sequence) with
      | some call => actionResponse env entity sequence call values
      | none => return ()

/-! ### Cleanup -/

/-- Cancel a goal whose client is gone, if it has been accepted. -/
def cancelAbandoned (key : String) : Step Unit := do
  match (← tables).goals.lookup key with
  | none => return ()
  | some goal =>
      if goal.accepted then do
        let _ ← Program.attempt (Backend.request env goal.cancel (cancelArgs goal.uuid))
      else return ()

/-- Release every topic publisher of a connection. -/
def releasePublishers (owner : Connection) : Step Unit := do
  let publishers ← visit env (← tables).publishers
  Program.forEach (publishers.filter fun entry => owner ∈ entry.2.owners) fun entry => do
    let _ ← Program.attempt (unadvertise owner entry.1 none)

/-- Release every subscription of a connection. -/
def releaseSubscriptions (owner : Connection) : Step Unit := do
  let subscriptions ← visit env (← tables).subscriptions
  Program.forEach (subscriptions.filter fun entry => owner ∈ entry.2.clients) fun entry => do
    let _ ← Program.attempt (unsubscribe owner entry.1 none)

/-- Remove every service of a connection. -/
def releaseServices (owner : Connection) : Step Unit := do
  let services ← visit env (← tables).services
  Program.forEach (services.filter fun entry => entry.2.owner = owner) fun entry => do
    let _ ← Program.attempt (removeService owner entry.1)

/-- Remove every action server of a connection. -/
def releaseActions (owner : Connection) : Step Unit := do
  let servers ← visit env (← tables).actionServers
  Program.forEach (servers.filter fun entry => entry.2.owner = owner) fun entry => do
    let _ ← Program.attempt (removeAction env owner entry.1)

/-- Finish every goal of a connection. -/
def releaseGoals (owner : Connection) : Step Unit := do
  let goals ← visit env (← tables).goals
  Program.forEach (goals.filter fun entry => entry.2.owner = owner) fun entry => do
    cancelAbandoned env entry.1
    finishGoal env entry.1 (.str "client disconnected") 6 false

/-- Drop every outstanding call of a connection. -/
def releaseCalls (owner : Connection) : Step Unit := do
  let calls ← visit env (← tables).calls
  Program.forEach (calls.filter fun entry => entry.2.owner = owner) fun entry => do
    update fun b => { b with calls := b.calls.erase entry.1 }
    Backend.destroy entry.1.1

/-- `Bridge::disconnect`. -/
def disconnect (owner : Connection) : Step Unit := do
  update fun b => { b with outputs := b.outputs.erase owner }
  releasePublishers env owner
  releaseSubscriptions env owner
  releaseServices env owner
  releaseActions env owner
  releaseGoals env owner
  releaseCalls env owner
  update fun b =>
    { b with external := b.external.retain fun _ request => request.owner ≠ owner }

/-- `Bridge::shutdown`. -/
def shutdown : Step Unit := do
  let outputs ← visit env (← tables).outputs
  Program.forEach outputs fun entry => disconnect env entry.1

/-! ### Ticks -/

/-- Handle one native request. What its handler leaves unanswered is discarded. -/
def requestEvent (entity : Entity) (request : Nat) (args : Json) : Step Unit := do
  match ← Program.attempt (serviceRequest env entity request args) with
  | .ok _ => return ()
  | .error _ => Backend.discardRequest entity request

/-- Handle one event. An error is only logged. -/
def handleEvent (event : Event) : Step Unit :=
  match event with
  | .message entity sample => do let _ ← Program.attempt (topicMessage env entity sample)
  | .response entity sequence values => do
      let _ ← Program.attempt (response env entity sequence values)
  | .request entity request args => requestEvent env entity request args

/-- Finish the goals that were not accepted in time. -/
def expireGoals (now : Instant) : Step Unit := do
  let goals ← visit env (← tables).goals
  Program.forEach
    (goals.filter fun entry => !entry.2.accepted && entry.2.acceptanceDeadline ≤ now)
    fun entry => finishGoal env entry.1 (.obj []) 6 false

/-- Take the oldest queued sample of a client whose throttle has passed. -/
def popPending (now : Instant) (topic : String) (deliveries : List Delivery)
    (entry : Connection × ClientSubscription) : Step (List Delivery) := do
  let (owner, client) := entry
  let options := client.options
  let due := client.last.all fun last => Instant.since now last ≥ options.throttle
  match if due then client.pending else [] with
  | [] => return deliveries
  | sample :: rest => do
      update (Bridge.alterClient topic owner fun client =>
        { client with pending := rest, last := some now })
      return deliveries ++ [{ owner, topic, sample, options }]

/-- Take queued samples of one subscription. -/
def popTopic (now : Instant) (deliveries : List Delivery) (entry : String × Subscription) :
    Step (List Delivery) := do
  let clients ← visit env entry.2.clients
  Program.foldEach clients deliveries (popPending now entry.1)

/-- Deliver the queued samples whose throttle has passed. -/
def deliverPending (now : Instant) : Step Unit := do
  let subscriptions ← visit env (← tables).subscriptions
  let deliveries ← Program.foldEach subscriptions [] (popTopic env now)
  deliverAll env deliveries

/-- End the calls that were not answered in time. -/
def expireCalls (now : Instant) : Step Unit := do
  let calls ← visit env (← tables).calls
  Program.forEach (calls.filter fun entry => entry.2.expires ≤ now) fun entry => do
    let call ← Program.unwrap "calls" ((← tables).calls.lookup entry.1)
    update fun b => { b with calls := b.calls.erase entry.1 }
    send env call.owner (timeoutMessage call) call.id call.options none
    Backend.destroy entry.1.1

/-- Drop the native requests that were not answered in time. -/
def expireExternal (now : Instant) : Step Unit := do
  let external ← visit env (← tables).external
  Program.forEach (external.filter fun entry => entry.2.expires ≤ now) fun entry => do
    let request ← Program.unwrap "external" ((← tables).external.lookup entry.1)
    update fun b => { b with external := b.external.erase entry.1 }
    Backend.discardRequest request.entity request.request

/-- How long a completed goal of an action server is kept. -/
def goalRetention : Duration := Duration.fromSecs 60

/-- Forget the goals of action servers that completed long ago. -/
def forgetGoals : Step Unit := do
  let goals ← visit env (← tables).serverGoals
  Program.forEach goals fun entry => do
    match entry.2.completed with
    | none => return ()
    | some completed => do
        let now ← instant env
        if Instant.since now completed < goalRetention then return ()
        else update fun b => { b with serverGoals := b.serverGoals.erase entry.1 }

/-- Disconnect the connections whose queue refused a message. -/
def dropFailed : Step Unit := do
  let code ← ask env.order .order
  let failed := permute code (← tables).failed
  update fun b => { b with failed := [] }
  Program.forEach failed (disconnect env)

/-- The connections among these entries whose queue is closed. -/
def closedOutputs : List (Connection × Output) → Step (List Connection)
  | [] => return []
  | entry :: rest => do
      let closed ← ask (fun log => env.isClosed log entry.2) (.isClosed entry.2)
      let others ← closedOutputs rest
      return if closed then entry.1 :: others else others

/-- Disconnect the connections whose queue is closed. -/
def dropClosed : Step Unit := do
  let outputs ← visit env (← tables).outputs
  let closed ← closedOutputs env outputs
  Program.forEach closed (disconnect env)

/-- `Bridge::tick`. -/
def tick : Step Unit := do
  let events ← Backend.poll env
  Program.forEach events (handleEvent env)
  let now ← instant env
  expireGoals env now
  deliverPending env now
  expireCalls env now
  expireExternal env now
  forgetGoals env
  dropFailed env
  dropClosed env

/-- `Bridge::next_wakeup`. -/
def nextWakeup : Step Duration := do
  let now ← instant env
  let b ← tables
  let calls := b.calls.entries.map fun entry => Instant.since entry.2.expires now
  let requests := b.external.entries.map fun entry => Instant.since entry.2.expires now
  let goals := (b.goals.entries.filter fun entry => !entry.2.accepted).map fun entry =>
    Instant.since entry.2.acceptanceDeadline now
  let clients := b.subscriptions.entries.flatMap fun entry => entry.2.clients.entries
  let pending := (clients.filter fun entry => !entry.2.pending.isEmpty).map fun entry =>
    match entry.2.last with
    | none => 0
    | some last => entry.2.options.throttle - Instant.since now last
  return (calls ++ requests ++ goals ++ pending).foldl min (Duration.fromMillis 100)

/-! ### Operations -/

/-- `Bridge::connect`. -/
def connect (connection : Connection) : Step Unit := do
  note (.connected connection)
  update fun b => { b with outputs := b.outputs.insert connection ⟨connection⟩ }

/-- What the server asks of a bridge. -/
inductive Operation where
  | connect (connection : Connection)
  | command (owner : Connection) (v : Object)
  | tick
  | disconnect (owner : Connection)
  | shutdown

/-- Perform one operation. -/
def perform : Operation → Step Unit
  | .connect connection => connect connection
  | .command owner v => command env owner (.obj v)
  | .tick => tick env
  | .disconnect owner => disconnect env owner
  | .shutdown => shutdown env

/-- A machine whose bridge has just been made. -/
def Machine.new (access : Access) (timeout : Duration) : Machine :=
  { bridge := Bridge.new access timeout, log := [] }

/-- The machine after an operation. -/
def Machine.next (m : Machine) (op : Operation) : Machine := (perform env op m).2

/-- The machines between the steps of a run from `start`. The thread is gone after
a panic, so no step follows one. Every step taken meets `admits`. -/
inductive Onward (admits : Operation → Machine → Prop) (start : Machine) : Machine → Prop where
  | here : Onward admits start start
  | step {m : Machine} (op : Operation) (before : Onward admits start m)
      (returns : ¬ (perform env op m).1.IsPanic) (admitted : admits op m) :
      Onward admits start (m.next env op)

/-- The machines of all runs of a new bridge whose steps meet `admits`. -/
abbrev ReachableBy (admits : Operation → Machine → Prop) (access : Access) (timeout : Duration) :
    Machine → Prop :=
  Onward env admits (Machine.new access timeout)

/-- The machines of all runs. -/
abbrev Reachable : Access → Duration → Machine → Prop := ReachableBy env fun _ _ => True

end Rosbridge
