import Rosbridge.Bridge.Dispatch

/-!
The bridge as a transition system.

Owns: `Move`, the atomic changes a bridge goes through; the message, the history
entries, the table change and the guard of each; and `Transition`, the step
relation they generate. That the handlers of the bridge only take such steps is
not owned here.

A message is handed over before the tables change. What becomes of it in the
queue is left open.
-/

set_option autoImplicit false

namespace Rosbridge

open Foundation

/-! ### Entries -/

namespace Entry

/-- The entity that a successful creation returned. -/
def created? : Entry → Option Entity
  | publisher _ _ _ (.ok entity) => some entity
  | subscription _ _ _ (.ok entity) => some entity
  | client _ _ (.ok entity) => some entity
  | service _ _ (.ok entity) => some entity
  | _ => none

/-- The entity that was destroyed. -/
def destroyed? : Entry → Option Entity
  | destroy entity => some entity
  | _ => none

/-- The entity a publish, request or respond call was made on. -/
def used? : Entry → Option Entity
  | publish entity _ _ => some entity
  | request entity _ _ => some entity
  | respond entity _ _ _ => some entity
  | _ => none

/-- Creations that were refused. -/
def Vain : Entry → Prop
  | publisher _ _ _ (.error _) => True
  | subscription _ _ _ (.error _) => True
  | client _ _ (.error _) => True
  | service _ _ (.error _) => True
  | _ => False

theorem Vain.created? {entry : Entry} (vain : entry.Vain) : entry.created? = none := by
  cases entry <;> first | rfl | skip
  all_goals
    rename_i reply
    cases reply <;> first | rfl | exact vain.elim

/-- Calls that neither create, destroy nor use an entity, and consume nothing. -/
def Inert : Entry → Prop
  | validateResponse _ _ _ => True
  | poll (.error _) => True
  | topics _ => True
  | services _ => True
  | publisherQos _ _ => True
  | now _ => True
  | instant _ => True
  | uuid _ => True
  | order _ => True
  | _ => False

/-- Calls on an entity that change no table: a publish, a request whose reply is
not awaited or that was refused, and a respond that was refused. -/
def Idle : Entry → Prop
  | publish _ _ _ => True
  | request _ _ _ => True
  | respond _ _ _ (.error _) => True
  | _ => False

/-- A creation, successful or not, is one that the allowlists grant. -/
def Granted (access : Access) : Entry → Prop
  | publisher name _ _ _ => onList access.pubTopics name = true
  | subscription name _ _ _ => onList access.subTopics name = true
  | client name typ _ => onList access.services name = true ∧
      (access.params.isSome = true → rawParameterService typ = false)
  | service name typ _ => onList access.services name = true ∧
      (access.params.isSome = true →
        rawParameterService typ = false ∧ rosapiParameterService typ = false)
  | _ => True

end Entry

/-- The services of an action carry no parameters. -/
theorem typeName_action {text typ : String} (named : typeName text "action" = .ok typ)
    (suffix : String) : rawParameterService (typ ++ suffix) = false ∧
      rosapiParameterService (typ ++ suffix) = false := by
  obtain ⟨package, last, clean, rfl⟩ := typeName_shape named
  have shape : (package ++ "/" ++ ("action" ++ "/" ++ last) ++ suffix).toList =
      package.toList ++ '/' :: 'a' :: ("ction".toList ++ '/' :: (last ++ suffix).toList) := by
    simp
  exact Access.action_plain clean shape

/-! ### Entities -/

section Entities

variable (b : Bridge)

/-- The entities the tables stand for. -/
def Bridge.held : Multiset Entity :=
  b.publishers.total (fun _ publisher => {publisher.entity}) +
    b.subscriptions.total (fun _ subscription => {subscription.entity}) +
    b.services.total (fun _ service => {service.entity}) +
    b.calls.total (fun key _ => {key.1}) +
    b.goals.total (fun _ goal => (goal.entities : Multiset Entity)) +
    b.actionServers.total (fun _ server => (server.entities : Multiset Entity))

/-- The entities the tables name. -/
inductive Bridge.Names : Entity → Prop where
  | held {entity : Entity} (member : entity ∈ b.held) : Names entity
  | external {id : String} {request : ExternalRequest}
      (found : b.external.lookup id = some request) : Names request.entity
  | parked {key : String} {goal : ServerGoal} {request : Entity × Nat}
      (found : b.serverGoals.lookup key = some goal) (member : request ∈ goal.requests) :
      Names request.1

variable {b}

theorem Bridge.mem_held {entity : Entity} : entity ∈ b.held ↔
    (∃ topic publisher, b.publishers.lookup topic = some publisher ∧
      entity = publisher.entity) ∨
    (∃ topic subscription, b.subscriptions.lookup topic = some subscription ∧
      entity = subscription.entity) ∨
    (∃ name service, b.services.lookup name = some service ∧ entity = service.entity) ∨
    (∃ key call, b.calls.lookup key = some call ∧ entity = key.1) ∨
    (∃ key goal, b.goals.lookup key = some goal ∧ entity ∈ goal.entities) ∨
    (∃ action server, b.actionServers.lookup action = some server ∧
      entity ∈ server.entities) := by
  simp only [Bridge.held, Multiset.mem_add, AList.mem_total, Multiset.mem_singleton,
    Multiset.mem_coe, or_assoc]

theorem Bridge.names_publisher {topic : String} {publisher : Publisher}
    (found : b.publishers.lookup topic = some publisher) : b.Names publisher.entity :=
  .held (mem_held.mpr (.inl ⟨topic, publisher, found, rfl⟩))

theorem Bridge.names_goal {key : String} {goal : ClientGoal} {entity : Entity}
    (found : b.goals.lookup key = some goal) (member : entity ∈ goal.entities) :
    b.Names entity :=
  .held (mem_held.mpr (.inr (.inr (.inr (.inr (.inl ⟨key, goal, found, member⟩))))))

theorem Bridge.names_server {action : String} {server : ActionServer} {entity : Entity}
    (found : b.actionServers.lookup action = some server) (member : entity ∈ server.entities) :
    b.Names entity :=
  .held (mem_held.mpr (.inr (.inr (.inr (.inr (.inr ⟨action, server, found, member⟩))))))

/-- Calls that change no table are made on an entity of the right kind. -/
inductive Bridge.Uses (b : Bridge) : Entry → Prop where
  | publisher {topic : String} {publisher : Publisher} {message : Json} {reply : Except Error Unit}
      (found : b.publishers.lookup topic = some publisher) :
      Uses b (.publish publisher.entity message reply)
  | server {action : String} {server : ActionServer} {entity : Entity} {message : Json}
      {reply : Except Error Unit} (found : b.actionServers.lookup action = some server)
      (member : entity ∈ [server.feedback, server.status]) : Uses b (.publish entity message reply)
  | cancel {key : String} {goal : ClientGoal} {args : Json} {reply : Except Error Int}
      (found : b.goals.lookup key = some goal) : Uses b (.request goal.cancel args reply)
  | refusal {action : String} {server : ActionServer} {entity : Entity} {request : Nat}
      {values : Json} {cause : Error} (found : b.actionServers.lookup action = some server)
      (member : entity ∈ [server.send, server.result, server.cancel]) :
      Uses b (.respond entity request values (.error cause))

theorem Bridge.Uses.idle {entry : Entry} (uses : b.Uses entry) : entry.Idle := by
  cases uses <;> trivial

theorem Bridge.Uses.names {entry : Entry} (uses : b.Uses entry) :
    ∃ entity, entry.used? = some entity ∧ b.Names entity := by
  cases uses with
  | publisher found => exact ⟨_, rfl, names_publisher found⟩
  | cancel found => exact ⟨_, rfl, names_goal found (by simp [ClientGoal.entities])⟩
  | server found member =>
      refine ⟨_, rfl, names_server found ?_⟩
      simp only [List.mem_cons, List.not_mem_nil, or_false] at member
      rcases member with rfl | rfl <;> simp [ActionServer.entities]
  | refusal found member =>
      refine ⟨_, rfl, names_server found ?_⟩
      simp only [List.mem_cons, List.not_mem_nil, or_false] at member
      rcases member with rfl | rfl | rfl <;> simp [ActionServer.entities]

end Entities

/-! ### Messages -/

/-- A message as `send` receives it, with its identifier in place. -/
structure Message where
  owner : Connection
  value : Object
  options : Options

/-- The operation a message names. -/
def Message.op (message : Message) : Option String :=
  (message.value.lookup "op").bind Json.asStr

def Message.entry (message : Message) : Entry :=
  .handed message.owner message.value message.options

/-- The operations of messages that are no reply and no part of a client goal. -/
def Message.Plain (message : Message) : Prop :=
  message.op = some "publish" ∨ message.op = some "call_service" ∨
    message.op = some "send_action_goal" ∨ message.op = some "cancel_action_goal"

/-- What `send` may do with a message. -/
inductive Sent : Option Message → Machine → Machine → Prop where
  | silent {m : Machine} : Sent none m m
  | muted {message : Message} {m : Machine} (failed : message.owner ∈ m.bridge.failed) :
      Sent (some message) m { m with log := m.log ++ [message.entry] }
  | unrouted {message : Message} {m : Machine}
      (absent : m.bridge.outputs.lookup message.owner = none) :
      Sent (some message) m
        { bridge := { m.bridge with next := m.bridge.next + 1 }
          log := m.log ++ [message.entry] }
  | queued {message : Message} {m : Machine} {output : Output}
      (found : m.bridge.outputs.lookup message.owner = some output)
      (operation : String) (topic : Option String) (queue : Nat) (request : EncodeRequest) :
      Sent (some message) m
        { bridge := { m.bridge with next := m.bridge.next + 1 }
          log := m.log ++ [message.entry] ++
            [.sendRequest output operation topic queue request (.ok ())] }
  | rejected {message : Message} {m : Machine} {output : Output}
      (found : m.bridge.outputs.lookup message.owner = some output)
      (operation : String) (topic : Option String) (queue : Nat) (request : EncodeRequest)
      (cause : SendError) :
      Sent (some message) m
        { bridge :=
            { m.bridge with
              next := m.bridge.next + 1
              failed := m.bridge.failed.insert message.owner }
          log := m.log ++ [message.entry] ++
            [.sendRequest output operation topic queue request (.error cause)] }

/-- Handing a message over changes no table. -/
theorem Sent.tables {message : Option Message} {before after : Machine}
    (sent : Sent message before after) :
    ∃ next failed, after.bridge = { before.bridge with next := next, failed := failed } := by
  cases sent with
  | silent => exact ⟨_, _, rfl⟩
  | muted _ => exact ⟨_, _, rfl⟩
  | unrouted _ => exact ⟨_, _, rfl⟩
  | queued _ _ _ _ _ => exact ⟨_, _, rfl⟩
  | rejected _ _ _ _ _ _ => exact ⟨_, _, rfl⟩

/-- A table change before a message may as well come after it. -/
theorem Sent.commute {message : Option Message} (m : Machine) {after : Machine}
    (change : Bridge → Bridge)
    (outputs : ∀ b, (change b).outputs = b.outputs) (failed : ∀ b, (change b).failed = b.failed)
    (next : ∀ b, (change b).next = b.next)
    (commutes : ∀ b next failed, change { b with next := next, failed := failed } =
      { change b with next := next, failed := failed })
    (sent : Sent message { m with bridge := change m.bridge } after) :
    ∃ middle, Sent message m middle ∧
      after = { middle with bridge := change middle.bridge } := by
  generalize startEq : ({ m with bridge := change m.bridge } : Machine) = start at sent
  cases sent with
  | silent => exact ⟨m, .silent, startEq.symm⟩
  | muted isFailed =>
      subst startEq
      exact ⟨_, .muted (by rwa [failed] at isFailed), rfl⟩
  | unrouted absent =>
      subst startEq
      refine ⟨_, .unrouted (by rwa [outputs] at absent), ?_⟩
      have same := commutes m.bridge (m.bridge.next + 1) m.bridge.failed
      simp only [next, failed] at same ⊢
      rw [same]
  | queued found operation topic queue request =>
      subst startEq
      refine ⟨_, .queued (by rwa [outputs] at found) operation topic queue request, ?_⟩
      have same := commutes m.bridge (m.bridge.next + 1) m.bridge.failed
      simp only [next, failed] at same ⊢
      rw [same]
  | @rejected message _ _ found operation topic queue request cause =>
      subst startEq
      refine ⟨_, .rejected (by rwa [outputs] at found) operation topic queue request cause, ?_⟩
      have same := commutes m.bridge (m.bridge.next + 1) (m.bridge.failed.insert message.owner)
      simp only [next, failed] at same ⊢
      rw [same]

theorem Sent.log_grows {message : Option Message} {before after : Machine}
    (sent : Sent message before after) : before.log <+: after.log := by
  cases sent with
  | silent => exact List.prefix_rfl
  | muted _ => exact List.prefix_append _ _
  | unrouted _ => exact List.prefix_append _ _
  | queued _ _ _ _ _ => exact ⟨_, (List.append_assoc _ _ _).symm⟩
  | rejected _ _ _ _ _ _ => exact ⟨_, (List.append_assoc _ _ _).symm⟩

/-! ### Moves -/

/-- An atomic change of a bridge, with the data it is made of. -/
inductive Move where
  -- Calls that leave nothing behind, and messages by themselves.
  | observed (entries : List Entry)
  | aborted (creations : List Entry) (refusal : Option (Entity × Json × Error))
  | used (entry : Entry)
  | polled (events : List Event)
  | probed (readings : List (Output × Bool))
  | discarded (entity : Entity) (request : Nat)
  | counted
  | told (message : Message)
  | refused (owner : Connection) (v : Json) (cause : Error)
  -- Connections.
  | connected (connection : Connection)
  | left (owner : Connection)
  | failuresTaken
  -- Topics.
  | advertised (topic : String) (owner : Connection) (id : Option String) (entity : Entity)
      (typ : String) (qos : Qos)
  | registered (topic : String) (owner : Connection) (id : Option String)
  | withdrawn (topic : String) (owner : Connection) (id : Option String)
  | unadvertised (topic : String) (owner : Connection) (id : Option String)
      (publisher : Publisher)
  | subscribed (topic : String) (owner : Connection) (id : Option String) (options : Options)
      (entity : Entity) (typ : String) (qos : Qos)
  | joined (topic : String) (owner : Connection) (id : Option String) (options : Options)
  | sampled (topic : String) (owner : Connection)
      (change : ClientSubscription → ClientSubscription)
  | retained (topic : String) (sample : RosMessage)
  | parted (topic : String) (owner : Connection) (id : Option String)
  | unsubscribed (topic : String) (owner : Connection) (id : Option String)
      (subscription : Subscription)
  -- Services.
  | called (key : Entity × Int) (call : Call) (typ : String) (args : Json) (reading : Instant)
  | replied (key : Entity × Int) (call : Call) (values : Json)
  | expired (key : Entity × Int) (call : Call) (now : Instant)
  | abandoned (key : Entity × Int) (call : Call)
  | serviceOpened (name : String) (service : Service)
  | serviceRemoved (name : String) (service : Service)
  | forwarded (number : Nat) (request : ExternalRequest) (reading : Instant)
  | answered (id : String) (request : ExternalRequest) (values : Json)
  | answerRefused (id : String) (request : ExternalRequest) (values : Json) (cause : Error)
  | requestExpired (id : String) (request : ExternalRequest)
  | requestsDropped (owner : Connection)
  -- Goals of clients.
  | goalOpened (key : String) (goal : ClientGoal) (fresh : Uuid) (sequence : Int)
      (typ : String) (args : Json) (reading : Instant)
  | goalAccepted (pending : Entity × Int) (key : String) (goal : ClientGoal) (sequence : Int)
  | goalStranded (pending : Entity × Int) (key : String) (goal : ClientGoal) (cause : Error)
  | goalFed (key : String) (goal : ClientGoal) (sample : RosMessage)
  | cancelSent (key : String) (goal : ClientGoal) (sequence : Int)
  | cancelSettled (pending : Entity × Int) (key : String)
  | cancelRejected (pending : Entity × Int) (key : String) (goal : ClientGoal)
  | replyIgnored (pending : Entity × Int) (call : ActionCall)
  | goalFinished (key : String) (goal : ClientGoal) (values : Json) (status : Int)
      (success : Bool)
  -- Goals of action servers.
  | actionOpened (action : String) (server : ActionServer)
  | actionRemoved (action : String) (server : ActionServer)
      (closed : List (String × ServerGoal)) (replies : List (Entity × Nat × Except Error Unit))
  | requestAnswered (entity : Entity) (request : Nat) (values : Json)
  | goalAdmitted (key : String) (goal : ServerGoal) (entity : Entity) (request : Nat)
  | goalMarked (key : String)
  | requestParked (key : String) (request : Entity × Nat)
  | resultRepeated (key : String) (goal : ServerGoal) (stored : Json) (entity : Entity)
      (request : Nat)
  | parkedAnswered (key : String) (goal : ServerGoal) (request : Entity × Nat)
      (values : Json)
  | parkedRefused (key : String) (goal : ServerGoal) (request : Entity × Nat)
      (values : Json) (cause : Error)
  | goalCompleted (key : String) (goal : ServerGoal) (status : Int) (values : Json)
      (reading : Instant)
  | goalForgotten (key : String) (goal : ServerGoal)

namespace Move

/-- The message a move hands over first. -/
def message : Move → Option Message
  | told message => some message
  | refused owner v cause =>
      some ⟨owner, labelled (errorResponse v cause) (errorId v), {}⟩
  | replied _ call values =>
      some ⟨call.owner, labelled (serviceMessage call values) call.id, call.options⟩
  | expired _ call _ =>
      some ⟨call.owner, labelled (timeoutMessage call) call.id, call.options⟩
  | goalFed _ goal sample =>
      some ⟨goal.owner, labelled (feedbackMessage goal sample) goal.id, goal.options⟩
  | cancelRejected _ _ goal => some ⟨goal.owner, labelled rejectedMessage goal.id, {}⟩
  | goalFinished _ goal values status success =>
      some ⟨goal.owner, labelled (resultMessage goal values status success) goal.id,
        goal.options⟩
  | _ => none

/-- The entries a move adds to the history after its message. -/
def entries : Move → List Entry
  | observed entries => entries
  | aborted creations refusal =>
      creations ++ (refusal.toList.map fun refused =>
        .request refused.1 refused.2.1 (.error refused.2.2)) ++
        (creations.filterMap Entry.created?).map .destroy
  | used entry => [entry]
  | polled events => [.poll (.ok events)]
  | probed readings => readings.map fun reading => .isClosed reading.1 reading.2
  | discarded entity request => [.discardRequest entity request]
  | connected connection => [.connected connection]
  | advertised topic _ _ entity typ qos => [.publisher topic typ qos (.ok entity)]
  | unadvertised _ _ _ publisher => [.destroy publisher.entity]
  | subscribed topic _ _ _ entity typ qos => [.subscription topic typ qos (.ok entity)]
  | unsubscribed _ _ _ subscription => [.destroy subscription.entity]
  | called key call typ args reading =>
      [ .client call.service typ (.ok key.1), .request key.1 args (.ok key.2),
        .instant reading ]
  | replied key _ _ | expired key _ _ | abandoned key _ => [.destroy key.1]
  | serviceOpened name service => [.service name service.typ (.ok service.entity)]
  | serviceRemoved _ service => [.destroy service.entity]
  | forwarded _ _ reading => [.instant reading]
  | answered _ request values => [.respond request.entity request.request values (.ok ())]
  | answerRefused _ request values cause =>
      [.respond request.entity request.request values (.error cause)]
  | requestExpired _ request => [.discardRequest request.entity request.request]
  | goalOpened _ goal fresh sequence typ args reading =>
      [ .uuid fresh,
        .client (goal.action ++ "/_action/send_goal") (typ ++ "_SendGoal") (.ok goal.send),
        .client (goal.action ++ "/_action/get_result") (typ ++ "_GetResult") (.ok goal.result),
        .client (goal.action ++ "/_action/cancel_goal") "action_msgs/srv/CancelGoal"
          (.ok goal.cancel),
        .subscription (goal.action ++ "/_action/feedback") (typ ++ "_FeedbackMessage")
          Qos.service (.ok goal.feedbackSub),
        .subscription (goal.action ++ "/_action/status") "action_msgs/msg/GoalStatusArray"
          { Qos.service with durability := 1 } (.ok goal.statusSub),
        .request goal.send (.obj [("goal_id", goal.uuid), ("goal", args)]) (.ok sequence),
        .instant reading ]
  | goalAccepted _ _ goal sequence =>
      [.request goal.result (resultArgs goal.uuid) (.ok sequence)]
  | goalStranded _ _ goal cause =>
      [.request goal.result (resultArgs goal.uuid) (.error cause)]
  | cancelSent _ goal sequence => [.request goal.cancel (cancelArgs goal.uuid) (.ok sequence)]
  | goalFinished _ goal _ _ _ => goal.entities.map .destroy
  | actionOpened action server =>
      [ .service (action ++ "/_action/send_goal") (server.typ ++ "_SendGoal")
          (.ok server.send),
        .service (action ++ "/_action/get_result") (server.typ ++ "_GetResult")
          (.ok server.result),
        .service (action ++ "/_action/cancel_goal") "action_msgs/srv/CancelGoal"
          (.ok server.cancel),
        .publisher (action ++ "/_action/feedback") (server.typ ++ "_FeedbackMessage")
          Qos.service (.ok server.feedback),
        .publisher (action ++ "/_action/status") "action_msgs/msg/GoalStatusArray"
          { Qos.service with durability := 1, depth := 1 } (.ok server.status) ]
  | actionRemoved _ server _ replies =>
      (replies.map fun reply =>
        .respond reply.1 reply.2.1 (resultReply 6 (.obj [])) reply.2.2) ++
        server.entities.map .destroy
  | requestAnswered entity request values => [.respond entity request values (.ok ())]
  | goalAdmitted _ goal entity request =>
      [.respond entity request (acceptReply true goal.stamp) (.ok ())]
  | resultRepeated _ goal stored entity request =>
      [.respond entity request (resultReply goal.status stored) (.ok ())]
  | parkedAnswered _ _ request values => [.respond request.1 request.2 values (.ok ())]
  | parkedRefused _ _ request values cause =>
      [.respond request.1 request.2 values (.error cause)]
  | goalCompleted _ _ _ _ reading => [.instant reading]
  | _ => []

/-- The table change of a move. -/
def effect : Move → Bridge → Bridge
  | counted, b => { b with next := b.next + 1 }
  | connected connection, b =>
      { b with outputs := b.outputs.insert connection ⟨connection⟩ }
  | left owner, b => { b with outputs := b.outputs.erase owner }
  | failuresTaken, b => { b with failed := [] }
  | advertised topic owner id entity typ _, b =>
      { b with
        publishers := (b.publishers.insert topic
          { entity, typ, owners := AList.singleton owner {id} }) }
  | registered topic owner id, b =>
      { b with publishers := b.publishers.alter topic (Publisher.register owner id) }
  | withdrawn topic owner id, b =>
      { b with publishers := b.publishers.alter topic (Publisher.release owner id) }
  | unadvertised topic _ _ _, b => { b with publishers := b.publishers.erase topic }
  | subscribed topic owner id options entity typ qos, b =>
      { b with
        subscriptions := (b.subscriptions.insert topic
          (Subscription.enroll owner id options
            { transientLocal := qos.durability = 1
              retained := none
              entity
              typ
              clients := ∅ })) }
  | joined topic owner id options, b =>
      { b with
        subscriptions := b.subscriptions.alter topic (Subscription.enroll owner id options) }
  | sampled topic owner change, b => b.alterClient topic owner change
  | retained topic sample, b =>
      { b with
        subscriptions := (b.subscriptions.alter topic fun subscription =>
          { subscription with retained := some sample }) }
  | parted topic owner id, b =>
      { b with subscriptions := b.subscriptions.alter topic (Subscription.release owner id) }
  | unsubscribed topic _ _ _, b => { b with subscriptions := b.subscriptions.erase topic }
  | called key call _ _ _, b => { b with calls := b.calls.insert key call }
  | replied key _ _, b | expired key _ _, b | abandoned key _, b =>
      { b with calls := b.calls.erase key }
  | serviceOpened name service, b => { b with services := b.services.insert name service }
  | serviceRemoved name service, b =>
      { b with
        services := b.services.erase name
        external := b.external.retain fun _ request => request.entity ≠ service.entity }
  | forwarded number request _, b =>
      { b with
        services := (b.services.alter request.service fun service =>
          { service with nextRequest := service.nextRequest + 1 })
        external := b.external.insert (externalId request.service number) request }
  | answered id _ _, b | requestExpired id _, b => { b with external := b.external.erase id }
  | requestsDropped owner, b =>
      { b with external := b.external.retain fun _ request => request.owner ≠ owner }
  | goalOpened key goal _ sequence _ _ _, b =>
      { b with
        goals := b.goals.insert key goal
        actionCalls := b.actionCalls.insert (goal.send, sequence) (.send key) }
  | goalAccepted pending key goal sequence, b =>
      { b with
        goals := b.goals.alter key fun goal => { goal with accepted := true }
        actionCalls :=
          (b.actionCalls.erase pending).insert (goal.result, sequence) (.result key) }
  | goalStranded pending key _ _, b =>
      { b with
        goals := b.goals.alter key fun goal => { goal with accepted := true }
        actionCalls := b.actionCalls.erase pending }
  | cancelSent key goal sequence, b =>
      { b with
        goals := b.goals.alter key fun goal => { goal with cancelling := true }
        actionCalls := b.actionCalls.insert (goal.cancel, sequence) (.cancel key) }
  | cancelSettled pending _, b => { b with actionCalls := b.actionCalls.erase pending }
  | cancelRejected pending key _, b =>
      { b with
        goals := b.goals.alter key fun goal => { goal with cancelling := false }
        actionCalls := b.actionCalls.erase pending }
  | replyIgnored pending _, b => { b with actionCalls := b.actionCalls.erase pending }
  | goalFinished key _ _ _ _, b =>
      { b with
        goals := b.goals.erase key
        actionCalls := b.actionCalls.retain fun _ call => call.goal ≠ key }
  | actionOpened action server, b =>
      { b with actionServers := b.actionServers.insert action server }
  | actionRemoved action _ closed _, b =>
      { b with
        actionServers := b.actionServers.erase action
        serverGoals := b.serverGoals.eraseAll (closed.map Prod.fst) }
  | goalAdmitted key goal _ _, b =>
      { b with
        serverGoals := b.serverGoals.insert key goal
        next := b.next + 1 }
  | goalMarked key, b =>
      { b with serverGoals := b.serverGoals.alter key fun goal => { goal with status := 3 } }
  | requestParked key request, b =>
      { b with
        serverGoals := (b.serverGoals.alter key fun goal =>
          { goal with requests := goal.requests ++ [request] }) }
  | parkedAnswered key _ _ _, b =>
      { b with
        serverGoals := (b.serverGoals.alter key fun goal =>
          { goal with requests := goal.requests.dropLast }) }
  | goalCompleted key _ status values reading, b =>
      { b with
        serverGoals := (b.serverGoals.alter key fun goal =>
          { goal with status, result := some values, completed := some reading }) }
  | goalForgotten key _, b => { b with serverGoals := b.serverGoals.erase key }
  | _, b => b

/-- What holds before a move changes the tables. -/
def Enabled (env : Environment) : Move → Machine → Prop
  | observed entries, _ => ∀ entry ∈ entries, entry.Inert
  | aborted creations refusal, m =>
      (∀ entry ∈ creations, entry.Inert ∨ entry.Vain ∨ entry.created?.isSome) ∧
        (∀ refused ∈ refusal, refused.1 ∈ creations.filterMap Entry.created?) ∧
        (∀ entry ∈ creations, entry.Granted m.bridge.access) ∧
        ∀ refused ∈ refusal, ∃ name typ, .client name typ (.ok refused.1) ∈ creations ∧
          m.bridge.access.Permits typ refused.2.1
  | used entry, m => m.bridge.Uses entry
  | told message, _ => message.Plain
  | refused owner _ _, m => owner ∈ m.bridge.outputs
  | left _, _ => True
  | advertised topic owner _ _ _ _, m =>
      topic ∉ m.bridge.publishers ∧ owner ∈ m.bridge.outputs ∧
        onList m.bridge.access.pubTopics topic = true
  | registered topic owner _, m => topic ∈ m.bridge.publishers ∧ owner ∈ m.bridge.outputs
  | withdrawn topic owner id, m =>
      ∃ publisher, m.bridge.publishers.lookup topic = some publisher ∧
        owner ∈ publisher.owners ∧ publisher.holds owner id ∧
        (publisher.release owner id).owners ≠ ∅
  | unadvertised topic owner id publisher, m =>
      m.bridge.publishers.lookup topic = some publisher ∧
        owner ∈ publisher.owners ∧ publisher.holds owner id ∧
        (publisher.release owner id).owners = ∅
  | subscribed topic owner _ _ _ _ _, m =>
      topic ∉ m.bridge.subscriptions ∧ owner ∈ m.bridge.outputs ∧
        onList m.bridge.access.subTopics topic = true
  | joined topic owner _ _, m =>
      topic ∈ m.bridge.subscriptions ∧ owner ∈ m.bridge.outputs
  | sampled _ _ change, _ =>
      ∀ client, (change client).registrations = client.registrations
  | parted topic owner id, m =>
      ∃ subscription, m.bridge.subscriptions.lookup topic = some subscription ∧
        owner ∈ subscription.clients ∧ subscription.holds owner id ∧
        (subscription.release owner id).clients ≠ ∅
  | unsubscribed topic owner id subscription, m =>
      m.bridge.subscriptions.lookup topic = some subscription ∧
        owner ∈ subscription.clients ∧ subscription.holds owner id ∧
        (subscription.release owner id).clients = ∅
  | called _ call typ args _, m =>
      call.owner ∈ m.bridge.outputs ∧
        (Entry.client call.service typ (.ok 0)).Granted m.bridge.access ∧
        m.bridge.access.Permits typ args ∧
        call.parameterNames = decide (typ = "rosapi_msgs/srv/GetParamNames")
  | replied key call _, m => m.bridge.calls.lookup key = some call
  | expired key call now, m =>
      m.bridge.calls.lookup key = some call ∧ call.expires ≤ now ∧ .instant now ∈ m.log
  | abandoned key call, m =>
      m.bridge.calls.lookup key = some call ∧ call.owner ∉ m.bridge.outputs
  | serviceOpened name service, m =>
      name ∉ m.bridge.services ∧ service.owner ∈ m.bridge.outputs ∧
        (Entry.service name service.typ (.ok 0)).Granted m.bridge.access
  | serviceRemoved name service, m => m.bridge.services.lookup name = some service
  | forwarded number request _, m =>
      ∃ service, m.bridge.services.lookup request.service = some service ∧
        service.owner = request.owner ∧ service.entity = request.entity ∧
        number = service.nextRequest + 1
  | answered id request _, m => m.bridge.external.lookup id = some request
  | answerRefused id request _ _, m => m.bridge.external.lookup id = some request
  | requestExpired id request, m => m.bridge.external.lookup id = some request
  | requestsDropped owner, m =>
      ∀ name service, m.bridge.services.lookup name = some service → service.owner ≠ owner
  | goalOpened key goal fresh _ typ _ _, m =>
      goal.owner ∈ m.bridge.outputs ∧ goal.uuid = uuidValue fresh.bytes ∧
        key = String.ofList (fresh.bytes.flatMap hexByte) ∧
        goal.accepted = false ∧ goal.cancelling = false ∧
        (∀ other active, m.bridge.goals.lookup other = some active →
          ¬ (active.owner = goal.owner ∧ active.action = goal.action ∧ active.id = goal.id)) ∧
        m.bridge.access.action goal.action false = .ok () ∧
        ∃ text, typeName text "action" = .ok typ
  | goalAccepted pending key goal _, m =>
      m.bridge.actionCalls.lookup pending = some (.send key) ∧
        m.bridge.goals.lookup key = some goal
  | goalStranded pending key goal cause, m =>
      m.bridge.actionCalls.lookup pending = some (.send key) ∧
        m.bridge.goals.lookup key = some goal ∧
        env.request m.log goal.result (resultArgs goal.uuid) = .error cause
  | goalFed key goal sample, m =>
      m.bridge.goals.lookup key = some goal ∧ goal.feedback = true ∧
        ∃ uuid, uuidKey env goal.uuid = .ok uuid ∧
          uuidKey env (sample.json.index "goal_id") = .ok uuid
  | cancelSent key goal _, m =>
      m.bridge.goals.lookup key = some goal ∧ goal.accepted = true ∧ goal.cancelling = false
  | cancelSettled pending key, m => m.bridge.actionCalls.lookup pending = some (.cancel key)
  | cancelRejected pending key goal, m =>
      m.bridge.actionCalls.lookup pending = some (.cancel key) ∧
        m.bridge.goals.lookup key = some goal
  | replyIgnored pending call, m =>
      m.bridge.actionCalls.lookup pending = some call ∧ m.bridge.goals.lookup call.goal = none
  | goalFinished key goal _ _ _, m => m.bridge.goals.lookup key = some goal
  | actionOpened action server, m =>
      action ∉ m.bridge.actionServers ∧ server.owner ∈ m.bridge.outputs ∧
        m.bridge.access.action action true = .ok () ∧
        ∃ text, typeName text "action" = .ok server.typ
  | actionRemoved action server closed replies, m =>
      m.bridge.actionServers.lookup action = some server ∧
        (closed.map Prod.fst).Nodup ∧
        (∀ key goal, (key, goal) ∈ closed ↔
          m.bridge.serverGoals.lookup key = some goal ∧ goal.action = action) ∧
        replies.map (fun reply => (reply.1, reply.2.1)) =
          closed.flatMap fun entry => entry.2.requests
  | requestAnswered entity _ _, m =>
      ∃ action server, m.bridge.actionServers.lookup action = some server ∧
        entity ∈ [server.send, server.result, server.cancel]
  | goalAdmitted key goal entity _, m =>
      key ∉ m.bridge.serverGoals ∧ goal.requests = [] ∧ goal.result = none ∧
        goal.completed = none ∧
        (∃ uuid, key = serverGoalKey goal.action uuid ∧ uuidKey env goal.uuid = .ok uuid) ∧
        ∃ server, m.bridge.actionServers.lookup goal.action = some server ∧
          server.owner = goal.owner ∧ server.send = entity ∧ goal.status = 2 ∧
          goal.id = "rosbridge:" ++ toString (m.bridge.next + 1)
  | goalMarked key, m =>
      ∃ goal, m.bridge.serverGoals.lookup key = some goal ∧ goal.result = none
  | requestParked key request, m =>
      (∃ goal, m.bridge.serverGoals.lookup key = some goal ∧ goal.result = none) ∧
        ∃ action server uuid, key = serverGoalKey action uuid ∧ ':' ∉ uuid.toList ∧
          m.bridge.actionServers.lookup action = some server ∧ server.result = request.1
  | resultRepeated key goal stored entity _, m =>
      m.bridge.serverGoals.lookup key = some goal ∧ goal.result = some stored ∧
        ∃ action server, m.bridge.actionServers.lookup action = some server ∧
          server.result = entity
  | parkedAnswered key goal request _, m =>
      m.bridge.serverGoals.lookup key = some goal ∧ goal.requests.getLast? = some request
  | parkedRefused key goal request _ _, m =>
      m.bridge.serverGoals.lookup key = some goal ∧ goal.requests.getLast? = some request
  | goalCompleted key goal status _ _, m =>
      m.bridge.serverGoals.lookup key = some goal ∧ goal.requests = [] ∧
        goal.result = none ∧ 4 ≤ status ∧ status ≤ 6
  | goalForgotten key goal, m =>
      m.bridge.serverGoals.lookup key = some goal ∧ goal.completed ≠ none
  | _, _ => True

end Move

/-! ### Where moves come from -/

namespace Move

/-- Moves that neither register nor drop a connection nor take note of failures. -/
def Inner : Move → Prop
  | connected _ | left _ | failuresTaken | probed _ => False
  | _ => True

/-- Moves that only commands take. -/
def Commanded : Move → Prop
  | refused _ _ _ => True
  | advertised _ _ _ _ _ _ | registered _ _ _ | subscribed _ _ _ _ _ _ _ | joined _ _ _ _ => True
  | called _ _ _ _ _ | serviceOpened _ _ | answered _ _ _ | answerRefused _ _ _ _ => True
  | goalOpened _ _ _ _ _ _ _ | cancelSent _ _ _ => True
  | actionOpened _ _ | parkedAnswered _ _ _ _ | parkedRefused _ _ _ _ _ => True
  | goalCompleted _ _ _ _ _ => True
  | _ => False

/-- Moves that only look. -/
def Reading : Move → Prop
  | observed _ => True
  | _ => False

/-- Moves that leave every table as it is and say nothing. -/
def Harmless : Move → Prop
  | observed _ | aborted _ _ => True
  | _ => False

/-- Moves that a command of the owner may take. -/
def By (owner : Connection) : Move → Prop
  | observed _ | aborted _ _ | used _ => True
  | told message => message.owner = owner ∧ message.op = some "publish"
  | refused other _ _ => other = owner
  | advertised _ other _ _ _ _ | registered _ other _ | withdrawn _ other _ => other = owner
  | unadvertised _ other _ _ => other = owner
  | subscribed _ other _ _ _ _ _ | joined _ other _ _ | sampled _ other _ => other = owner
  | parted _ other _ | unsubscribed _ other _ _ => other = owner
  | called _ call _ _ _ => call.owner = owner
  | serviceOpened _ service | serviceRemoved _ service => service.owner = owner
  | answered _ request _ | answerRefused _ request _ _ => request.owner = owner
  | goalOpened _ goal _ _ _ _ _ | cancelSent _ goal _ => goal.owner = owner
  | actionOpened _ server | actionRemoved _ server _ _ => server.owner = owner
  | parkedAnswered _ goal _ _ | parkedRefused _ goal _ _ _ => goal.owner = owner
  | goalCompleted _ goal _ _ _ => goal.owner = owner
  | _ => False

/-- Moves that a command of the owner may take that advertises no topic, answers no request
of a service, reports no result and does not fail. -/
def Beside (owner : Connection) : Move → Prop
  | refused _ _ _ => False
  | advertised _ _ _ _ _ _ | registered _ _ _ => False
  | answered _ _ _ | answerRefused _ _ _ _ => False
  | parkedAnswered _ _ _ _ | parkedRefused _ _ _ _ _ | goalCompleted _ _ _ _ _ => False
  | move => move.By owner

/-- Moves of an advertisement: it records the identifier that the command names. -/
def Advertises (owner : Connection) (v : Json) : Move → Prop
  | observed _ | aborted _ _ | used _ => True
  | advertised topic other id _ _ _ | registered topic other id =>
      other = owner ∧ name v "topic" = .ok topic ∧ requestId v = .ok id
  | _ => False

/-- Moves of a service response: it answers the request that the command names. -/
def Responds (owner : Connection) (v : Json) : Move → Prop
  | answered id request values | answerRefused id request values _ =>
      request.owner = owner ∧ required v "id" = .ok id ∧ name v "service" = .ok request.service ∧
        values = v.index "values"
  | _ => False

/-- Moves of a reported result: it is the result of the goal that the command names. -/
def Completes (owner : Connection) (v : Json) : Move → Prop
  | observed _ | used _ => True
  | parkedAnswered _ goal _ values | parkedRefused _ goal _ values _ =>
      goal.owner = owner ∧ ∃ status result, reportedResult v = .ok (status, result) ∧
        values = resultReply status result
  | goalCompleted _ goal status values _ =>
      goal.owner = owner ∧ reportedResult v = .ok (status, values)
  | _ => False

/-- Moves that the command `v` of the owner may take. -/
def Under (owner : Connection) (v : Json) (move : Move) : Prop :=
  move.Beside owner ∨ (∃ cause, move = .refused owner v cause) ∨
    ((required v "op" = .ok "advertise" ∨ required v "op" = .ok "publish") ∧
      move.Advertises owner v) ∨
    (required v "op" = .ok "service_response" ∧ move.Responds owner v) ∨
    (required v "op" = .ok "action_result" ∧ move.Completes owner v)

/-- Moves that a sample may cause. -/
def OnSample : Move → Prop
  | observed _ | told _ | sampled _ _ _ | retained _ _ | goalFed _ _ _ => True
  | _ => False

/-- Moves that a sample of the entity may cause. They pass on no other sample. -/
def Carries (entity : Entity) (sample : RosMessage) : Move → Prop
  | goalFed _ goal fed => goal.feedbackSub = entity ∧ fed = sample
  | retained _ kept => kept = sample
  | move => move.OnSample

/-- Moves that a response to a request of a goal may cause. -/
def OnReply : Move → Prop
  | goalAccepted _ _ _ _ | goalStranded _ _ _ _ | goalFinished _ _ _ _ _ => True
  | cancelSettled _ _ | cancelRejected _ _ _ | replyIgnored _ _ => True
  | _ => False

/-- Moves of a request's handler that leave the request unanswered. -/
def Unsettling : Move → Prop
  | observed _ | used _ | counted | told _ | goalMarked _ => True
  | _ => False

/-- The native request that a move answers or puts in a table. -/
def settles : Move → Option (Entity × Nat)
  | forwarded _ request _ => some (request.entity, request.request)
  | requestAnswered entity request _ => some (entity, request)
  | resultRepeated _ _ _ entity request => some (entity, request)
  | goalAdmitted _ _ entity request => some (entity, request)
  | requestParked _ request => some request
  | _ => none

/-- The native request that a move answers while it is handled. -/
def answers : Move → Option (Entity × Nat)
  | requestAnswered entity request _ => some (entity, request)
  | resultRepeated _ _ _ entity request => some (entity, request)
  | goalAdmitted _ _ entity request => some (entity, request)
  | _ => none

/-- Moves that the timed part of a tick may take before it drops connections. -/
def OnTime : Move → Prop
  | observed _ | told _ | sampled _ _ _ => True
  | goalFinished _ _ _ _ _ | expired _ _ _ | requestExpired _ _ | goalForgotten _ _ => True
  | _ => False

/-- Moves that release the topic publishers of a connection. -/
def ReleasesPublisher (owner : Connection) : Move → Prop
  | observed _ => True
  | withdrawn _ other _ | unadvertised _ other _ _ => other = owner
  | _ => False

/-- Moves that release the subscriptions of a connection. -/
def ReleasesSubscription (owner : Connection) : Move → Prop
  | observed _ => True
  | parted _ other _ | unsubscribed _ other _ _ => other = owner
  | _ => False

/-- Moves that remove the services of a connection. -/
def ReleasesService (owner : Connection) : Move → Prop
  | observed _ => True
  | serviceRemoved _ service => service.owner = owner
  | _ => False

/-- Moves that remove the action servers of a connection. -/
def ReleasesAction (owner : Connection) : Move → Prop
  | observed _ => True
  | actionRemoved _ server _ _ => server.owner = owner
  | _ => False

/-- Moves that finish the goals of a connection. -/
def ReleasesGoal (owner : Connection) : Move → Prop
  | observed _ | used _ => True
  | goalFinished _ goal _ _ _ => goal.owner = owner
  | _ => False

/-- Moves that drop the calls of a connection. -/
def ReleasesCall (owner : Connection) : Move → Prop
  | observed _ => True
  | abandoned _ call => call.owner = owner
  | _ => False

/-- Moves that release what a connection owns. -/
def Releasing (owner : Connection) (move : Move) : Prop :=
  move.ReleasesPublisher owner ∨ move.ReleasesSubscription owner ∨
    move.ReleasesService owner ∨ move.ReleasesAction owner ∨ move.ReleasesGoal owner ∨
    move.ReleasesCall owner ∨ move = requestsDropped owner

end Move

/-! ### Silence -/

/-- Entries that are no message and say nothing about a queue. -/
def Entry.Silent : Entry → Prop
  | handed _ _ _ | sendRequest _ _ _ _ _ _ | isClosed _ _ => False
  | _ => True

theorem Entry.Inert.silent {entry : Entry} (inert : entry.Inert) : entry.Silent := by
  cases entry <;> trivial

/-- Apart from its message, an inner move says nothing. -/
theorem Move.Inner.silent {env : Environment} {move : Move} {m : Machine} (inner : move.Inner)
    (enabled : move.Enabled env m) : ∀ entry ∈ move.entries, entry.Silent := by
  have destroyed (entities : List Entity) : ∀ entry ∈ entities.map Entry.destroy, entry.Silent := by
    intro entry member
    obtain ⟨entity, -, rfl⟩ := List.mem_map.mp member
    trivial
  cases move
  case observed entries => exact fun entry member => (enabled entry member).silent
  case aborted creations refusal =>
    intro entry member
    rcases List.mem_append.mp member with before | gone
    · rcases List.mem_append.mp before with made | refused
      · rcases enabled.1 entry made with inert | vain | created
        · exact inert.silent
        · cases entry <;> trivial
        · cases entry <;> trivial
      · obtain ⟨pair, -, rfl⟩ := List.mem_map.mp refused
        trivial
    · exact destroyed _ entry gone
  case used used =>
    have idle := enabled.idle
    intro entry member
    obtain rfl := List.mem_singleton.mp member
    cases entry <;> trivial
  case goalFinished key goal values status success => exact destroyed goal.entities
  case actionRemoved action server closed replies =>
    intro entry member
    rcases List.mem_append.mp member with answered | gone
    · obtain ⟨reply, -, rfl⟩ := List.mem_map.mp answered
      trivial
    · exact destroyed _ entry gone
  all_goals first | exact inner.elim | simp [Move.entries, Entry.Silent]

/-- One move: its message is handed over, then the tables change. -/
def Transition (env : Environment) (move : Move) (before after : Machine) : Prop :=
  ∃ middle, Sent move.message before middle ∧ move.Enabled env middle ∧
    after =
      { bridge := move.effect middle.bridge
        log := middle.log ++ move.entries }

/-- History is never rewritten. -/
theorem Transition.log_grows {env : Environment} {move : Move} {before after : Machine}
    (taken : Transition env move before after) : before.log <+: after.log := by
  obtain ⟨middle, sent, -, rfl⟩ := taken
  exact sent.log_grows.trans (List.prefix_append _ _)

/-- The tables after a move. -/
theorem Transition.bridge {env : Environment} {move : Move} {before after : Machine}
    (taken : Transition env move before after) :
    ∃ next failed, after.bridge =
      move.effect { before.bridge with next := next, failed := failed } := by
  obtain ⟨middle, sent, -, rfl⟩ := taken
  obtain ⟨next, failed, tables⟩ := sent.tables
  exact ⟨next, failed, by rw [tables]⟩

end Rosbridge
