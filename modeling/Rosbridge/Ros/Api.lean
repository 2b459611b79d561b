import Rosbridge.Ros.Parameters

/-!
Native rosapi (`ros/api.rs`) and the poll that feeds it (`ros/mod.rs`).

Owns: the replies to questions about the graph and about types, the loop over the events of
a poll, and the poll itself.
-/

set_option autoImplicit false

namespace Rosbridge.Ros

open Foundation

/-- `SERVICES`: the operations with their names and types. -/
def apiServices : List (Query × String × String) :=
  [ (.topics, "topics", "Topics"),
    (.interfaces, "interfaces", "Interfaces"),
    (.topicsForType, "topics_for_type", "TopicsForType"),
    (.topicsAndRawTypes, "topics_and_raw_types", "TopicsAndRawTypes"),
    (.services, "services", "Services"),
    (.servicesForType, "services_for_type", "ServicesForType"),
    (.nodes, "nodes", "Nodes"),
    (.nodeDetails, "node_details", "NodeDetails"),
    (.actionServers, "action_servers", "GetActionServers"),
    (.actionType, "action_type", "ActionType"),
    (.topicType, "topic_type", "TopicType"),
    (.serviceType, "service_type", "ServiceType"),
    (.publishers, "publishers", "Publishers"),
    (.subscribers, "subscribers", "Subscribers"),
    (.serviceProviders, "service_providers", "ServiceProviders"),
    (.serviceNode, "service_node", "ServiceNode"),
    (.messageDetails, "message_details", "MessageDetails"),
    (.serviceRequestDetails, "service_request_details", "ServiceRequestDetails"),
    (.serviceResponseDetails, "service_response_details", "ServiceResponseDetails"),
    (.actionGoalDetails, "action_goal_details", "ActionGoalDetails"),
    (.actionResultDetails, "action_result_details", "ActionResultDetails"),
    (.actionFeedbackDetails, "action_feedback_details", "ActionFeedbackDetails"),
    (.setParam, "set_param", "SetParam"),
    (.getParam, "get_param", "GetParam"),
    (.hasParam, "has_param", "HasParam"),
    (.deleteParam, "delete_param", "DeleteParam"),
    (.getParamNames, "get_param_names", "GetParamNames"),
    (.getTime, "get_time", "GetTime"),
    (.getRosVersion, "get_ros_version", "GetROSVersion") ]

/-- The operations on parameters. -/
def Query.isParameter (op : Query) : Bool :=
  [.getParam, .setParam, .hasParam, .deleteParam, .getParamNames].contains op

section Handlers

variable (env : Middleware)

/-- `Api::new`, with the options it reads from the ROS arguments. -/
def serveApi (config : Access) (parameterTimeout : Duration) : Action Unit := do
  changeApi fun _ => { config, parameterTimeout }
  Program.forEach apiServices fun entry => do
    let entity ← service env ("/rosapi/" ++ entry.2.1) ("rosapi_msgs/srv/" ++ entry.2.2)
    changeApi fun a => { a with operations := a.operations.insert entity entry.1 }

/-! ### Questions about the graph -/

/-- `Api::topic_visible`. -/
def topicVisible (config : Access) (name : String) : Bool :=
  isPublic name && (onList config.pubTopics name || onList config.subTopics name)

def serviceVisible (config : Access) (name : String) : Bool :=
  isPublic name && onList config.services name

/-- The visible topics, each with its first type. -/
def visibleTopics (config : Access) (graph : NameMap) : List (String × String) :=
  (graph.toList.filter fun entry => topicVisible config entry.1).filterMap fun entry =>
    entry.2.head?.map fun typ => (entry.1, typ)

/-- `Definitions::raw`. -/
def rawDefinition (typ : String) : Action String := do
  match (← api).definitions.raw.lookup typ with
  | some known => return known
  | none => do
      let full ← consult fun trace =>
        match env.rawText trace typ with
        | .ok full => full
        | .error cause => "# failed to get full definition text for " ++ typ ++ ": " ++ cause.message
      changeApi fun a =>
        { a with definitions := { a.definitions with raw := a.definitions.raw.insert typ full } }
      return full

/-- `Definitions::details`. -/
def typeDetails (typ : String) : Action Json := do
  match (← api).definitions.details.lookup typ with
  | some known => return known
  | none => do
      let details ← consult fun trace =>
        match env.typedefs trace typ with
        | .ok details => details
        | .error _ => .arr []
      changeApi fun a =>
        { a with definitions :=
          { a.definitions with details := a.definitions.details.insert typ details } }
      return details

def texts (names : List String) : Json := .arr (names.map Json.str)

/-- Collect what the body returns for each item. -/
def collect {α β : Type} (items : List α) (body : α → Action β) : Action (List β) :=
  Program.foldEach items [] fun done item => do return done ++ [← body item]

/-- The answer to a question about topics. -/
def topicAnswer (op : Query) (args : Json) (pairs : List (String × String)) : Action Json :=
  match op with
  | .topicsForType =>
      return .obj [("topics",
        texts ((pairs.filter fun pair => pair.2 = text args "type").map Prod.fst))]
  | .topicType =>
      let found := pairs.find? fun pair => pair.1 = text args "topic"
      return .obj [("type", .str ((found.map Prod.snd).getD ""))]
  | .topicsAndRawTypes => do
      let full ← collect pairs fun pair => rawDefinition env pair.2
      return .obj [("topics", texts (pairs.map Prod.fst)), ("types", texts (pairs.map Prod.snd)),
        ("typedefs_full_text", texts full)]
  | _ => return .obj [("topics", texts (pairs.map Prod.fst)), ("types", texts (pairs.map Prod.snd))]

def topicReply (op : Query) (args : Json) : Action Json := do
  let graph ← topics env
  topicAnswer env op args (visibleTopics (← api).config graph)

/-- The answer to a question about services. -/
def serviceAnswer (config : Access) (op : Query) (args : Json) (graph : NameMap) : Json :=
  if op = .serviceType then
    let name := text args "service"
    let typ := if serviceVisible config name then (graph[name]?.bind List.head?).getD "" else ""
    .obj [("type", .str typ)]
  else
    let shown := (graph.toList.filter fun entry => serviceVisible config entry.1).filter fun entry =>
      op = .services || entry.2.head?.any fun typ => typ = text args "type"
    .obj [("services", texts (shown.map Prod.fst))]

def serviceReply (op : Query) (args : Json) : Action Json := do
  let graph ← services env
  return serviceAnswer (← api).config op args graph

/-- `node_details`. -/
def nodeDetailsReply (args : Json) : Action Json := do
  let name := text args "node"
  let subscribing ← nodeGraph env name .subscribers
  let publishing ← nodeGraph env name .publishers
  let services ← nodeGraph env name .services
  return .obj [("subscribing", texts subscribing.keys), ("publishing", texts publishing.keys),
    ("services", texts services.keys)]

/-- What a question about nodes asks for, the list it is checked against, and the names of
a node it looks at. -/
def nodeQuestion (config : Access) (op : Query) (args : Json) :
    String × Option (List Pattern) × Endpoint :=
  match op with
  | .publishers => (text args "topic", config.pubTopics, .publishers)
  | .subscribers => (text args "topic", config.subTopics, .subscribers)
  | _ => (text args "service", config.services, .services)

/-- The node has what the question asks for. -/
def nodeAnswers (op : Query) (query : String) (graph : NameMap) : Bool :=
  if op = .serviceProviders then
    graph.toList.any fun entry => entry.2.any fun typ => typ = query
  else graph.contains query

/-- The node, if its names answer the question. -/
def nodeFound (op : Query) (query : String) (kind : Endpoint) (node : String) :
    Action (Option String) := do
  -- Nodes may disappear during graph enumeration.
  match ← Program.attempt (nodeGraph env node kind) with
  | .ok graph => return if nodeAnswers op query graph then some node else none
  | .error _ => return none

def nodesAnswer (op : Query) (names : List String) : Json :=
  match op with
  | .serviceNode => .obj [("node", .str (names.head?.getD ""))]
  | .serviceProviders => .obj [("providers", texts names)]
  | .publishers => .obj [("publishers", texts names)]
  | _ => .obj [("subscribers", texts names)]

/-- Ask every node, if the list allows what is asked for. -/
def askNodes (op : Query) (query : String) (patterns : Option (List Pattern)) (kind : Endpoint) :
    Action Json :=
  if onList patterns query then do
    let found ← collect (← nodes env) (nodeFound env op query kind)
    return nodesAnswer op (found.filterMap id)
  else return nodesAnswer op []

/-- `publishers`, `subscribers`, `service_node` and `service_providers`. -/
def nodesReply (op : Query) (args : Json) : Action Json := do
  let question := nodeQuestion (← api).config op args
  askNodes env op question.1 question.2.1 question.2.2

/-- The actions with the topics of a server. -/
def actionServers (config : Access) (graph : NameMap) : List String :=
  (graph.keys.filterMap fun name => stripSuffix name "/_action/feedback").filter fun name =>
    graph.contains (name ++ "/_action/status") &&
      (onList config.pubTopics name || onList config.subTopics name)

def actionServersReply : Action Json := do
  let graph ← topics env
  return .obj [("action_servers", texts (actionServers (← api).config graph))]

/-- The type of the service that takes the goals of an action, less its suffix. -/
def actionType (graph : NameMap) (action : String) : String :=
  ((graph[action ++ "/_action/send_goal"]?.bind List.head?).bind fun typ =>
    stripSuffix typ "_SendGoal").getD ""

def actionTypeReply (args : Json) : Action Json := do
  let graph ← services env
  return .obj [("type", .str (actionType graph (text args "action")))]

/-- The category and the suffix of the type that a question about types describes. -/
def detailsOf : Query → String × String
  | .messageDetails => ("msg", "")
  | .serviceRequestDetails => ("srv", "_Request")
  | .serviceResponseDetails => ("srv", "_Response")
  | .actionGoalDetails => ("action", "_Goal")
  | .actionResultDetails => ("action", "_Result")
  | _ => ("action", "_Feedback")

/-- The questions about types. -/
def detailsReply (op : Query) (args : Json) : Action Json := do
  let (kind, suffix) := detailsOf op
  match typeName (text args "type") kind with
  | .ok typ => return .obj [("typedefs", ← typeDetails env (typ ++ suffix))]
  | .error _ => return .obj [("typedefs", .arr [])]

/-- The reply to a question that no node has to answer. -/
def graphReply (op : Query) (args : Json) : Action Json :=
  match op with
  | .topics | .topicsAndRawTypes | .topicsForType | .topicType => topicReply env op args
  | .interfaces => do
      return .obj [("interfaces", texts (← consult env.interfaces))]
  | .services | .servicesForType | .serviceType => serviceReply env op args
  | .nodes => do return .obj [("nodes", texts (← nodes env))]
  | .nodeDetails => nodeDetailsReply env args
  | .publishers | .subscribers | .serviceNode | .serviceProviders => nodesReply env op args
  | .actionServers => actionServersReply env
  | .actionType => actionTypeReply env args
  | .getTime => do
      let (sec, nanosec) ← now env
      return .obj [("time", .obj [("sec", .int sec), ("nanosec", .int nanosec)])]
  | .getRosVersion => return .obj [("version", .int 2), ("distro", .str env.distro)]
  | _ => detailsReply env op args

/-- `Api::reply`. -/
def reply (entity : Entity) (id : Nat) (op : Query) (args : Json) : Action Unit :=
  if op.isParameter then parameter env entity id op args
  else do
    let value ← graphReply env op args
    respond env entity id value

/-! ### Events -/

/-- One event of a poll, if it is for rosapi; otherwise it is left to the caller. -/
def handleEvent (event : Event) : Action (Option Event) := do
  let a ← api
  match event with
  | .request entity id args =>
      match a.operations.lookup entity with
      | none => return some event
      | some op => do
          match ← Program.attempt (reply env entity id op args) with
          | .ok _ => return none
          | .error _ => do
              discardRequest entity id
              return none
  | .response entity sequence values =>
      match a.pending.lookup (entity, sequence) with
      | none => return some event
      | some pending => do
          changeApi fun a => { a with pending := a.pending.erase (entity, sequence) }
          destroy entity
          parameterResponse env pending values
          return none
  | .message _ _ => return some event

/-- The parameter requests whose time is over. -/
def expiredGroups : Action (List Nat) := do
  let groups ← visit env (← api).groups
  Program.foldEach groups [] fun done group => do
    let reading ← instant env
    return if group.2.deadline ≤ reading then done ++ [group.1] else done

/-- `Api::process`. -/
def process (events : List Event) : Action (List Event) := do
  let output ← collect events (handleEvent env)
  let expired ← expiredGroups env
  Program.forEach expired fun id => finish env id none (some "Timeout occurred")
  return output.filterMap id

/-! ### The poll -/

/-- A sample that waits at an entity: its conversions, which may fail, and the number of
the request that a response answers. -/
structure Sample where
  sequence : Int := 0
  values : Except Error (Json × Cbor)
  raw : Except Error (List UInt8) := .ok []

/-- Convert one sample that was taken. -/
def takeSample (stamp : Int × Nat) (entity : Entity) (role : Role) (sample : Sample) :
    Action (Option Event) := do
  match role with
  | .publisher => return none
  | .subscription => do
      let (json, cbor) ← Program.ofExcept sample.values
      if (← node).clockSubscription = some entity then
        let clock := json.index "clock"
        changeNode fun n =>
          { n with simulated := some ((clock.index "sec").asI64.getD 0,
              (clock.index "nanosec").asU64.getD 0 % 2 ^ 32) }
        return none
      else
        let raw ← Program.ofExcept sample.raw
        return some (.message entity { json, cbor, raw, stamp })
  | .client => do
      let (json, _) ← Program.ofExcept sample.values
      return some (.response entity sample.sequence json)
  | .service => do
      changeNode fun n =>
        { n with
          nextRequest := n.nextRequest + 1
          requests := insert (entity, n.nextRequest + 1) n.requests }
      let id := (← node).nextRequest
      let (json, _) ← Program.ofExcept sample.values
      return some (.request entity id json)

/-- The samples of one entity that a poll takes: a hot camera stream must not starve
requests. -/
def taken (samples : List Sample) : List Sample := samples.take 32

/-- `Ros::poll`, with rosapi if it is served. `inbox` holds the samples that wait at the
entities that are ready. -/
def poll (serving : Bool) (inbox : Entity → List Sample) : Action (List Event) := do
  let stamp ← now env
  let handles ← visit env (← node).handles
  let waiting := handles.flatMap fun entry =>
    (taken (inbox entry.1)).map fun sample => (entry.1, entry.2.role, sample)
  let events ← collect waiting fun entry => takeSample stamp entry.1 entry.2.1 entry.2.2
  let events := events.filterMap id
  if serving then process env events else return events

end Handlers

end Rosbridge.Ros
