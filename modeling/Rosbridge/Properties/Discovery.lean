import Rosbridge.Ros.Api
import Rosbridge.Ros.Rules

/-!
Noninterference of the discovery queries.

Owns: what it means that two ROS graphs agree on the names that the allowlists allow, and
which queries answer alike on all such graphs. Four do not: they show denied names, or
let them decide what is shown.
-/

set_option autoImplicit false

namespace Rosbridge.Ros

open Foundation

/-! ### Graphs -/

/-- A ROS graph: the topics, the services, and the names that each node has. A node is
given by its name and its namespace. -/
structure RosGraph where
  topics : Names
  services : Names
  names : Endpoint → String × String → Names

/-- All names of one kind. -/
def RosGraph.listed (g : RosGraph) : Endpoint → Names
  | .publishers | .subscribers => g.topics
  | .services => g.services

/-- The names that ROS accepts. There are actions. -/
structure Naming where
  topic : String → Prop
  service : String → Prop
  typ : String → Prop
  action : ∃ base, base ≠ "" ∧ typ (base ++ "_SendGoal")

/-- A graph that ROS can report. -/
structure RosGraph.Legal (naming : Naming) (g : RosGraph) : Prop where
  topics : ∀ entry ∈ g.topics, naming.topic entry.1
  services : ∀ entry ∈ g.services, naming.service entry.1 ∧ ∀ typ ∈ entry.2, naming.typ typ
  distinct : ∀ kind, ((g.listed kind).map Prod.fst).Nodup
  names : ∀ kind node, ∀ entry ∈ g.names kind node,
    ∃ types, (entry.1, types) ∈ g.listed kind ∧ entry.2 ⊆ types

/-- The same ROS with another graph. -/
def Middleware.showing (env : Middleware) (nodes : List (String × String)) (g : RosGraph) :
    Middleware :=
  { env with
    topics := fun _ => .ok g.topics
    services := fun _ => .ok g.services
    nodeNames := fun _ => .ok nodes
    nodeGraph := fun _ kind name space =>
      if (name, space) ∈ nodes then .ok (g.names kind (name, space))
      else .error ⟨"node not found"⟩ }

/-! ### Agreement -/

section Agreement

variable (config : Access)

/-- The publisher or the subscriber list allows the topic. -/
def topicAllowed (name : String) : Bool :=
  onList config.pubTopics name || onList config.subTopics name

def nameAllowed : Endpoint → String → Bool
  | .publishers, name | .subscribers, name => topicAllowed config name
  | .services, name => onList config.services name

/-- Two lists have the same entries under the names that satisfy a test. -/
def AgreeOn (test : String → Bool) (left right : Names) : Prop :=
  ∀ name, test name = true → (nameMap left)[name]? = (nameMap right)[name]?

/-- The graphs agree on every name that the lists allow. -/
structure Agree (left right : RosGraph) : Prop where
  listed : ∀ kind, AgreeOn (nameAllowed config kind) (left.listed kind) (right.listed kind)
  names : ∀ kind node,
    AgreeOn (nameAllowed config kind) (left.names kind node) (right.names kind node)

end Agreement

/-- What the lists deny has no influence on the reply. -/
def Discreet (naming : Naming) (config : Access) (nodes : List (String × String)) (op : Query)
    (args : Json) : Prop :=
  ∀ (env : Middleware) (left right : RosGraph), left.Legal naming → right.Legal naming →
    Agree config left right → ∀ (entity : Entity) (id : Nat) (s : Native), s.api.config = config →
      (reply (env.showing nodes left) entity id op args s).1 =
          (reply (env.showing nodes right) entity id op args s).1 ∧
        (reply (env.showing nodes left) entity id op args s).2.trace =
          (reply (env.showing nodes right) entity id op args s).2.trace

/-! ### The condition -/

/-- The parts of the name can be passed to ROS. -/
def clean (fullName : String) : Bool :=
  !(nodeParts fullName).2.toList.contains (.ofNat 0) &&
    !(nodeParts fullName).1.toList.contains (.ofNat 0)

/-- The node is in the graph. -/
def Known (nodes : List (String × String)) (fullName : String) : Prop :=
  clean fullName = true ∧ ((nodeParts fullName).2, (nodeParts fullName).1) ∈ nodes

instance (nodes : List (String × String)) (fullName : String) : Decidable (Known nodes fullName) :=
  inferInstanceAs (Decidable (_ ∧ _))

/-- The visible nodes, by their full names. -/
def visibleNodes (nodes : List (String × String)) : List String :=
  (nodes.map fun entry => trimEndMatches entry.2 '/' ++ "/" ++ entry.1).filter isPublic

/-- The lists allow every name that can be shown. -/
def AllAllowed (naming : Naming) (config : Access) (kind : Endpoint) : Prop :=
  ∀ name, isPublic name = true →
    (if kind = .services then naming.service name else naming.topic name) →
      nameAllowed config kind name = true

/-- When a query does not reveal what the lists deny. `node_details` checks no name,
`service_providers` checks the type it is asked for, `action_type` checks nothing, and
`action_servers` checks the name of the action and not its topics. -/
def Guarded (naming : Naming) (config : Access) (nodes : List (String × String)) (op : Query)
    (args : Json) : Prop :=
  match op with
  | .nodeDetails =>
      Known nodes (text args "node") → ∀ kind, AllAllowed naming config kind
  | .serviceProviders =>
      (∃ node ∈ visibleNodes nodes, Known nodes node) →
        onList config.services (text args "service") = true → naming.typ (text args "service") →
          AllAllowed naming config .services
  | .actionType =>
      let name := text args "action" ++ "/_action/send_goal"
      naming.service name → onList config.services name = true
  | .actionServers =>
      ∀ name, topicAllowed config name = true →
        naming.topic (name ++ "/_action/feedback") → naming.topic (name ++ "/_action/status") →
          topicAllowed config (name ++ "/_action/feedback") = true ∧
            topicAllowed config (name ++ "/_action/status") = true
  | _ => True

/-! ### Sorted maps that agree -/

section Maps

variable {test : String → Bool} {left right : Names}

/-- Under a name stands what was listed last. -/
theorem getElem?_nameMap (names : Names) (name : String) :
    (nameMap names)[name]? =
      (names.filter fun entry => entry.1 = name).getLast?.map Prod.snd := by
  have built := Std.TreeMap.Equiv.getElem?_eq (k := name)
    (show (Std.TreeMap.ofList names compare).Equiv _ from Std.TreeMap.ofList_equiv_foldl)
  rw [nameMap, built]
  clear built
  induction names using List.reverseRecOn with
  | nil => rfl
  | append_singleton names entry inductionHypothesis =>
      rw [List.foldl_append, List.filter_append]
      show (Std.TreeMap.insert _ entry.1 entry.2)[name]? = _
      rw [Std.TreeMap.getElem?_insert, inductionHypothesis]
      by_cases same : entry.1 = name
      · have last : ([entry].filter fun entry => entry.1 = name) = [entry] := by simp [same]
        rw [if_pos (Std.LawfulEqCmp.compare_eq_iff_eq.mpr same), last, List.getLast?_concat]
        rfl
      · have none : ([entry].filter fun entry => entry.1 = name) = [] := by simp [same]
        rw [if_neg (mt Std.LawfulEqCmp.compare_eq_iff_eq.mp same), none, List.append_nil]

theorem getElem?_nameMap_none {names : Names} {name : String}
    (absent : ∀ entry ∈ names, entry.1 ≠ name) : (nameMap names)[name]? = none := by
  rw [getElem?_nameMap, List.filter_eq_nil_iff.mpr fun entry listed => by
    simpa using absent entry listed]
  rfl

theorem mem_of_getElem?_nameMap {names : Names} {name : String} {types : List String}
    (found : (nameMap names)[name]? = some types) : (name, types) ∈ names := by
  rw [getElem?_nameMap, Option.map_eq_some_iff] at found
  obtain ⟨entry, last, rfl⟩ := found
  have listed := List.mem_filter.mp (List.mem_of_getLast? last)
  have named : entry.1 = name := of_decide_eq_true listed.2
  rw [← named]
  exact listed.1

/-- The entries whose names pass a test. -/
theorem getElem?_nameMap_filter (keep : String → Bool) (names : Names) (name : String) :
    (nameMap (names.filter fun entry => keep entry.1))[name]? =
      if keep name then (nameMap names)[name]? else none := by
  rw [getElem?_nameMap, getElem?_nameMap, List.filter_filter]
  cases kept : keep name with
  | true =>
      have same : (fun entry : String × List String => decide (entry.1 = name) && keep entry.1) =
          fun entry => decide (entry.1 = name) := by
        funext entry
        by_cases named : entry.1 = name
        · rw [named, kept, Bool.and_true]
        · rw [decide_eq_false named, Bool.false_and]
      rw [same, if_pos rfl]
  | false =>
      rw [List.filter_eq_nil_iff.mpr, if_neg Bool.false_ne_true]
      · rfl
      · intro entry _ passes
        rw [Bool.and_eq_true, decide_eq_true_eq] at passes
        rw [passes.1, kept] at passes
        exact Bool.false_ne_true passes.2

theorem AgreeOn.filter (agree : AgreeOn test left right) (keep : String → Bool) :
    AgreeOn (fun name => !keep name || test name) (left.filter fun entry => keep entry.1)
      (right.filter fun entry => keep entry.1) := by
  intro name allowed
  rw [getElem?_nameMap_filter, getElem?_nameMap_filter]
  cases kept : keep name with
  | true => rw [agree name (by simpa [kept] using allowed)]
  | false => rfl

/-- The allowed entries of lists that agree are the same, in the same order. -/
theorem filter_congr (agree : AgreeOn test left right) :
    ((nameMap left).toList.filter fun entry => test entry.1) =
      (nameMap right).toList.filter fun entry => test entry.1 := by
  have equiv : (Std.TreeMap.filter (fun name _ => test name) (nameMap left)).Equiv
      (Std.TreeMap.filter (fun name _ => test name) (nameMap right)) := by
    refine .of_forall_constGet?_eq fun name => ?_
    rw [Std.TreeMap.getElem?_filter', Std.TreeMap.getElem?_filter']
    cases allowed : test name with
    | true => rw [agree name allowed]
    | false => simp
  have lists := equiv.toList_eq
  rwa [Std.TreeMap.toList_filter, Std.TreeMap.toList_filter] at lists

/-- A test that allows less agrees on less. -/
theorem AgreeOn.mono {weaker : String → Bool} (agree : AgreeOn test left right)
    (allows : ∀ name, weaker name = true → test name = true) : AgreeOn weaker left right :=
  fun name allowed => agree name (allows name allowed)

theorem contains_congr {name : String} (same : (nameMap left)[name]? = (nameMap right)[name]?) :
    (nameMap left).contains name = (nameMap right).contains name := by
  rw [Std.TreeMap.contains_eq_isSome_getElem?, Std.TreeMap.contains_eq_isSome_getElem?, same]

/-- Lists with the same entries under all names give the same sorted list. -/
theorem toList_congr (agree : AgreeOn (fun _ => true) left right) :
    (nameMap left).toList = (nameMap right).toList := by
  have lists := filter_congr agree
  rwa [List.filter_true, List.filter_true] at lists

end Maps

/-! ### Runs on a graph -/

section Runs

variable {env : Middleware} {nodes : List (String × String)} {g left right : RosGraph} {op : Query}
  {args : Json} {s : Native}

/-- A look at the graph. -/
def Native.looked (s : Native) : Native := { s with trace := s.trace ++ [.graph] }

theorem topics_showing : topics (env.showing nodes g) s = (.ok (nameMap g.topics), s.looked) := rfl

theorem services_showing : services (env.showing nodes g) s = (.ok (nameMap g.services), s.looked) :=
  rfl

theorem nodes_showing :
    Ros.nodes (env.showing nodes g) s = (.ok (visibleNodes nodes), s.looked) := rfl

/-- The names of one kind that a node shows. -/
def RosGraph.shown (g : RosGraph) (kind : Endpoint) (fullName : String) : Names :=
  (g.names kind ((nodeParts fullName).2, (nodeParts fullName).1)).filter fun entry =>
    isPublic entry.1

theorem nodeGraph_clean {fullName : String} (passed : clean fullName = true) (kind : Endpoint) :
    nodeGraph (env.showing nodes g) fullName kind s =
      (if ((nodeParts fullName).2, (nodeParts fullName).1) ∈ nodes then
        (.ok (nameMap (g.shown kind fullName)), s.looked)
      else (.error ⟨"node not found"⟩, s.looked)) := by
  have ensured : (Program.ensure (clean fullName) ⟨"nul byte found in provided data"⟩ :
      Action Unit) s = (.ok (), s) := by
    rw [passed]
    rfl
  refine (Program.bind_ok ensured).trans ?_
  by_cases listed : ((nodeParts fullName).2, (nodeParts fullName).1) ∈ nodes
  · have seen : look (fun _ : Trace =>
        if ((nodeParts fullName).2, (nodeParts fullName).1) ∈ nodes then
          Except.ok (g.names kind ((nodeParts fullName).2, (nodeParts fullName).1))
        else .error ⟨"node not found"⟩) s =
        (.ok (g.names kind ((nodeParts fullName).2, (nodeParts fullName).1)), s.looked) := by
      rw [if_pos listed]
      rfl
    rw [if_pos listed]
    exact Program.bind_ok seen
  · have seen : look (fun _ : Trace =>
        if ((nodeParts fullName).2, (nodeParts fullName).1) ∈ nodes then
          Except.ok (g.names kind ((nodeParts fullName).2, (nodeParts fullName).1))
        else .error ⟨"node not found"⟩) s = (.error ⟨"node not found"⟩, s.looked) := by
      rw [if_neg listed]
      rfl
    rw [if_neg listed]
    exact Program.bind_error seen

theorem nodeGraph_known {fullName : String} (known : Known nodes fullName) (kind : Endpoint) :
    nodeGraph (env.showing nodes g) fullName kind s =
      (.ok (nameMap (g.shown kind fullName)), s.looked) := by
  rw [nodeGraph_clean known.1, if_pos known.2]

/-- A node that the graph does not have fails alike on all graphs. -/
theorem nodeGraph_unknown {fullName : String} (unknown : ¬ Known nodes fullName)
    (kind : Endpoint) :
    nodeGraph (env.showing nodes left) fullName kind s =
      nodeGraph (env.showing nodes right) fullName kind s := by
  cases passed : clean fullName with
  | true =>
      have absent : ((nodeParts fullName).2, (nodeParts fullName).1) ∉ nodes :=
        fun listed => unknown ⟨passed, listed⟩
      rw [nodeGraph_clean passed, nodeGraph_clean passed, if_neg absent, if_neg absent]
  | false =>
      have refused : (Program.ensure (clean fullName) ⟨"nul byte found in provided data"⟩ :
          Action Unit) s = (.error ⟨"nul byte found in provided data"⟩, s) := by
        rw [passed]
        rfl
      exact (Program.bind_error refused).trans (Program.bind_error refused).symm

theorem collect_congr {α β : Type} {items : List α} {body other : α → Action β}
    (same : ∀ item ∈ items, body item = other item) : collect items body = collect items other := by
  have all : ∀ done : List β,
      Program.foldEach items done (fun done item => do return done ++ [← body item]) =
        Program.foldEach items done fun done item => do return done ++ [← other item] := by
    induction items with
    | nil => exact fun _ => rfl
    | cons head tail inductionHypothesis =>
        rw [List.forall_mem_cons] at same
        intro done
        rw [Program.foldEach, Program.foldEach, same.1]
        exact congrArg _ (funext fun next => inductionHypothesis same.2 next)
  exact all []

end Runs

/-! ### Replies without influence -/

section Replies

variable {naming : Naming} {env : Middleware} {nodes : List (String × String)}
  {left right : RosGraph} {op : Query} {args : Json} {s : Native}

theorem topicReply_congr (agree : Agree s.api.config left right) :
    topicReply (env.showing nodes left) op args s =
      topicReply (env.showing nodes right) op args s := by
  have visible : AgreeOn (topicVisible s.api.config) left.topics right.topics :=
    (agree.listed .publishers).mono fun _ shown => (Bool.and_eq_true_iff.mp shown).2
  show topicAnswer env op args (visibleTopics s.api.config (nameMap left.topics)) _ =
    topicAnswer env op args (visibleTopics s.api.config (nameMap right.topics)) _
  rw [visibleTopics, visibleTopics, filter_congr visible]

theorem serviceReply_congr (agree : Agree s.api.config left right) :
    serviceReply (env.showing nodes left) op args s =
      serviceReply (env.showing nodes right) op args s := by
  have visible : AgreeOn (serviceVisible s.api.config) left.services right.services :=
    (agree.listed .services).mono fun _ shown => (Bool.and_eq_true_iff.mp shown).2
  show (Outcome.ok (serviceAnswer s.api.config op args (nameMap left.services)), s.looked) =
    (Outcome.ok (serviceAnswer s.api.config op args (nameMap right.services)), s.looked)
  rw [serviceAnswer, serviceAnswer, filter_congr visible]
  split
  · cases shown : serviceVisible s.api.config (text args "service") with
    | true => simp only [shown, visible _ shown]
    | false => simp only [shown, Bool.false_eq_true, if_false]
  · rfl

/-- Graphs that agree show the same allowed names of a node. -/
theorem shown_agree {config : Access} (agree : Agree config left right) (kind : Endpoint)
    (node : String) :
    AgreeOn (fun name => !isPublic name || nameAllowed config kind name) (left.shown kind node)
      (right.shown kind node) :=
  (agree.names kind _).filter isPublic

/-- Where every name that can be shown is allowed, graphs that agree show the same names. -/
theorem shown_agree_all {config : Access} (agree : Agree config left right)
    (legalLeft : left.Legal naming) (legalRight : right.Legal naming) {kind : Endpoint}
    (all : AllAllowed naming config kind) (node : String) :
    AgreeOn (fun _ => true) (left.shown kind node) (right.shown kind node) := by
  intro name _
  by_cases allowed : (!isPublic name || nameAllowed config kind name) = true
  · exact shown_agree agree kind node name allowed
  · simp only [Bool.or_eq_true, Bool.not_eq_true', not_or, Bool.not_eq_false] at allowed
    have absent {g : RosGraph} (legal : g.Legal naming) : ∀ entry ∈ g.shown kind node,
        entry.1 ≠ name := by
      rintro entry listed rfl
      obtain ⟨types, known, -⟩ := legal.names kind _ entry (List.mem_filter.mp listed).1
      refine allowed.2 (all _ allowed.1 ?_)
      cases kind with
      | publishers | subscribers => exact legal.topics (entry.1, types) known
      | services => exact (legal.services (entry.1, types) known).1
    rw [getElem?_nameMap_none (absent legalLeft), getElem?_nameMap_none (absent legalRight)]

theorem nodeDetailsReply_congr (agree : Agree s.api.config left right)
    (legalLeft : left.Legal naming) (legalRight : right.Legal naming)
    (guarded : Guarded naming s.api.config nodes .nodeDetails args) :
    nodeDetailsReply (env.showing nodes left) args s =
      nodeDetailsReply (env.showing nodes right) args s := by
  unfold nodeDetailsReply
  by_cases known : Known nodes (text args "node")
  · have keys (kind : Endpoint) : (nameMap (left.shown kind (text args "node"))).keys =
        (nameMap (right.shown kind (text args "node"))).keys := by
      rw [← Std.TreeMap.map_fst_toList_eq_keys, ← Std.TreeMap.map_fst_toList_eq_keys,
        toList_congr (shown_agree_all agree legalLeft legalRight (guarded known kind) _)]
    rw [Program.bind_ok (nodeGraph_known known _), Program.bind_ok (nodeGraph_known known _),
      Program.bind_ok (nodeGraph_known known _), Program.bind_ok (nodeGraph_known known _),
      Program.bind_ok (nodeGraph_known known _), Program.bind_ok (nodeGraph_known known _),
      keys, keys, keys]
  · have same (kind : Endpoint) : nodeGraph (env.showing nodes left) (text args "node") kind =
        nodeGraph (env.showing nodes right) (text args "node") kind :=
      funext fun _ => nodeGraph_unknown known kind
    rw [same, same, same]

/-- A node answers alike on graphs on which its names answer alike. -/
theorem nodeFound_congr {query : String} {kind : Endpoint} {node : String}
    (same : Known nodes node → nodeAnswers op query (nameMap (left.shown kind node)) =
      nodeAnswers op query (nameMap (right.shown kind node))) :
    nodeFound (env.showing nodes left) op query kind node =
      nodeFound (env.showing nodes right) op query kind node := by
  funext s
  unfold nodeFound
  by_cases known : Known nodes node
  · have asked (g : RosGraph) : Program.attempt (nodeGraph (env.showing nodes g) node kind) s =
        (.ok (.ok (nameMap (g.shown kind node))), s.looked) := by
      rw [Program.attempt, nodeGraph_known known]
    rw [Program.bind_ok (asked left), Program.bind_ok (asked right)]
    show (Outcome.ok (if nodeAnswers _ _ _ then _ else _), _) =
      (Outcome.ok (if nodeAnswers _ _ _ then _ else _), _)
    rw [same known]
  · have same : nodeGraph (env.showing nodes left) node kind =
        nodeGraph (env.showing nodes right) node kind :=
      funext fun _ => nodeGraph_unknown known kind
    rw [same]

/-- Questions about nodes are answered alike on graphs on which every node answers alike. -/
theorem askNodes_congr {query : String} {patterns : Option (List Pattern)} {kind : Endpoint}
    (same : onList patterns query = true → ∀ node ∈ visibleNodes nodes, Known nodes node →
      nodeAnswers op query (nameMap (left.shown kind node)) =
        nodeAnswers op query (nameMap (right.shown kind node))) :
    askNodes (env.showing nodes left) op query patterns kind s =
      askNodes (env.showing nodes right) op query patterns kind s := by
  unfold askNodes
  by_cases allowed : onList patterns query = true
  · rw [if_pos allowed, if_pos allowed, Program.bind_ok nodes_showing,
      Program.bind_ok nodes_showing,
      collect_congr fun node listed => nodeFound_congr (same allowed node listed)]
  · rw [if_neg allowed, if_neg allowed]

theorem nodeAnswers_contains {config : Access} (agree : Agree config left right)
    {query : String} {kind : Endpoint} {node : String} (other : op ≠ .serviceProviders)
    (allowed : nameAllowed config kind query = true) :
    nodeAnswers op query (nameMap (left.shown kind node)) =
      nodeAnswers op query (nameMap (right.shown kind node)) := by
  rw [nodeAnswers, nodeAnswers, if_neg other, if_neg other]
  refine contains_congr (shown_agree agree kind node query ?_)
  show (!isPublic query || nameAllowed config kind query) = true
  rw [allowed, Bool.or_true]

theorem nodeAnswers_providers {config : Access} (agree : Agree config left right)
    (legalLeft : left.Legal naming) (legalRight : right.Legal naming)
    (guarded : Guarded naming config nodes .serviceProviders args)
    (allowed : onList config.services (text args "service") = true) {node : String}
    (visible : node ∈ visibleNodes nodes) (known : Known nodes node) :
    nodeAnswers .serviceProviders (text args "service") (nameMap (left.shown .services node)) =
      nodeAnswers .serviceProviders (text args "service")
        (nameMap (right.shown .services node)) := by
  rw [nodeAnswers, nodeAnswers, if_pos rfl, if_pos rfl]
  by_cases typed : naming.typ (text args "service")
  · rw [toList_congr (shown_agree_all agree legalLeft legalRight
      (guarded ⟨node, visible, known⟩ allowed typed) node)]
  · -- no service of a graph has a type that ROS does not accept
    have absent {g : RosGraph} (legal : g.Legal naming) :
        ((nameMap (g.shown .services node)).toList.any fun entry =>
          entry.2.any fun typ => typ = text args "service") = false := by
      rw [List.any_eq_false]
      intro entry listed some
      obtain ⟨typ, member, same⟩ := List.any_eq_true.mp some
      have here : (entry.1, entry.2) ∈ (nameMap (g.shown .services node)).toList := listed
      rw [Std.TreeMap.mem_toList_iff_getElem?_eq_some] at here
      have shown := (List.mem_filter.mp (mem_of_getElem?_nameMap here)).1
      obtain ⟨types, known, within⟩ := legal.names .services _ _ shown
      have accepted := (legal.services _ known).2 typ (within member)
      rw [of_decide_eq_true same] at accepted
      exact typed accepted
    rw [absent legalLeft, absent legalRight]

theorem nodesReply_congr (agree : Agree s.api.config left right)
    (legalLeft : left.Legal naming) (legalRight : right.Legal naming)
    (guarded : Guarded naming s.api.config nodes op args) :
    nodesReply (env.showing nodes left) op args s =
      nodesReply (env.showing nodes right) op args s := by
  refine askNodes_congr fun allowed node visible known => ?_
  by_cases providers : op = .serviceProviders
  · subst providers
    exact nodeAnswers_providers agree legalLeft legalRight guarded allowed visible known
  · refine nodeAnswers_contains agree providers ?_
    unfold nodeQuestion at allowed ⊢
    split at allowed
    · exact Bool.or_eq_true_iff.mpr (.inl allowed)
    · exact Bool.or_eq_true_iff.mpr (.inr allowed)
    · exact allowed

theorem actionTypeReply_congr (agree : Agree s.api.config left right)
    (legalLeft : left.Legal naming) (legalRight : right.Legal naming)
    (guarded : Guarded naming s.api.config nodes .actionType args) :
    actionTypeReply (env.showing nodes left) args s =
      actionTypeReply (env.showing nodes right) args s := by
  have same : (nameMap left.services)[text args "action" ++ "/_action/send_goal"]? =
      (nameMap right.services)[text args "action" ++ "/_action/send_goal"]? := by
    by_cases named : naming.service (text args "action" ++ "/_action/send_goal")
    · exact agree.listed .services _ (guarded named)
    · have absent {g : RosGraph} (legal : g.Legal naming) : ∀ entry ∈ g.services,
          entry.1 ≠ text args "action" ++ "/_action/send_goal" := by
        intro entry listed same
        have accepted := (legal.services entry listed).1
        rw [same] at accepted
        exact named accepted
      rw [getElem?_nameMap_none (absent legalLeft), getElem?_nameMap_none (absent legalRight)]
  show (Outcome.ok (Json.obj [("type", .str (actionType (nameMap left.services) _))]), _) =
    (Outcome.ok (Json.obj [("type", .str (actionType (nameMap right.services) _))]), _)
  rw [actionType, actionType, same]

/-- What a second test makes of a list that a first test has thinned out, where the first
test only drops what the second drops anyway. -/
theorem filter_filterMap_of_imp {α β : Type} {f : α → Option β} {early : α → Bool}
    {late : β → Bool} {items : List α}
    (implied : ∀ item ∈ items, ∀ result, f item = some result → late result = true →
      early item = true) :
    (items.filterMap f).filter late = ((items.filter early).filterMap f).filter late := by
  induction items with
  | nil => rfl
  | cons head tail inductionHypothesis =>
      rw [List.forall_mem_cons] at implied
      have rest := inductionHypothesis implied.2
      cases found : f head with
      | none =>
          cases kept : early head with
          | true => rw [List.filter_cons_of_pos kept, List.filterMap_cons_none found,
              List.filterMap_cons_none found, rest]
          | false => rw [List.filter_cons_of_neg (by simp [kept]), List.filterMap_cons_none found,
              rest]
      | some result =>
          cases kept : early head with
          | true =>
              rw [List.filter_cons_of_pos kept, List.filterMap_cons_some found,
                List.filterMap_cons_some found, List.filter_cons, List.filter_cons, rest]
          | false =>
              have dropped : ¬ late result = true := fun passes => by
                have early := implied.1 result found passes
                rw [kept] at early
                exact Bool.false_ne_true early
              rw [List.filter_cons_of_neg (by simp [kept]), List.filterMap_cons_some found,
                List.filter_cons_of_neg dropped, rest]

theorem stripSuffix_eq {name suffix base : String} (stripped : stripSuffix name suffix = some base) :
    name = base ++ suffix := by
  unfold stripSuffix at stripped
  split at stripped
  · next ends =>
      cases stripped
      obtain ⟨front, whole⟩ := List.isSuffixOf_iff_suffix.mp ends
      refine String.toList_inj.mp ?_
      rw [String.toList_append, String.toList_ofList, ← whole, List.length_append,
        Nat.add_sub_cancel, List.take_left']
      rfl
  · cases stripped

theorem stripSuffix_append (base suffix : String) :
    stripSuffix (base ++ suffix) suffix = some base := by
  have ends : suffix.toList.isSuffixOf (base ++ suffix).toList = true := by
    rw [String.toList_append]
    exact List.isSuffixOf_iff_suffix.mpr (List.suffix_append _ _)
  rw [stripSuffix, if_pos ends, String.toList_append, List.length_append, Nat.add_sub_cancel,
    List.take_left' rfl, String.ofList_toList]

theorem actionServers_congr {config : Access} (agree : Agree config left right)
    (legalLeft : left.Legal naming) (legalRight : right.Legal naming)
    (guarded : Guarded naming config nodes .actionServers args) :
    actionServers config (nameMap left.topics) = actionServers config (nameMap right.topics) := by
  have listed {g : RosGraph} {name : String} (found : (nameMap g.topics).contains name = true)
      (legal : g.Legal naming) : naming.topic name := by
    rw [Std.TreeMap.contains_eq_isSome_getElem?, Option.isSome_iff_exists] at found
    obtain ⟨types, found⟩ := found
    exact legal.topics _ (mem_of_getElem?_nameMap found)
  -- a server is reported for topics that the lists allow
  have thinned {g : RosGraph} (legal : g.Legal naming) :
      actionServers config (nameMap g.topics) =
        (((nameMap g.topics).keys.filter (topicAllowed config)).filterMap fun name =>
          stripSuffix name "/_action/feedback").filter fun name =>
            (nameMap g.topics).contains (name ++ "/_action/status") &&
              (onList config.pubTopics name || onList config.subTopics name) := by
    refine filter_filterMap_of_imp fun key member name stripped reported => ?_
    rw [Bool.and_eq_true] at reported
    have whole := stripSuffix_eq stripped
    have feedback : (nameMap g.topics).contains (name ++ "/_action/feedback") = true := by
      rw [← whole]
      exact Std.TreeMap.mem_keys.mp member
    rw [whole]
    exact (guarded name reported.2 (listed feedback legal) (listed reported.1 legal)).1
  have keys : (nameMap left.topics).keys.filter (topicAllowed config) =
      (nameMap right.topics).keys.filter (topicAllowed config) := by
    have lists := congrArg (List.map Prod.fst) (filter_congr (agree.listed .publishers))
    rw [← Std.TreeMap.map_fst_toList_eq_keys, ← Std.TreeMap.map_fst_toList_eq_keys, List.filter_map,
      List.filter_map]
    exact lists
  rw [thinned legalLeft, thinned legalRight, keys]
  refine List.filter_congr fun name member => ?_
  obtain ⟨key, kept, stripped⟩ := List.mem_filterMap.mp member
  have whole := stripSuffix_eq stripped
  obtain ⟨inRight, -⟩ := List.mem_filter.mp kept
  have feedback : naming.topic (name ++ "/_action/feedback") := by
    rw [← whole]
    exact listed (Std.TreeMap.mem_keys.mp inRight) legalRight
  by_cases allowed : (onList config.pubTopics name || onList config.subTopics name) = true
  · rw [allowed, Bool.and_true, Bool.and_true]
    by_cases status : naming.topic (name ++ "/_action/status")
    · exact contains_congr (agree.listed .publishers _ (guarded name allowed feedback status).2)
    · rw [Bool.eq_false_iff.mpr fun found => status (listed found legalLeft),
        Bool.eq_false_iff.mpr fun found => status (listed found legalRight)]
  · rw [Bool.not_eq_true] at allowed
    rw [allowed, Bool.and_false, Bool.and_false]

theorem graphReply_congr (asked : op.isParameter = false) (agree : Agree s.api.config left right)
    (legalLeft : left.Legal naming) (legalRight : right.Legal naming)
    (guarded : Guarded naming s.api.config nodes op args) :
    graphReply (env.showing nodes left) op args s =
      graphReply (env.showing nodes right) op args s := by
  cases op with
  | topics | topicsAndRawTypes | topicsForType | topicType => exact topicReply_congr agree
  | services | servicesForType | serviceType => exact serviceReply_congr agree
  | nodeDetails => exact nodeDetailsReply_congr agree legalLeft legalRight guarded
  | publishers | subscribers | serviceNode | serviceProviders =>
      exact nodesReply_congr agree legalLeft legalRight guarded
  | actionServers =>
      show (Outcome.ok (Json.obj [("action_servers", texts (actionServers _ _))]), _) =
        (Outcome.ok (Json.obj [("action_servers", texts (actionServers _ _))]), _)
      rw [actionServers_congr agree legalLeft legalRight guarded]
  | actionType => exact actionTypeReply_congr agree legalLeft legalRight guarded
  | interfaces | nodes | getTime | getRosVersion | messageDetails | serviceRequestDetails
  | serviceResponseDetails | actionGoalDetails | actionResultDetails | actionFeedbackDetails => rfl
  | setParam | getParam | hasParam | deleteParam | getParamNames => cases asked

end Replies

/-! ### Replies that reveal -/

section Reveal

variable {naming : Naming} {config : Access} {nodes : List (String × String)} {env : Middleware}
  {g : RosGraph} {op : Query} {args : Json} {s : Native}

theorem reply_answer (asked : op.isParameter = false) {value : Json} {after : Native}
    (ran : graphReply env op args s = (.ok value, after)) (entity : Entity) (id : Nat) :
    ∃ sent, (reply env entity id op args s).2.trace =
      after.trace ++ [.respond entity id value sent] := by
  unfold reply
  rw [if_neg (by rw [asked]; decide), Program.bind_ok ran]
  obtain ⟨sent, requests, done⟩ := respond_spec env (s := after) entity id value
  rw [done]
  exact ⟨sent, rfl⟩

/-- ROS without a fault. -/
def quiet : Middleware where
  create := fun _ _ => .ok ()
  fill := fun _ _ => .ok ()
  sendRequest := fun _ _ _ => .ok 1
  sendResponse := fun _ _ _ _ => .ok ()
  topics := fun _ => .ok []
  services := fun _ => .ok []
  nodeNames := fun _ => .ok []
  nodeGraph := fun _ _ _ _ => .ok []
  systemTime := fun _ => (0, 0)
  instant := fun _ => 0
  order := fun _ => 0
  interfaces := fun _ => []
  rawText := fun _ _ => .ok ""
  typedefs := fun _ _ => .ok (.arr [])
  fromStr := fun _ => .ok .null
  toText := fun _ => ""
  distro := ""
  humble := false

/-- A discreet query gives the same answer on all graphs that agree. -/
theorem Discreet.answer (discreet : Discreet naming config nodes op args)
    (asked : op.isParameter = false) {left right : RosGraph} (legalLeft : left.Legal naming)
    (legalRight : right.Legal naming) (agree : Agree config left right) {first second : Json}
    {after other : Native}
    (ranLeft : graphReply (quiet.showing nodes left) op args ⟨{ config }, {}, []⟩ = (.ok first, after))
    (ranRight : graphReply (quiet.showing nodes right) op args ⟨{ config }, {}, []⟩ =
      (.ok second, other)) : first = second := by
  obtain ⟨sent, left⟩ := reply_answer asked ranLeft 0 0
  obtain ⟨sent', right⟩ := reply_answer asked ranRight 0 0
  have same := (discreet quiet _ _ legalLeft legalRight agree 0 0 ⟨{ config }, {}, []⟩ rfl).2
  rw [left, right] at same
  have acts := (List.append_inj' same rfl).2
  cases acts
  rfl

/-- The graph without names. -/
def RosGraph.bare : RosGraph := ⟨[], [], fun _ _ => []⟩

/-- The graph in which every node has one name. -/
def RosGraph.only (kind : Endpoint) (name : String) (types : List String) : RosGraph where
  topics := if kind = .services then [] else [(name, types)]
  services := if kind = .services then [(name, types)] else []
  names := fun other _ => if other = kind then [(name, types)] else []

theorem bare_legal : RosGraph.bare.Legal naming where
  topics := fun _ listed => by cases listed
  services := fun _ listed => by cases listed
  distinct := fun kind => by cases kind <;> exact List.nodup_nil
  names := fun _ _ _ listed => by cases listed

/-- The name is one that ROS accepts. -/
def Naming.accepts (naming : Naming) (kind : Endpoint) (name : String) : Prop :=
  if kind = .services then naming.service name else naming.topic name

theorem only_legal (kind : Endpoint) {name : String} {types : List String}
    (named : naming.accepts kind name) (typed : ∀ typ ∈ types, naming.typ typ) :
    (RosGraph.only kind name types).Legal naming := by
  refine ⟨fun entry listed => ?_, fun entry listed => ?_, fun other => ?_,
    fun other node entry listed => ?_⟩
  · cases kind <;> simp [RosGraph.only] at listed <;> exact listed ▸ named
  · cases kind <;> simp [RosGraph.only] at listed
    exact listed ▸ ⟨named, typed⟩
  · cases kind <;> cases other <;> simp [RosGraph.listed, RosGraph.only]
  · cases kind <;> cases other <;> simp [RosGraph.listed, RosGraph.only] at listed ⊢ <;>
      exact listed ▸ ⟨rfl, fun _ => id⟩

theorem only_agree {kind : Endpoint} {name : String} {types : List String}
    (denied : nameAllowed config kind name = false) :
    Agree config (.only kind name types) .bare := by
  have hidden (other : Endpoint) (names : Names) (same : nameAllowed config other name = false)
      (within : names ⊆ [(name, types)]) : AgreeOn (nameAllowed config other) names [] := by
    intro candidate allowed
    rw [getElem?_nameMap_none, getElem?_nameMap_none]
    · intro entry listed
      cases listed
    · rintro entry listed rfl
      have only : entry = (name, types) := List.mem_singleton.mp (within listed)
      rw [only, same] at allowed
      cases allowed
  refine ⟨fun other => ?_, fun other node => ?_⟩
  · cases kind <;> cases other <;> first
      | exact hidden _ _ denied fun _ => id
      | exact fun _ _ => rfl
  · cases kind <;> cases other <;> first
      | exact hidden _ _ denied fun _ => id
      | exact fun _ _ => rfl

theorem texts_injective {left right : List String} (same : texts left = texts right) :
    left = right := by
  have injective : Function.Injective Json.str := fun _ _ equal => Json.str.inj equal
  exact List.map_injective_iff.mpr injective (Json.arr.inj same)

theorem nameMap_single (name : String) (types : List String) :
    (nameMap [(name, types)]).toList = [(name, types)] := rfl

/-- `node_details` shows every name of a node. -/
theorem Discreet.nodeDetails (discreet : Discreet naming config nodes .nodeDetails args) :
    Guarded naming config nodes .nodeDetails args := by
  intro known kind name visible named
  by_contra denied
  rw [Bool.not_eq_true] at denied
  obtain ⟨base, -, typed⟩ := naming.action
  have ran (g : RosGraph) : graphReply (quiet.showing nodes g) .nodeDetails args
      ⟨{ config }, {}, []⟩ = (.ok (.obj [
        ("subscribing", texts (nameMap (g.shown .subscribers (text args "node"))).keys),
        ("publishing", texts (nameMap (g.shown .publishers (text args "node"))).keys),
        ("services", texts (nameMap (g.shown .services (text args "node"))).keys)]),
      (Native.mk { config } {} []).looked.looked.looked) := by
    show nodeDetailsReply (quiet.showing nodes g) args _ = _
    rw [nodeDetailsReply, Program.bind_ok (nodeGraph_known known _),
      Program.bind_ok (nodeGraph_known known _), Program.bind_ok (nodeGraph_known known _)]
    rfl
  have same := discreet.answer rfl
    (only_legal kind named fun typ member => List.mem_singleton.mp member ▸ typed)
    bare_legal (only_agree denied) (ran _) (ran _)
  simp only [Json.obj.injEq, List.cons.injEq, Prod.mk.injEq, true_and, and_true] at same
  have alike : (nameMap ((RosGraph.only kind name [base ++ "_SendGoal"]).shown kind
      (text args "node"))).keys =
        (nameMap (RosGraph.bare.shown kind (text args "node"))).keys := by
    cases kind with
    | publishers => exact texts_injective same.2.1
    | subscribers => exact texts_injective same.1
    | services => exact texts_injective same.2.2
  have shown : (RosGraph.only kind name [base ++ "_SendGoal"]).shown kind (text args "node") =
      [(name, [base ++ "_SendGoal"])] := by
    cases kind <;> simp [RosGraph.shown, RosGraph.only, visible]
  have here : name ∈ (nameMap [(name, [base ++ "_SendGoal"])]).keys :=
    Std.TreeMap.mem_keys.mpr (by
      rw [Std.TreeMap.mem_iff_isSome_getElem?, getElem?_nameMap]
      simp)
  rw [shown] at alike
  rw [alike] at here
  cases here

theorem foldEach_ok {α β : Type} {body : α → Action β} {found : α → β}
    (returns : ∀ item (s : Native), ∃ after, body item s = (.ok (found item), after))
    (items : List α) (done : List β) (s : Native) : ∃ after,
      Program.foldEach items done (fun done item => do return done ++ [← body item]) s =
        (.ok (done ++ items.map found), after) := by
  induction items generalizing done s with
  | nil => exact ⟨s, by rw [List.map_nil, List.append_nil]; rfl⟩
  | cons head tail inductionHypothesis =>
      obtain ⟨next, ran⟩ := returns head s
      obtain ⟨after, rest⟩ := inductionHypothesis (done ++ [found head]) next
      refine ⟨after, ?_⟩
      have first : (do return done ++ [← body head] : Action (List β)) s =
          (.ok (done ++ [found head]), next) := Program.bind_ok ran
      rw [List.map_cons, List.append_cons, ← rest]
      exact Program.bind_ok first

/-- What a node that is asked returns. -/
theorem nodeFound_ok (query : String) (kind : Endpoint) (node : String) : ∃ after,
    nodeFound (env.showing nodes g) op query kind node s =
      (.ok (if Known nodes node ∧ nodeAnswers op query (nameMap (g.shown kind node)) = true then
        some node else none), after) := by
  unfold nodeFound
  by_cases known : Known nodes node
  · have asked : Program.attempt (nodeGraph (env.showing nodes g) node kind) s =
        (.ok (.ok (nameMap (g.shown kind node))), s.looked) := by
      rw [Program.attempt, nodeGraph_known known]
    rw [Program.bind_ok asked]
    refine ⟨s.looked, ?_⟩
    simp only [known, true_and]
    rfl
  · have failed : ∃ cause after, nodeGraph (env.showing nodes g) node kind s =
        (.error cause, after) := by
      cases passed : clean node with
      | true =>
          rw [nodeGraph_clean passed, if_neg fun listed => known ⟨passed, listed⟩]
          exact ⟨_, _, rfl⟩
      | false =>
          have refused : (Program.ensure (clean node) ⟨"nul byte found in provided data"⟩ :
              Action Unit) s = (.error ⟨"nul byte found in provided data"⟩, s) := by
            rw [passed]
            rfl
          exact ⟨_, _, Program.bind_error refused⟩
    obtain ⟨cause, after, failed⟩ := failed
    have asked : Program.attempt (nodeGraph (env.showing nodes g) node kind) s =
        (.ok (.error cause), after) := by
      rw [Program.attempt, failed]
    rw [Program.bind_ok asked, if_neg fun both => known both.1]
    exact ⟨after, rfl⟩

variable (nodes g) in
/-- The nodes that are reported to provide a type. -/
theorem providers_ok (allowed : onList config.services (text args "service") = true) :
    ∃ after, graphReply (quiet.showing nodes g) .serviceProviders args ⟨{ config }, {}, []⟩ =
      (.ok (.obj [("providers", texts (((visibleNodes nodes).map fun node =>
        if Known nodes node ∧ nodeAnswers .serviceProviders (text args "service")
          (nameMap (g.shown .services node)) = true then some node else none).filterMap id))]),
        after) := by
  have finds (node : String) (s : Native) : ∃ after,
      nodeFound (quiet.showing nodes g) .serviceProviders (text args "service") .services node s =
        (.ok (if Known nodes node ∧ nodeAnswers .serviceProviders (text args "service")
          (nameMap (g.shown .services node)) = true then some node else none), after) :=
    nodeFound_ok (text args "service") .services node
  obtain ⟨after, found⟩ := foldEach_ok finds
    (visibleNodes nodes) [] (Native.mk { config } {} []).looked
  refine ⟨after, ?_⟩
  show askNodes (quiet.showing nodes g) .serviceProviders (text args "service") config.services
    .services _ = _
  rw [askNodes, if_pos allowed, Program.bind_ok nodes_showing]
  exact Program.bind_ok found

/-- `service_providers` looks for a type in all services of a node. -/
theorem Discreet.serviceProviders
    (discreet : Discreet naming config nodes .serviceProviders args) :
    Guarded naming config nodes .serviceProviders args := by
  rintro ⟨node, listed, known⟩ asked typed name visible named
  by_contra denied
  rw [Bool.not_eq_true] at denied
  obtain ⟨_, ranLeft⟩ := providers_ok nodes (.only .services name [text args "service"]) asked
  obtain ⟨_, ranRight⟩ := providers_ok nodes .bare asked
  have same := discreet.answer rfl
    (only_legal .services named fun typ member => List.mem_singleton.mp member ▸ typed)
    bare_legal (only_agree denied) ranLeft ranRight
  simp only [Json.obj.injEq, List.cons.injEq, Prod.mk.injEq, true_and, and_true] at same
  have names := texts_injective same
  have nobody : ((visibleNodes nodes).map fun node =>
      if Known nodes node ∧ nodeAnswers .serviceProviders (text args "service")
        (nameMap (RosGraph.bare.shown .services node)) = true then some node else none).filterMap
        id = [] := by
    refine List.filterMap_eq_nil_iff.mpr fun found member => ?_
    obtain ⟨node, -, rfl⟩ := List.mem_map.mp member
    have silent : nodeAnswers .serviceProviders (text args "service")
        (nameMap (RosGraph.bare.shown .services node)) = false := rfl
    rw [id_eq, if_neg]
    rintro ⟨-, loud⟩
    rw [silent] at loud
    exact Bool.false_ne_true loud
  have answers : nodeAnswers .serviceProviders (text args "service")
      (nameMap ((RosGraph.only .services name [text args "service"]).shown .services node)) =
        true := by
    have shown : (RosGraph.only .services name [text args "service"]).shown .services node =
        [(name, [text args "service"])] := by
      simp [RosGraph.shown, RosGraph.only, visible]
    rw [shown, nodeAnswers, if_pos rfl, nameMap_single]
    simp
  have here : node ∈ ((visibleNodes nodes).map fun node =>
      if Known nodes node ∧ nodeAnswers .serviceProviders (text args "service")
        (nameMap ((RosGraph.only .services name [text args "service"]).shown .services node)) =
          true then some node else none).filterMap id :=
    List.mem_filterMap.mpr ⟨some node,
      List.mem_map.mpr ⟨node, listed, if_pos ⟨known, answers⟩⟩, rfl⟩
  rw [names, nobody] at here
  cases here

/-- `action_type` shows the type of a denied service. -/
theorem Discreet.actionType (discreet : Discreet naming config nodes .actionType args) :
    Guarded naming config nodes .actionType args := by
  intro named
  by_contra denied
  rw [Bool.not_eq_true] at denied
  obtain ⟨base, nonempty, typed⟩ := naming.action
  have same := discreet.answer rfl
    (only_legal .services named fun typ member => List.mem_singleton.mp member ▸ typed)
    bare_legal (only_agree denied) rfl rfl
  simp only [Json.obj.injEq, List.cons.injEq, Prod.mk.injEq, true_and, and_true,
    Json.str.injEq] at same
  have shown : Ros.actionType (nameMap (RosGraph.only .services
      (text args "action" ++ "/_action/send_goal") [base ++ "_SendGoal"]).services)
        (text args "action") = base := by
    rw [Ros.actionType, getElem?_nameMap]
    simp [RosGraph.only, stripSuffix_append]
  have none : Ros.actionType (nameMap RosGraph.bare.services) (text args "action") = "" := by
    rw [Ros.actionType, getElem?_nameMap_none fun _ listed => by cases listed]
    rfl
  exact nonempty (shown.symm.trans (same.trans none))

/-- The graph with some topics. -/
def RosGraph.withTopics (topics : Names) : RosGraph := ⟨topics, [], fun _ _ => []⟩

theorem withTopics_legal {topics : Names} (named : ∀ entry ∈ topics, naming.topic entry.1)
    (distinct : (topics.map Prod.fst).Nodup) : (RosGraph.withTopics topics).Legal naming where
  topics := named
  services := fun _ listed => by cases listed
  distinct := fun kind => by
    cases kind with
    | publishers | subscribers => exact distinct
    | services => exact List.nodup_nil
  names := fun _ _ _ listed => by cases listed

theorem withTopics_agree {left right : Names}
    (agree : AgreeOn (topicAllowed config) left right) :
    Agree config (.withTopics left) (.withTopics right) where
  listed := fun kind => by
    cases kind with
    | publishers | subscribers => exact agree
    | services => exact fun _ _ => rfl
  names := fun _ _ _ _ => rfl

/-- A denied entry can be left out of a list. -/
theorem agreeOn_without {test : String → Bool} {topics : Names} {denied : String}
    (hidden : test denied = false) :
    AgreeOn test topics (topics.filter fun entry => decide (entry.1 ≠ denied)) := by
  intro name allowed
  have other : name ≠ denied := fun same => by
    rw [same, hidden] at allowed
    cases allowed
  rw [getElem?_nameMap_filter (fun name => decide (name ≠ denied)), if_pos (decide_eq_true other)]

theorem mem_actionServers {graph : NameMap} {name : String} :
    name ∈ Ros.actionServers config graph ↔ name ++ "/_action/feedback" ∈ graph ∧
      name ++ "/_action/status" ∈ graph ∧ topicAllowed config name = true := by
  rw [Ros.actionServers, List.mem_filter, List.mem_filterMap, Bool.and_eq_true,
    Std.TreeMap.mem_iff_contains]
  refine and_congr ⟨?_, fun found => ?_⟩ (and_congr Std.TreeMap.mem_iff_contains.symm Iff.rfl)
  · rintro ⟨key, listed, stripped⟩
    rw [← stripSuffix_eq stripped]
    exact Std.TreeMap.mem_iff_contains.mp (Std.TreeMap.mem_keys.mp listed)
  · exact ⟨_, Std.TreeMap.mem_keys.mpr (Std.TreeMap.mem_iff_contains.mpr found),
      stripSuffix_append _ _⟩

/-- `action_servers` checks the name of an action and shows which of its topics exist. -/
theorem Discreet.actionServers (discreet : Discreet naming config nodes .actionServers args) :
    Guarded naming config nodes .actionServers args := by
  intro name allowed feedback status
  let topics : Names := [(name ++ "/_action/feedback", []), (name ++ "/_action/status", [])]
  have different : name ++ "/_action/feedback" ≠ name ++ "/_action/status" := fun same => by
    have tails := String.append_right_inj name |>.mp same
    revert tails
    decide
  have named : ∀ entry ∈ topics, naming.topic entry.1 := by
    simp only [topics, List.forall_mem_cons]
    exact ⟨feedback, status, fun _ listed => by cases listed⟩
  have distinct : (topics.map Prod.fst).Nodup := by
    simp only [topics, List.map_cons, List.map_nil, List.nodup_cons, List.mem_singleton]
    exact ⟨different, List.not_mem_nil, List.nodup_nil⟩
  have reported : name ∈ Ros.actionServers config (nameMap topics) := by
    rw [mem_actionServers, Std.TreeMap.mem_iff_isSome_getElem?, Std.TreeMap.mem_iff_isSome_getElem?,
      getElem?_nameMap, getElem?_nameMap]
    exact ⟨by simp [topics], by simp [topics], allowed⟩
  -- without a denied topic of its own the action is not reported
  have shown (topic : String) (needed : ∀ graph : NameMap,
      name ∈ Ros.actionServers config graph → topic ∈ graph) : topicAllowed config topic = true := by
    by_contra hidden
    rw [Bool.not_eq_true] at hidden
    let fewer := topics.filter fun entry => decide (entry.1 ≠ topic)
    have sub : List.Sublist fewer topics := List.filter_sublist
    have same := discreet.answer rfl (withTopics_legal named distinct)
      (withTopics_legal (fun entry listed => named entry (sub.subset listed))
        (distinct.sublist (sub.map _)))
      (withTopics_agree (agreeOn_without hidden)) rfl rfl
    simp only [Json.obj.injEq, List.cons.injEq, Prod.mk.injEq, true_and, and_true] at same
    have alike : Ros.actionServers config (nameMap topics) =
      Ros.actionServers config (nameMap fewer) := texts_injective same
    rw [alike] at reported
    have still := needed _ reported
    rw [Std.TreeMap.mem_iff_isSome_getElem?, getElem?_nameMap_none] at still
    · cases still
    · intro entry listed
      exact of_decide_eq_true (List.mem_filter.mp listed).2
  exact ⟨shown _ fun _ member => (mem_actionServers.mp member).1,
    shown _ fun _ member => (mem_actionServers.mp member).2.1⟩

end Reveal

/-! ### The exact condition -/

/-- A query about the graph or about types is discreet if and only if it is guarded. -/
theorem discreet_iff (naming : Naming) (config : Access) (nodes : List (String × String))
    (op : Query) (args : Json) (asked : op.isParameter = false) :
    Discreet naming config nodes op args ↔ Guarded naming config nodes op args := by
  constructor
  · intro discreet
    unfold Guarded
    split
    · exact discreet.nodeDetails
    · exact discreet.serviceProviders
    · exact discreet.actionType
    · exact discreet.actionServers
    · trivial
  · intro guarded env left right legalLeft legalRight agree entity id s same
    subst same
    have congr : reply (env.showing nodes left) entity id op args s =
        reply (env.showing nodes right) entity id op args s := by
      have value : graphReply (env.showing nodes left) op args s =
          graphReply (env.showing nodes right) op args s :=
        graphReply_congr asked agree legalLeft legalRight guarded
      unfold reply
      rw [if_neg (by rw [asked]; decide), if_neg (by rw [asked]; decide)]
      show Program.bind (graphReply (env.showing nodes left) op args) _ s =
        Program.bind (graphReply (env.showing nodes right) op args) _ s
      rw [Program.bind, Program.bind, value]
      rfl
    exact ⟨congrArg Prod.fst congr, congrArg (fun ran => ran.2.trace) congr⟩

/-- Every name is accepted. -/
def anyName : Naming :=
  ⟨fun _ => True, fun _ => True, fun _ => True, "example_interfaces/action/Fibonacci", by decide,
    trivial⟩

/-- Lists that allow the topics and services of one robot. -/
def oneRobot : Access :=
  let robot : Pattern := ⟨"/robot*", fun name => "/robot".toList.isPrefixOf name.toList⟩
  { pubTopics := some [robot], subTopics := some [], services := some [robot] }

theorem discreet_topics : Discreet anyName oneRobot [("talker", "/")] .topics (.obj []) :=
  (discreet_iff anyName oneRobot [("talker", "/")] .topics (.obj []) rfl).mpr trivial

/-- Four queries reveal what the lists of one robot deny: the names of a node, a node that
has a service of a type, the type of an action, and the actions with both topics. -/
theorem discovery_reveals :
    ¬ Discreet anyName oneRobot [("talker", "/")] .nodeDetails (.obj [("node", .str "/talker")]) ∧
      ¬ Discreet anyName oneRobot [("talker", "/")] .serviceProviders
        (.obj [("service", .str "/robot_msgs/srv/Stop")]) ∧
      ¬ Discreet anyName oneRobot [("talker", "/")] .actionType
        (.obj [("action", .str "/other")]) ∧
      ¬ Discreet anyName { oneRobot with pubTopics := some [⟨"/arm", fun name => name = "/arm"⟩] }
        [("talker", "/")] .actionServers (.obj []) := by
  have known : Known [("talker", "/")] "/talker" := by decide +kernel
  have listed : "/talker" ∈ visibleNodes [("talker", "/")] := by decide +kernel
  refine ⟨fun discreet => ?_, fun discreet => ?_, fun discreet => ?_, fun discreet => ?_⟩
  · have allowed := discreet.nodeDetails known .publishers "/secret" (by decide +kernel) trivial
    revert allowed
    decide +kernel
  · have allowed := discreet.serviceProviders ⟨_, listed, known⟩ (by decide +kernel) trivial
      "/secret" (by decide +kernel) trivial
    revert allowed
    decide +kernel
  · have allowed := discreet.actionType trivial
    revert allowed
    decide +kernel
  · have allowed := discreet.actionServers "/arm" (by decide +kernel) trivial trivial
    revert allowed
    decide +kernel

end Rosbridge.Ros
