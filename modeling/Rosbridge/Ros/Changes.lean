import Rosbridge.Foundation.Trail
import Rosbridge.Ros.Api
import Rosbridge.Ros.Rules

/-!
What rosapi does, change by change.

Owns: `Change`, one thing that happens to the tables of rosapi, with the acts it leaves in
the history; and that the functions which serve a parameter request take only changes to
the group of that request, and leave it in a group only if an answer is still to come.
-/

set_option autoImplicit false

namespace Rosbridge.Ros

open Foundation Program

/-! ### Changes -/

/-- One thing that happens. A change of the request `id` names its group. -/
inductive Change where
  | watched (acts : Trace)
  | opened (id : Nat) (group : Group)
  | refused (name typ : String) (cause : Error)
  | dropped (name typ : String) (args : Json) (cause : Error)
  | issued (id : Nat) (name typ : String) (args : Json) (sequence : Int) (pending : Pending)
  | answered (entity : Entity) (sequence : Int) (pending : Pending)
  | listed (id : Nat) (names : List String)
  | closed (id : Nat) (group : Group) (keys : List (Entity × Int)) (value : Json)
      (reply : Except Error Unit)
  | replied (entity : Entity) (id : Nat) (value : Json) (reply : Except Error Unit)

/-- What rosapi asks a node for: all parameters, or one that is on the list. -/
inductive Asks (params : Option (List Pattern)) : String → Json → Prop where
  | all : Asks params "rcl_interfaces/srv/ListParameters"
      (.obj [("prefixes", .arr []), ("depth", .int 0)])
  | read {name : String} (listed : onList params name = true) :
      Asks params "rcl_interfaces/srv/GetParameters" (.obj [("names", .arr [.str name])])
  | write {name : String} {value : Json} (listed : onList params name = true) :
      Asks params "rcl_interfaces/srv/SetParameters"
        (.obj [("parameters", .arr [.obj [("name", .str name), ("value", value)]])])

/-- The request names a parameter that is on the list. -/
def ParameterNames (params : Option (List Pattern)) (args : Json) : Prop :=
  ∃ node name, splitOnce (text args "name") ':' = some (node, name) ∧ onList params name = true

/-- The full name of a parameter that is on the list. -/
def Shows (params : Option (List Pattern)) (full : String) : Prop :=
  ∃ node name, full = node ++ ":" ++ name ∧ onList params name = true

/-- A look at the clock, the graph or a map, or a request that is forgotten. -/
def Act.isIdle : Act → Bool
  | .graph | .instant _ | .order _ | .discardRequest _ _ => true
  | _ => false

/-- What a change does, and when it can happen. Of the node only the number of the next
entity matters here. -/
inductive Alters : Change → Native → Native → Prop where
  | watched {s : Native} {definitions : Definitions} {node : Node} {acts : Trace}
      (idle : ∀ act ∈ acts, act.isIdle = true) (next : s.node.next ≤ node.next) :
      Alters (.watched acts) s ⟨{ s.api with definitions }, node, s.trace ++ acts⟩
  | opened {s : Native} {id : Nat} {group : Group} (fresh : s.api.groups.lookup id = none)
      (named : group.request = id) (idle : group.remaining = 0) (bare : group.names = [])
      (served : s.api.operations.lookup group.service = some group.op) :
      Alters (.opened id group) s
        { s with api := { s.api with groups := s.api.groups.insert id group } }
  | refused {s : Native} {name typ : String} {cause : Error} :
      Alters (.refused name typ cause) s (s.noting (.client name typ (.error cause)))
  | dropped {s : Native} {node : Node} {name typ : String} {args : Json} {cause : Error}
      (next : node.next = s.node.next + 1) :
      Alters (.dropped name typ args cause) s ⟨s.api, node, s.trace ++
        [.client name typ (.ok (s.node.next + 1)), .request (s.node.next + 1) args (.error cause),
          .destroy (s.node.next + 1)]⟩
  | issued {s : Native} {node : Node} {id : Nat} {group : Group} {name typ : String} {args : Json}
      {sequence : Int} {pending : Pending} (next : node.next = s.node.next + 1)
      (known : s.api.groups.lookup id = some group) (owned : pending.group = id)
      (checked : pending.deleteCheck = true → ParameterNames s.api.config.params group.args) :
      Alters (.issued id name typ args sequence pending) s
        ⟨{ s.api with
            pending := s.api.pending.insert (s.node.next + 1, sequence) pending
            groups := s.api.groups.alter id fun g => { g with remaining := g.remaining + 1 } },
          node, s.trace ++ [.client name typ (.ok (s.node.next + 1)),
            .request (s.node.next + 1) args (.ok sequence)]⟩
  | answered {s : Native} {node : Node} {entity : Entity} {sequence : Int} {pending : Pending}
      {group : Group} (next : node.next = s.node.next)
      (waiting : s.api.pending.lookup (entity, sequence) = some pending)
      (known : s.api.groups.lookup pending.group = some group) (some : 0 < group.remaining) :
      Alters (.answered entity sequence pending) s
        ⟨{ s.api with
            pending := s.api.pending.erase (entity, sequence)
            groups := s.api.groups.alter pending.group fun g =>
              { g with remaining := g.remaining - 1 } },
          node, s.trace ++ [.destroy entity]⟩
  | listed {s : Native} {id : Nat} {names : List String}
      (shown : ∀ full ∈ names, Shows s.api.config.params full) :
      Alters (.listed id names) s
        { s with api := { s.api with groups := s.api.groups.alter id fun g =>
            { g with names := g.names ++ names } } }
  | closed {s : Native} {node : Node} {id : Nat} {group : Group} {keys : List (Entity × Int)}
      {code : Nat} {value : Json} {reply : Except Error Unit} (next : node.next = s.node.next)
      (known : s.api.groups.lookup id = some group) (distinct : keys.Nodup)
      (lists : group.op = .getParamNames →
        value = .obj [("names", .arr (group.names.map Json.str))])
      (all : ∀ key, key ∈ keys ↔ ∃ p, s.api.pending.lookup key = some p ∧ p.group = id) :
      Alters (.closed id group keys value reply) s
        ⟨{ s.api with
            groups := s.api.groups.erase id
            pending := s.api.pending.eraseAll keys },
          node, s.trace ++ (.order code :: keys.map fun key => .destroy key.1) ++
            [.respond group.service group.request value reply]⟩
  | replied {s : Native} {node : Node} {entity : Entity} {id : Nat} {value : Json}
      {reply : Except Error Unit} {op : Query} (next : node.next = s.node.next)
      (served : s.api.operations.lookup entity = some op) (plain : op.isParameter = false) :
      Alters (.replied entity id value reply) s
        ⟨s.api, node, s.trace ++ [.respond entity id value reply]⟩

/-- A change while the request `id` is served. -/
def Change.Serves (params : Option (List Pattern)) (id : Nat) : Change → Prop
  | .watched _ | .refused _ _ _ => True
  | .dropped _ typ args _ => Asks params typ args
  | .issued other _ typ args _ _ => other = id ∧ Asks params typ args
  | .listed other _ | .closed other _ _ _ _ => other = id
  | .opened _ _ | .answered _ _ _ | .replied _ _ _ _ => False

/-- A run of changes while the request `id` is served. -/
abbrev Served (id : Nat) (s after : Native) : Prop :=
  Follows Alters (Change.Serves s.api.config.params id) s after

/-- No change touches what the API was started with. -/
theorem Alters.constant {change : Change} {s after : Native} (altered : Alters change s after) :
    after.api.config = s.api.config ∧ after.api.operations = s.api.operations := by
  cases altered <;> exact ⟨rfl, rfl⟩

theorem Served.config {id : Nat} {s after : Native} (served : Served id s after) :
    after.api.config = s.api.config := by
  refine served.invariant (fun state => state.api.config = s.api.config) ?_ rfl
  intro change before after _ altered same
  exact altered.constant.1.trans same

theorem Served.trans {id : Nat} {s middle after : Native} (first : Served id s middle)
    (second : Served id middle after) : Served id s after := by
  rw [Served, first.config] at second
  exact Follows.trans first second

/-- No change takes anything back. -/
theorem Alters.extends {change : Change} {s after : Native} (altered : Alters change s after) :
    s.trace <+: after.trace := by
  cases altered with
  | opened | listed => exact List.prefix_refl _
  | closed =>
      rw [List.append_assoc]
      exact List.prefix_append _ _
  | _ => exact List.prefix_append _ _

theorem Served.extends {id : Nat} {s after : Native} (served : Served id s after) :
    s.trace <+: after.trace := by
  refine served.invariant (fun state => s.trace <+: state.trace) ?_ (List.prefix_refl _)
  intro change before after _ altered earlier
  exact earlier.trans altered.extends

/-- From one state to the other a reply was refused. -/
def Unsent (s after : Native) : Prop :=
  ∃ acts entity id value cause, after.trace = s.trace ++ acts ∧
    Act.respond entity id value (.error cause) ∈ acts

theorem unsent_iff {s after : Native} {acts : Trace} (same : after.trace = s.trace ++ acts) :
    Unsent s after ↔ ∃ entity id value cause,
      Act.respond entity id value (.error cause) ∈ acts := by
  constructor
  · rintro ⟨others, entity, id, value, cause, also, member⟩
    rw [List.append_cancel_left (also.symm.trans same)] at member
    exact ⟨entity, id, value, cause, member⟩
  · rintro ⟨entity, id, value, cause, member⟩
    exact ⟨acts, entity, id, value, cause, same, member⟩

/-- Acts before that refused no reply do not matter. -/
theorem unsent_after {s middle after : Native} {early : Trace}
    (same : middle.trace = s.trace ++ early)
    (none : ∀ entity id value cause, Act.respond entity id value (.error cause) ∉ early)
    (later : middle.trace <+: after.trace) : Unsent s after ↔ Unsent middle after := by
  obtain ⟨late, rest⟩ := later
  rw [unsent_iff rest.symm, @unsent_iff s after (early ++ late)
    (by rw [← rest, same, List.append_assoc])]
  constructor
  · rintro ⟨entity, id, value, cause, member⟩
    rcases List.mem_append.mp member with inEarly | inLate
    · exact (none entity id value cause inEarly).elim
    · exact ⟨entity, id, value, cause, inLate⟩
  · rintro ⟨entity, id, value, cause, member⟩
    exact ⟨entity, id, value, cause, List.mem_append_right _ member⟩

/-- The request is answered, or an answer of a node is still to come. -/
def Settled (id : Nat) (s : Native) : Prop :=
  ∀ g, s.api.groups.lookup id = some g → 0 < g.remaining

/-- The request is settled, and the failures are the replies that are refused. -/
structure Settles (id : Nat) (reply : Except Error Unit) (s after : Native) : Prop where
  settled : Settled id after
  failed : Unsent s after ↔ ∃ cause, reply = .error cause

/-! ### Finishing -/

section Finish

variable (env : Middleware) {s : Native} {id : Nat}

/-- The node without an entity. -/
def Node.without (n : Node) (entity : Entity) : Node :=
  { n with
    requests := n.requests.filter fun key => key.1 ≠ entity
    handles := n.handles.erase entity }

theorem destroy_run (entity : Entity) : destroy entity s =
    (.ok (), { s with node := s.node.without entity }.noting (.destroy entity)) := rfl

/-- The calls that a request no longer waits for. -/
theorem forget_run (calls : List ((Entity × Int) × Pending)) (s : Native) : ∃ node,
    node.next = s.node.next ∧ forEach calls forget s =
      (.ok (), ⟨{ s.api with pending := s.api.pending.eraseAll (calls.map Prod.fst) }, node,
        s.trace ++ (calls.map Prod.fst).map fun key => .destroy key.1⟩) := by
  induction calls generalizing s with
  | nil => exact ⟨s.node, rfl, by rw [List.map_nil, List.map_nil, List.append_nil]; rfl⟩
  | cons call rest inductionHypothesis =>
      obtain ⟨node, next, ran⟩ := inductionHypothesis
        ({ s with
          api := { s.api with pending := s.api.pending.erase call.1 }
          node := s.node.without call.1.1 }.noting (.destroy call.1.1))
      refine ⟨node, next, ?_⟩
      rw [forEach]
      refine (bind_ok rfl).trans (ran.trans ?_)
      rw [Native.noting_trace, List.append_assoc]
      rfl

/-- The calls of a group, in the order they are visited. -/
def groupCalls (code : Nat) (a : Api) (id : Nat) : List ((Entity × Int) × Pending) :=
  (permute code (a.pending.entries.map fun entry => (entry.1, entry.2))).filter fun call =>
    call.2.group = id

theorem mem_groupCalls {code : Nat} {a : Api} {call : (Entity × Int) × Pending} :
    call ∈ groupCalls code a id ↔ a.pending.lookup call.1 = some call.2 ∧ call.2.group = id := by
  rw [groupCalls, List.mem_filter, mem_permute, List.mem_map, decide_eq_true_eq,
    AList.lookup_eq_some_iff]
  refine and_congr_left fun _ => ⟨?_, fun listed => ⟨_, listed, rfl⟩⟩
  rintro ⟨entry, listed, rfl⟩
  exact listed

theorem groupCalls_nodup (code : Nat) (a : Api) : ((groupCalls code a id).map Prod.fst).Nodup := by
  have keys : (permute code (a.pending.entries.map fun entry => (entry.1, entry.2))).map Prod.fst
      |>.Nodup := by
    refine (((permute_perm code _).map Prod.fst).nodup_iff).mpr ?_
    rw [List.map_map]
    exact a.pending.nodupKeys
  exact keys.sublist (List.filter_sublist.map Prod.fst)

theorem finish_known {group : Group} (known : s.api.groups.lookup id = some group)
    (value : Option Json) (error : Option String) :
    finish env id value error s = closeGroup env id group value error s := by
  refine (bind_ok (show api s = (.ok s.api, s) from rfl)).trans ?_
  rw [known]

theorem finish_run {group : Group} (known : s.api.groups.lookup id = some group)
    (value : Option Json) (error : Option String) : ∃ keys reply after,
      finish env id value error s = (answered reply, after) ∧
        Alters (.closed id group keys (groupResponse env group value error) reply) s after := by
  have all (key : Entity × Int) :
      key ∈ (groupCalls (env.order s.trace) s.api id).map Prod.fst ↔
        ∃ p, s.api.pending.lookup key = some p ∧ p.group = id := by
    rw [List.mem_map]
    exact ⟨fun ⟨call, member, same⟩ => ⟨call.2, same ▸ mem_groupCalls.mp member⟩,
      fun ⟨p, held⟩ => ⟨(key, p), mem_groupCalls.mpr held, rfl⟩⟩
  obtain ⟨node, next, forgot⟩ := forget_run (groupCalls (env.order s.trace) s.api id)
    ({ s with api := { s.api with groups := s.api.groups.erase id } }.noting
      (.order (env.order s.trace)))
  obtain ⟨reply, requests, responded⟩ := respond_spec env
    (s := ⟨{ s.api with
        groups := s.api.groups.erase id
        pending := s.api.pending.eraseAll
          ((groupCalls (env.order s.trace) s.api id).map Prod.fst) }, node,
      s.trace ++ [.order (env.order s.trace)] ++
        ((groupCalls (env.order s.trace) s.api id).map Prod.fst).map fun key => .destroy key.1⟩)
    group.service group.request (groupResponse env group value error)
  refine ⟨(groupCalls (env.order s.trace) s.api id).map Prod.fst, reply, _,
    (finish_known env known value error).trans ((bind_ok rfl).trans
    ((bind_ok rfl).trans ((bind_ok rfl).trans ((bind_ok forgot).trans responded)))), ?_⟩
  show Alters _ s ⟨_, _, s.trace ++ [.order (env.order s.trace)] ++ _ ++ _⟩
  rw [← List.append_cons]
  refine .closed next known (groupCalls_nodup (env.order s.trace) s.api) (fun lists => ?_) all
  rw [groupResponse, lists]

/-- A finished request is settled. -/
theorem finish_settled {group : Group} {keys : List (Entity × Int)} {value : Json}
    {reply : Except Error Unit} {after : Native}
    (closed : Alters (.closed id group keys value reply) s after) : Settled id after := by
  intro g found
  cases closed
  rw [AList.lookup_erase] at found
  cases found

end Finish

/-! ### Requests to nodes -/

section Issue

variable (env : Middleware) {s : Native} {id : Nat}

/-- How a request on a new client ends. -/
theorem requestOn_run (service typ : String) (payload : Json) :
    (∃ cause after, requestOn env service typ payload s = (.error cause, after) ∧
        env.create s.trace ⟨.client, service, typ⟩ = .error cause ∧
          Alters (.refused service typ cause) s after) ∨
      (∃ cause after, requestOn env service typ payload s =
          (.ok (s.node.next + 1, .error cause), after) ∧
        Alters (.dropped service typ payload cause) s after) ∨
      ∃ sequence node, node.next = s.node.next + 1 ∧
        requestOn env service typ payload s = (.ok (s.node.next + 1, .ok sequence),
          ⟨s.api, node, s.trace ++ [.client service typ (.ok (s.node.next + 1)),
            .request (s.node.next + 1) payload (.ok sequence)]⟩) := by
  rcases client_spec env (s := s) service typ with
    ⟨-, created⟩ | ⟨cause, refused, failed⟩
  · obtain ⟨reply, requests, asked⟩ := request_spec env
      (s := { s with node := s.node.with ⟨.client, service, typ⟩ }.noting
        (.client service typ (.ok (s.node.next + 1)))) (s.node.next + 1) payload
    have asked := attempt_of asked
    cases reply with
    | error cause =>
        refine .inr (.inl ⟨cause, _, (bind_ok created).trans ((bind_ok asked).trans
          (bind_ok (destroy_run _))), ?_⟩)
        have next : ({ s.node.with ⟨.client, service, typ⟩ with requests }.without
            (s.node.next + 1)).next = s.node.next + 1 := rfl
        have dropped : Alters (.dropped service typ payload cause) s _ := .dropped next
        rw [List.append_cons, List.append_cons] at dropped
        exact dropped
    | ok sequence =>
        refine .inr (.inr ⟨sequence, { s.node.with ⟨.client, service, typ⟩ with requests }, rfl,
          (bind_ok created).trans ((bind_ok asked).trans ?_)⟩)
        rw [List.append_cons]
        rfl
  · exact .inl ⟨cause, _, bind_error failed, refused, .refused⟩

/-- A request to a node is waited for, or was refused. -/
theorem issue_run {group : Group} (known : s.api.groups.lookup id = some group) {op : Query}
    {call : NodeCall} (asks : Asks s.api.config.params ("rcl_interfaces/srv/" ++ call.typ) call.payload)
    (checked : op = .deleteParam → ParameterNames s.api.config.params group.args) :
    ∃ reply after, issue env id op call s = (answered reply, after) ∧ Served id s after ∧
      after.api.groups.lookup id = some { group with
        remaining := group.remaining + if reply = .ok () then 1 else 0 } := by
  rcases requestOn_run env (s := s) call.service ("rcl_interfaces/srv/" ++ call.typ)
      call.payload with
    ⟨cause, after, ran, -, refused⟩ | ⟨cause, after, ran, dropped⟩ | ⟨sequence, node, next, ran⟩
  · refine ⟨.error cause, after, bind_error ran, .single refused trivial, ?_⟩
    cases refused
    exact known
  · refine ⟨.error cause, after, (bind_ok ran).trans (bind_error rfl), .single dropped asks, ?_⟩
    cases dropped
    exact known
  · have issued : Alters (.issued id call.service ("rcl_interfaces/srv/" ++ call.typ) call.payload
        sequence ⟨id, call.node, op = .deleteParam⟩) s _ :=
      .issued next known rfl fun deletes => checked (of_decide_eq_true deletes)
    refine ⟨.ok (), _, (bind_ok ran).trans ((bind_ok rfl).trans ((bind_ok rfl).trans
      ((bind_ok rfl).trans ((bind_ok (unwrap_some known)).trans rfl)))),
      .single issued ⟨rfl, asks⟩, ?_⟩
    show (s.api.groups.alter id fun g => { g with remaining := g.remaining + 1 }).lookup id = _
    rw [AList.lookup_alter, if_pos rfl, known, if_pos rfl]
    rfl

/-- All requests to nodes are made in turn, until one is refused. -/
theorem issues_run {group : Group} (op : Query) {calls : List NodeCall}
    (known : s.api.groups.lookup id = some group)
    (asks : ∀ call ∈ calls,
      Asks s.api.config.params ("rcl_interfaces/srv/" ++ call.typ) call.payload)
    (checked : op = .deleteParam → ParameterNames s.api.config.params group.args) :
    ∃ reply after, forEach calls (issue env id op) s = (answered reply, after) ∧
      Served id s after ∧ ∃ made, after.api.groups.lookup id = some { group with
        remaining := group.remaining + made } := by
  induction calls generalizing s group with
  | nil => exact ⟨.ok (), s, rfl, .refl s, 0, known⟩
  | cons call rest inductionHypothesis =>
      rw [List.forall_mem_cons] at asks
      obtain ⟨reply, middle, ran, served, found⟩ :=
        issue_run env known asks.1 checked
      cases reply with
      | error cause => exact ⟨.error cause, middle, bind_error ran, served, _, found⟩
      | ok _ =>
          rw [← served.config] at asks checked
          obtain ⟨reply, after, done, rests, made, known⟩ :=
            inductionHypothesis found asks.2 checked
          refine ⟨reply, after, (bind_ok ran).trans done, Served.trans served rests, 1 + made, ?_⟩
          rw [known, if_pos rfl, Nat.add_assoc]

end Issue

/-! ### Parameter requests -/

section Parameter

variable (env : Middleware) {s : Native} {id : Nat}

/-- A program that only looks, and at most learns definitions. -/
def Looks {α : Type} (program : Action α) (passes : α → Prop) (s : Native) : Prop :=
  ∃ reply acts definitions,
    program s = (answered reply, ⟨{ s.api with definitions }, s.node, s.trace ++ acts⟩) ∧
      (∀ act ∈ acts, act.isIdle = true) ∧ ∀ value, reply = .ok value → passes value

section Looks

variable {α β : Type} {passes : α → Prop}

theorem Looks.of_value {program : Action α} (reply : Except Error α) (acts : Trace)
    (ran : program s = (answered reply, ⟨s.api, s.node, s.trace ++ acts⟩))
    (idle : ∀ act ∈ acts, act.isIdle = true) (pass : ∀ value, reply = .ok value → passes value) :
    Looks program passes s :=
  ⟨reply, acts, s.api.definitions, ran, idle, pass⟩

theorem Looks.look (answer : Trace → Except Error α) : Looks (look answer) (fun _ => True) s := by
  apply Looks.of_value (answer s.trace) [.graph]
  · show ofExcept (answer s.trace) _ = _
    cases answer s.trace <;> rfl
  · simp [Act.isIdle]
  · exact fun _ _ => trivial

/-- A program that only reads the state. -/
theorem Looks.reads {program : Action α} {value : α} (ran : program s = (.ok value, s))
    (pass : passes value) : Looks program passes s := by
  apply Looks.of_value (.ok value) []
  · rw [ran, List.append_nil]
    rfl
  · simp
  · intro other same
    cases same
    exact pass

theorem Looks.api : Looks api (fun a => a = s.api) s := .reads rfl rfl

theorem Looks.node : Looks node (fun _ => True) s := .reads rfl trivial

theorem Looks.consult (answer : Trace → α) : Looks (consult answer) (fun _ => True) s :=
  .reads rfl trivial

theorem Looks.pure {value : α} (pass : passes value) : Looks (Pure.pure value) passes s :=
  .reads rfl pass

theorem Looks.ofExcept {reply : Except Error α}
    (pass : ∀ value, reply = .ok value → passes value) :
    Looks (Program.ofExcept reply) passes s := by
  refine .of_value reply [] ?_ (by simp) pass
  rw [List.append_nil]
  cases reply <;> rfl

theorem Looks.bind {first : Action α} {next : α → Action β} {held : β → Prop}
    (looks : Looks first passes s)
    (rest : ∀ value, passes value → ∀ definitions trace,
      Looks (next value) held ⟨{ s.api with definitions }, s.node, trace⟩) :
    Looks (first >>= next) held s := by
  obtain ⟨cause | value, acts, definitions, ran, idle, pass⟩ := looks
  · exact ⟨.error cause, acts, definitions, bind_error ran, idle, fun _ same => by cases same⟩
  · obtain ⟨reply, others, learnt, done, still, pass⟩ :=
      rest value (pass value rfl) definitions (s.trace ++ acts)
    refine ⟨reply, acts ++ others, learnt, (bind_ok ran).trans ?_, ?_, pass⟩
    · rw [done, List.append_assoc]
    · rw [List.forall_mem_append]
      exact ⟨idle, still⟩

/-- A look leaves the tables as they are. -/
theorem Looks.watched {definitions : Definitions} {acts : Trace}
    (idle : ∀ act ∈ acts, act.isIdle = true) :
    Alters (.watched acts) s ⟨{ s.api with definitions }, s.node, s.trace ++ acts⟩ :=
  .watched idle (Nat.le_refl _)

end Looks

theorem parameterPayload_asks {params : Option (List Pattern)} {op : Query} {args : Json}
    {name : String} {payload : String × String × Json} (listed : onList params name = true)
    (built : parameterPayload env op args name = .ok payload) :
    Asks params ("rcl_interfaces/srv/" ++ payload.2.1) payload.2.2 := by
  unfold parameterPayload at built
  split at built
  · cases built
    exact .read listed
  · cases parsed : env.fromStr (text args "value") with
    | error cause =>
        rw [parsed] at built
        cases built
    | ok value =>
        rw [parsed] at built
        change (parameterValue value >>= _) = _ at built
        cases converted : parameterValue value with
        | error cause =>
            rw [converted] at built
            cases built
        | ok value =>
            rw [converted] at built
            cases built
            exact .write listed

/-- The request for one parameter names one on the list. -/
theorem parameterCall_asks {config : Access} {graph : NameMap} {op : Query} {args : Json}
    {call : NodeCall} (called : parameterCall env config graph op args = .ok call) :
    Asks config.params ("rcl_interfaces/srv/" ++ call.typ) call.payload ∧
      ParameterNames config.params args := by
  unfold parameterCall at called
  split at called
  · cases called
  · next node name split =>
      split at called
      · next listed =>
          refine ⟨?_, node, name, split, listed⟩
          cases built : parameterPayload env op args name with
          | error cause =>
              rw [built] at called
              cases called
          | ok payload =>
              rw [built] at called
              change (if _ then _ else _) = _ at called
              split at called
              · cases called
                exact parameterPayload_asks env listed built
              · cases called
      · cases called

/-- The requests to nodes that serve a parameter request. -/
theorem nodeCalls_looks (op : Query) (args : Json) :
    Looks (nodeCalls env op args) (fun calls =>
      (∀ call ∈ calls,
        Asks s.api.config.params ("rcl_interfaces/srv/" ++ call.typ) call.payload) ∧
      (op = .deleteParam → ParameterNames s.api.config.params args)) s := by
  unfold nodeCalls services
  have looked : Looks (do return nameMap (← look env.services)) (fun _ => True) s :=
    (Looks.look env.services).bind fun _ _ _ _ => .pure trivial
  refine looked.bind fun graph _ definitions trace => ?_
  by_cases lists : op = .getParamNames
  · rw [if_pos lists]
    unfold nodes
    have listed : Looks (do
        let names ← look env.nodeNames
        return (names.map fun entry => trimEndMatches entry.2 '/' ++ "/" ++ entry.1).filter
          isPublic) (fun _ => True) ⟨{ s.api with definitions }, s.node, trace⟩ :=
      (Looks.look env.nodeNames).bind fun _ _ _ _ => .pure trivial
    refine listed.bind fun names _ _ _ => .pure ⟨fun call member => ?_, ?_⟩
    · obtain ⟨node, -, listed⟩ := List.mem_filterMap.mp member
      unfold listCall at listed
      split at listed
      · cases listed
        exact .all
      · cases listed
    · rintro rfl
      cases lists
  · rw [if_neg lists]
    refine Looks.api.bind fun a same _ _ => ?_
    have built : ∀ call, parameterCall env a.config graph op args = .ok call →
        Asks s.api.config.params ("rcl_interfaces/srv/" ++ call.typ) call.payload ∧
          ParameterNames s.api.config.params args := by
      intro call called
      rw [same] at called
      exact parameterCall_asks env called
    refine (Looks.ofExcept built).bind fun call held _ _ => .pure ⟨fun other member => ?_, ?_⟩
    · rw [List.mem_singleton.mp member]
      exact held.1
    · exact fun _ => held.2

theorem after_run (duration : Duration) :
    (∃ reading deadline, after env duration s =
        (.ok deadline, ⟨s.api, s.node, s.trace ++ [.instant reading]⟩)) ∨
      Instant.add? (env.instant s.trace) duration = none ∧ ∃ reading, after env duration s =
        (.panic "overflow when adding duration to instant",
          ⟨s.api, s.node, s.trace ++ [.instant reading]⟩) := by
  unfold after
  show (∃ reading deadline, unwrap _ (Instant.add? (env.instant s.trace) duration) _ = _) ∨
    _ ∧ ∃ reading, unwrap _ (Instant.add? (env.instant s.trace) duration) _ = _
  cases Instant.add? (env.instant s.trace) duration with
  | some deadline => exact .inl ⟨env.instant s.trace, deadline, rfl⟩
  | none => exact .inr ⟨rfl, env.instant s.trace, rfl⟩

/-- The nodes are asked. -/
theorem ask_run {group : Group} (op : Query) {args : Json}
    (known : s.api.groups.lookup id = some group) (same : group.args = args) :
    ∃ reply after, (do
        let calls ← nodeCalls env op args
        forEach calls (issue env id op) : Action Unit) s = (answered reply, after) ∧
      Served id s after ∧ ∃ made, after.api.groups.lookup id = some { group with
        remaining := group.remaining + made } := by
  obtain ⟨cause | calls, acts, definitions, ran, idle, asks⟩ :=
    nodeCalls_looks env (s := s) op args
  · exact ⟨.error cause, _, bind_error ran, .single (Looks.watched idle) trivial, 0, known⟩
  · obtain ⟨asks, checked⟩ := asks calls rfl
    rw [← same] at checked
    obtain ⟨reply, after, done, served, made⟩ := issues_run env op
      (s := ⟨{ s.api with definitions }, s.node, s.trace ++ acts⟩) known asks checked
    refine ⟨reply, after, (bind_ok ran).trans done, ?_, made⟩
    exact Served.trans (.single (Looks.watched idle) trivial) served

/-- The request is finished. -/
theorem finish_served {group : Group} (known : s.api.groups.lookup id = some group)
    (value : Option Json) (error : Option String) : ∃ reply after,
      finish env id value error s = (answered reply, after) ∧ Served id s after ∧
        Settles id reply s after := by
  obtain ⟨keys, reply, after, ran, closed⟩ := finish_run env known value error
  refine ⟨reply, after, ran, .single closed rfl, finish_settled closed, ?_⟩
  cases closed
  rw [unsent_iff (List.append_assoc _ _ _)]
  constructor
  · rintro ⟨entity, request, content, cause, member⟩
    rcases List.mem_append.mp member with early | last
    · simp at early
    · rw [List.mem_singleton] at last
      cases last
      exact ⟨cause, rfl⟩
  · rintro ⟨cause, rfl⟩
    exact ⟨_, _, _, cause, List.mem_append_right _ List.mem_cons_self⟩

/-- A parameter request is put into a group, and settled. -/
theorem parameter_run {service : Entity} {op : Query} (args : Json)
    (operation : s.api.operations.lookup service = some op)
    (fresh : s.api.groups.lookup id = none) :
    (∃ site after, parameter env service id op args s = (.panic site, after) ∧
        site = "overflow when adding duration to instant" ∧
          Instant.add? (env.instant s.trace) s.api.parameterTimeout = none) ∨
      ∃ reply acts group middle opened after,
        parameter env service id op args s = (answered reply, after) ∧
          group.service = service ∧ group.op = op ∧ Alters (.watched acts) s middle ∧
          Alters (.opened id group) middle opened ∧ Served id opened after ∧ Settled id after := by
  rcases after_run env (s := s) s.api.parameterTimeout with
    ⟨reading, deadline, ran⟩ | ⟨none, reading, ran⟩
  · have first : Alters (.watched [.instant reading]) s
        ⟨s.api, s.node, s.trace ++ [.instant reading]⟩ :=
      @Looks.watched s s.api.definitions _ (by simp [Act.isIdle])
    have opened : Alters (.opened id ⟨service, id, op, args, 0, [], deadline⟩)
        ⟨s.api, s.node, s.trace ++ [.instant reading]⟩ _ := .opened fresh rfl rfl rfl operation
    obtain ⟨reply, asked, tried, served, made, known⟩ := ask_run env
      (s := ⟨{ s.api with groups := s.api.groups.insert id ⟨service, id, op, args, 0, [], deadline⟩ },
        s.node, s.trace ++ [.instant reading]⟩)
      op (AList.lookup_insert _) rfl
    have tried := attempt_of tried
    have started {final : Outcome Error Unit × Native} (rest : conclude env id reply asked = final) :
        parameter env service id op args s = final :=
      (bind_ok rfl).trans ((bind_ok ran).trans ((bind_ok rfl).trans ((bind_ok tried).trans rest)))
    cases reply with
    | error cause =>
        obtain ⟨sent, after, done, finished, settles⟩ :=
          finish_served env known none (some cause.message)
        exact .inr ⟨sent, _, _, _, _, after, started done, rfl, rfl, first, opened,
          Served.trans served finished, settles.settled⟩
    | ok _ =>
        by_cases none : made = 0
        · obtain ⟨sent, after, done, finished, settles⟩ :=
            finish_served env known Option.none Option.none
          refine .inr ⟨sent, _, _, _, _, after, started ((bind_ok rfl).trans
            ((bind_ok (unwrap_some known)).trans ?_)), rfl, rfl, first, opened,
            Served.trans served finished, settles.settled⟩
          rw [whenever, if_pos (by simp [none])]
          exact done
        · refine .inr ⟨.ok (), _, _, _, _, asked, started ((bind_ok rfl).trans
            ((bind_ok (unwrap_some known)).trans ?_)), rfl, rfl, first, opened, served, ?_⟩
          · rw [whenever, if_neg (by simp [none])]
            rfl
          · intro g found
            cases known.symm.trans found
            show 0 < 0 + made
            omega
  · exact .inl ⟨_, _, (bind_ok rfl).trans (bind_panic ran), rfl, none⟩

end Parameter

/-! ### Answers of nodes -/

section Answer

variable (env : Middleware) {s : Native}

/-- ROS refuses the client that is to delete a parameter. -/
def RefusesDelete (trace : Trace) (pending : Pending) (response : Json) : Prop :=
  pending.deleteCheck = true ∧ parameterExists response = true ∧ ∃ cause,
    env.create trace ⟨.client, pending.node ++ "/set_parameters",
      "rcl_interfaces/srv/SetParameters"⟩ = .error cause

theorem deleteFound_run {pending : Pending} {group : Group}
    (known : s.api.groups.lookup pending.group = some group)
    (checked : ParameterNames s.api.config.params group.args) :
    ∃ reply after, deleteFound env pending group s = (answered reply, after) ∧
      Served pending.group s after ∧
      (Settles pending.group reply s after ∨ ∃ cause, env.create s.trace
        ⟨.client, pending.node ++ "/set_parameters", "rcl_interfaces/srv/SetParameters"⟩ =
          .error cause) := by
  obtain ⟨node, name, split, listed⟩ := checked
  have payload : Asks s.api.config.params "rcl_interfaces/srv/SetParameters" (.obj [("parameters",
      .arr [.obj [("name", .str name), ("value", .obj [("type", .int 0)])]])]) := .write listed
  rcases requestOn_run env (s := s) (pending.node ++ "/set_parameters")
      "rcl_interfaces/srv/SetParameters" (.obj [("parameters",
        .arr [.obj [("name", .str name), ("value", .obj [("type", .int 0)])]])]) with
    ⟨cause, after, ran, refused, altered⟩ | ⟨cause, middle, ran, altered⟩ |
      ⟨sequence, node, next, ran⟩
  · exact ⟨.error cause, after, (bind_ok (unwrap_some split)).trans (bind_error ran),
      .single altered trivial, .inr ⟨cause, refused⟩⟩
  · have still : middle.api.groups.lookup pending.group = some group := by
      cases altered
      exact known
    obtain ⟨reply, after, done, served, settles⟩ :=
      finish_served env still none (some cause.message)
    have first : Served pending.group s middle := .single altered payload
    refine ⟨reply, after, (bind_ok (unwrap_some split)).trans ((bind_ok ran).trans done),
      Served.trans first served, .inl ⟨settles.settled, ?_⟩⟩
    cases altered
    exact (unsent_after rfl (by simp) served.extends).trans settles.failed
  · have issued : Alters (.issued pending.group (pending.node ++ "/set_parameters")
        "rcl_interfaces/srv/SetParameters" (.obj [("parameters",
          .arr [.obj [("name", .str name), ("value", .obj [("type", .int 0)])]])])
        sequence { pending with deleteCheck := false }) s _ :=
      .issued next known rfl fun deletes => by cases deletes
    refine ⟨.ok (), _, (bind_ok (unwrap_some split)).trans ((bind_ok ran).trans rfl),
      .single issued ⟨rfl, payload⟩, .inl ⟨fun g found => ?_, ?_⟩⟩
    · change (s.api.groups.alter pending.group _).lookup pending.group = _ at found
      rw [AList.lookup_alter, if_pos rfl, known] at found
      cases found
      exact Nat.succ_pos _
    · rw [unsent_iff rfl]
      simp

theorem listedNames_shown (config : Access) (node : String) (response : Json) :
    ∀ full ∈ listedNames config node response, Shows config.params full := by
  intro full member
  unfold listedNames at member
  split at member
  · cases member
  · obtain ⟨name, kept, rfl⟩ := List.mem_map.mp member
    exact ⟨node, name, rfl, (List.mem_filter.mp kept).2⟩

/-- The names that a node lists are kept for the reply. -/
theorem listed_run {pending : Pending} {group : Group} {response : Json}
    (known : s.api.groups.lookup pending.group = some group) : ∃ reply after,
      (do
        let config := (← api).config
        changeApi fun a =>
          { a with groups := a.groups.alter pending.group fun g =>
              { g with names := g.names ++ listedNames config pending.node response } }
        whenever (group.remaining = 0) (finish env pending.group none none) : Action Unit) s =
          (answered reply, after) ∧
        Served pending.group s after ∧
        (Settles pending.group reply s after ∨ RefusesDelete env s.trace pending response) := by
  have altered : Alters (.listed pending.group _) s _ :=
    .listed (listedNames_shown s.api.config pending.node response)
  have found : (s.api.groups.alter pending.group fun g =>
      { g with names := g.names ++ listedNames s.api.config pending.node response }).lookup
        pending.group = some { group with
          names := group.names ++ listedNames s.api.config pending.node response } := by
    rw [AList.lookup_alter, if_pos rfl, known]
    rfl
  by_cases last : group.remaining = 0
  · obtain ⟨reply, after, ran, served, settles⟩ := finish_served env (s :=
      { s with api := { s.api with groups := s.api.groups.alter pending.group fun g =>
          { g with names := g.names ++ listedNames s.api.config pending.node response } } })
      found none none
    have first : Served pending.group s _ := .single altered rfl
    refine ⟨reply, after, (bind_ok rfl).trans ((bind_ok rfl).trans ?_),
      Served.trans first served, .inl ⟨settles.settled, ?_⟩⟩
    · rw [whenever, if_pos (decide_eq_true last)]
      exact ran
    · exact (unsent_after (List.append_nil s.trace).symm (by simp) served.extends).trans
        settles.failed
  · refine ⟨.ok (), _, (bind_ok rfl).trans ((bind_ok rfl).trans ?_), .single altered rfl,
      .inl ⟨fun g seen => ?_, ?_⟩⟩
    · rw [whenever, if_neg (by rw [decide_eq_true_eq]; exact last)]
      rfl
    · cases found.symm.trans seen
      exact Nat.pos_of_ne_zero last
    · refine (unsent_iff (List.append_nil s.trace).symm).trans ?_
      simp

/-- An answer settles its request, unless it asks for a client that ROS refuses. -/
theorem useAnswer_run {pending : Pending} {group : Group} (response : Json)
    (known : s.api.groups.lookup pending.group = some group)
    (checked : pending.deleteCheck = true → ParameterNames s.api.config.params group.args) :
    ∃ reply after, useAnswer env pending group response s = (answered reply, after) ∧
      Served pending.group s after ∧
      (Settles pending.group reply s after ∨ RefusesDelete env s.trace pending response) := by
  have finished (value : Option Json) (error : Option String) : ∃ reply after,
      finish env pending.group value error s = (answered reply, after) ∧
        Served pending.group s after ∧
        (Settles pending.group reply s after ∨ RefusesDelete env s.trace pending response) := by
    obtain ⟨reply, after, ran, served, settles⟩ := finish_served env known value error
    exact ⟨reply, after, ran, served, .inl settles⟩
  unfold useAnswer
  by_cases deletes : pending.deleteCheck = true
  · rw [if_pos deletes]
    by_cases there : parameterExists response = true
    · rw [if_pos there]
      obtain ⟨reply, after, ran, served, settles | refused⟩ :=
        deleteFound_run env known (checked deletes)
      · exact ⟨reply, after, ran, served, .inl settles⟩
      · exact ⟨reply, after, ran, served, .inr ⟨deletes, there, refused⟩⟩
    · rw [if_neg there]
      exact finished none none
  · rw [if_neg deletes]
    cases op : group.op
    case getParamNames => exact listed_run env known
    all_goals exact finished _ _

end Answer

end Rosbridge.Ros
