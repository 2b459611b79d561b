import Rosbridge.Ros.Rounds

/-!
When the calls that rosapi makes for the events of a poll succeed.

Owns: the conditions under which ROS accepts a reply, under which a parameter request is
finished, and under which an answer of a node is used; each is a condition on the state before
the call.
-/

set_option autoImplicit false

namespace Rosbridge.Ros

open Foundation Program

variable {env : Middleware} {s : Native}

/-! ### Programs that succeed -/

section Succeeding

variable {α β : Type}

/-- The program returns a value. -/
def Succeeds (program : Action α) (s : Native) : Prop := ∃ value, (program s).1 = .ok value

theorem succeeds_of {program : Action α} {value : α} {after : Native}
    (ran : program s = (.ok value, after)) : Succeeds program s := ⟨value, by rw [ran]⟩

theorem not_succeeds_error {program : Action α} {cause : Error} {after : Native}
    (ran : program s = (.error cause, after)) : ¬ Succeeds program s := by
  rintro ⟨value, same⟩
  rw [ran] at same
  cases same

theorem not_succeeds_panic {program : Action α} {site : String} {after : Native}
    (ran : program s = (.panic site, after)) : ¬ Succeeds program s := by
  rintro ⟨value, same⟩
  rw [ran] at same
  cases same

theorem succeeds_answered {program : Action α} {reply : Except Error α} {after : Native}
    (ran : program s = (answered reply, after)) :
    Succeeds program s ↔ ∃ value, reply = .ok value := by
  unfold Succeeds
  rw [ran]
  cases reply with
  | ok value => exact ⟨fun _ => ⟨value, rfl⟩, fun _ => ⟨value, rfl⟩⟩
  | error cause => exact ⟨nofun, nofun⟩

/-- After a first part that returns, the rest decides. -/
theorem succeeds_bind {first : Action α} {next : α → Action β} {value : α} {middle : Native}
    (ran : first s = (.ok value, middle)) :
    Succeeds (first >>= next) s ↔ Succeeds (next value) middle := by
  unfold Succeeds
  rw [bind_ok ran]

/-- Only what the first part does matters to the rest. -/
theorem bind_same {first other : Action α} {next : α → Action β} {start : Native}
    (same : first s = other start) : (first >>= next) s = (other >>= next) start := by
  show Program.bind first next s = Program.bind other next start
  unfold Program.bind
  rw [same]

/-- The first part has to return. -/
theorem bind_returned {first : Action α} {next : α → Action β} {value : β} {after : Native}
    (ran : (first >>= next) s = (.ok value, after)) :
    ∃ given middle, first s = (.ok given, middle) ∧ next given middle = (.ok value, after) := by
  rcases began : first s with ⟨given | cause | site, middle⟩
  · exact ⟨given, middle, rfl, (bind_ok began).symm.trans ran⟩
  · cases (bind_error began).symm.trans ran
  · cases (bind_panic began).symm.trans ran

theorem Succeeds.first {first : Action α} {next : α → Action β}
    (succeeds : Succeeds (first >>= next) s) :
    ∃ value middle, first s = (.ok value, middle) ∧ Succeeds (next value) middle := by
  obtain ⟨value, same⟩ := succeeds
  obtain ⟨given, middle, ran, rest⟩ := bind_returned (Prod.ext same rfl)
  exact ⟨given, middle, ran, succeeds_of rest⟩

theorem succeeds_ofExcept (reply : Except Error α) :
    Succeeds (Program.ofExcept reply) s ↔ ∃ value, reply = .ok value :=
  succeeds_answered (show _ = (_, s) by cases reply <;> rfl)

theorem ofExcept_bind {reply : Except Error α} {next : α → Action β} :
    Succeeds (Program.ofExcept reply >>= next) s ↔
      ∃ value, reply = .ok value ∧ Succeeds (next value) s := by
  cases reply with
  | ok value =>
      rw [succeeds_bind (show Program.ofExcept (.ok value) s = (.ok value, s) from rfl)]
      simp
  | error cause =>
      have fails : ¬ Succeeds (Program.ofExcept (.error cause) >>= next) s :=
        not_succeeds_error (show _ = (_, s) from rfl)
      simp [fails]

/-- Noting the answer of a call changes nothing about whether it succeeds. -/
theorem succeeds_recorded (program : Action α) (act : Except Error α → Act) :
    Succeeds (recorded program act) s ↔ Succeeds program s := by
  rcases ran : program s with ⟨value | cause | site, after⟩
  · have noted : recorded program act s = (.ok value, after.noting (act (.ok value))) :=
      @recorded_of s _ _ _ (.ok value) _ ran
    exact iff_of_true (succeeds_of noted) (succeeds_of ran)
  · have noted : recorded program act s = (.error cause, after.noting (act (.error cause))) :=
      @recorded_of s _ _ _ (.error cause) _ ran
    exact iff_of_false (not_succeeds_error noted) (not_succeeds_error ran)
  · have panics : attempt program s = (.panic site, after) := by
      rw [attempt, ran]
    exact iff_of_false (not_succeeds_panic (bind_panic panics)) (not_succeeds_panic ran)

theorem ensure_bind {condition : Bool} {cause : Error} {next : Unit → Action β} :
    Succeeds (Program.ensure condition cause >>= next) s ↔
      condition = true ∧ Succeeds (next ()) s := by
  cases condition with
  | true => simpa using succeeds_bind (show Program.ensure true cause s = (.ok (), s) from rfl)
  | false =>
      have fails : ¬ Succeeds (Program.ensure false cause >>= next) s :=
        not_succeeds_error (show _ = (_, s) from rfl)
      simp [fails]

end Succeeding

/-! ### Replies -/

/-- ROS takes the response: the service is there, the value fills its message, the request is
open, and the response can be sent. -/
def Accepts (env : Middleware) (s : Native) (entity : Entity) (id : Nat) (value : Json) : Prop :=
  ∃ handle, s.node.handles.lookup entity = some handle ∧ handle.role = .service ∧
    env.fill (handle.typ ++ "_Response") value = .ok () ∧ (entity, id) ∈ s.node.requests ∧
      env.sendResponse s.trace entity id value = .ok ()

theorem handle_succeeds {role : Role} {missing : String} {entity : Entity} {β : Type}
    {next : Handle → Action β} : Succeeds (handle role missing entity >>= next) s ↔
      ∃ handle, s.node.handles.lookup entity = some handle ∧ handle.role = role ∧
        Succeeds (next handle) s := by
  unfold handle
  rw [Program.bind_assoc]
  refine (succeeds_bind (show node s = (.ok s.node, s) from rfl)).trans ?_
  cases s.node.handles.lookup entity with
  | none =>
      have fails : ¬ Succeeds ((fail ⟨missing⟩ : Action Handle) >>= next) s :=
        not_succeeds_error (show _ = (_, s) from rfl)
      simp [fails]
  | some found =>
      dsimp only
      by_cases same : found.role = role
      · rw [if_pos same, succeeds_bind (show (pure found : Action Handle) s = _ from rfl)]
        simp [same]
      · have fails : ¬ Succeeds ((fail ⟨missing⟩ : Action Handle) >>= next) s :=
          not_succeeds_error (show _ = (_, s) from rfl)
        rw [if_neg same]
        simp [fails, same]

theorem respond_succeeds {entity : Entity} {id : Nat} {value : Json} :
    Succeeds (respond env entity id value) s ↔ Accepts env s entity id value := by
  unfold respond Accepts
  rw [succeeds_recorded, handle_succeeds]
  refine exists_congr fun handle => and_congr_right fun _ => and_congr_right fun _ => ?_
  rw [ofExcept_bind]
  have sent : Succeeds (do
        Program.ensure ((entity, id) ∈ (← node).requests) ⟨"unknown request"⟩
        Program.ofExcept (← consult fun trace => env.sendResponse trace entity id value)
        changeNode fun n => { n with requests := n.requests.erase (entity, id) } : Action Unit) s ↔
      (entity, id) ∈ s.node.requests ∧ env.sendResponse s.trace entity id value = .ok () := by
    rw [succeeds_bind (show node s = (.ok s.node, s) from rfl), ensure_bind, decide_eq_true_eq]
    refine and_congr_right fun _ => ?_
    rw [succeeds_bind (show consult _ s = (.ok (env.sendResponse s.trace entity id value), s)
      from rfl), ofExcept_bind]
    constructor
    · rintro ⟨value, same, -⟩
      exact same
    · intro same
      exact ⟨(), same, succeeds_of rfl⟩
  constructor
  · rintro ⟨value, filled, rest⟩
    exact ⟨filled, sent.mp rest⟩
  · rintro ⟨filled, rest⟩
    exact ⟨(), filled, sent.mpr rest⟩

/-! ### Finishing a parameter request -/

/-- The node without the clients of some calls. -/
def Node.withoutAll (n : Node) (keys : List (Entity × Int)) : Node :=
  keys.foldl (fun n key => n.without key.1) n

/-- The state in which the reply to a parameter request is sent: its group is gone, and so are
the calls it waited for. -/
def Native.forgetting (env : Middleware) (s : Native) (id : Nat) : Native :=
  let keys := (groupCalls (env.order s.trace) s.api id).map Prod.fst
  ⟨{ s.api with groups := s.api.groups.erase id, pending := s.api.pending.eraseAll keys },
    s.node.withoutAll keys,
    s.trace ++ [.order (env.order s.trace)] ++ keys.map fun key => .destroy key.1⟩

/-- The request is known, and ROS takes the reply to it. -/
def Finishes (env : Middleware) (s : Native) (id : Nat) (value : Option Json)
    (error : Option String) : Prop :=
  ∃ group, s.api.groups.lookup id = some group ∧
    Accepts env (s.forgetting env id) group.service group.request
      (groupResponse env group value error)

theorem forget_exact (calls : List ((Entity × Int) × Pending)) (s : Native) :
    forEach calls forget s =
      (.ok (), ⟨{ s.api with pending := s.api.pending.eraseAll (calls.map Prod.fst) },
        s.node.withoutAll (calls.map Prod.fst),
        s.trace ++ (calls.map Prod.fst).map fun key => .destroy key.1⟩) := by
  induction calls generalizing s with
  | nil =>
      rw [List.map_nil, List.map_nil, List.append_nil]
      rfl
  | cons call rest inductionHypothesis =>
      rw [forEach]
      refine (bind_ok rfl).trans ((inductionHypothesis _).trans ?_)
      rw [List.append_assoc]
      rfl

theorem finish_succeeds {id : Nat} {value : Option Json} {error : Option String} :
    Succeeds (finish env id value error) s ↔ Finishes env s id value error := by
  unfold Finishes
  cases known : s.api.groups.lookup id with
  | none =>
      have fails : ¬ Succeeds (finish env id value error) s := by
        apply not_succeeds_error
        refine (bind_ok (show api s = (.ok s.api, s) from rfl)).trans ?_
        rw [known]
        rfl
      simp [fails]
  | some group =>
      have replies : Succeeds (finish env id value error) s ↔
          Succeeds (respond env group.service group.request (groupResponse env group value error))
            (s.forgetting env id) := by
        unfold Succeeds
        rw [finish_known env known, closeGroup]
        rw [bind_ok (show changeApi _ s = _ from rfl), bind_ok (show api _ = _ from rfl),
          bind_ok (show visit env _ _ = _ from rfl), bind_ok (forget_exact _ _)]
        rfl
      rw [replies, respond_succeeds]
      simp

/-! ### Answers of nodes -/

/-- The state with one more client. -/
def Native.having (s : Native) (service typ : String) : Native :=
  { s with node := s.node.with ⟨.client, service, typ⟩ }.noting
    (.client service typ (.ok (s.node.next + 1)))

/-- What ROS answers to the request on a new client. -/
def newClientReply (env : Middleware) (s : Native) (service typ : String) (payload : Json) :
    Except Error Int := do
  env.fill (typ ++ "_Request") payload
  env.sendRequest (s.having service typ).trace (s.node.next + 1) payload

/-- The state after a request on a new client was refused: the client is destroyed. -/
def Native.withdrawing (s : Native) (service typ : String) (payload : Json) (cause : Error) :
    Native :=
  let refused := (s.having service typ).noting (.request (s.node.next + 1) payload (.error cause))
  { refused with node := refused.node.without (s.node.next + 1) }.noting
    (.destroy (s.node.next + 1))

/-- The request that deletes a parameter. -/
def deletion (name : String) : Json :=
  .obj [("parameters", .arr [.obj [("name", .str name), ("value", .obj [("type", .int 0)])]])]

/-- A parameter that was found can be deleted: ROS creates the client, and takes the request,
or at least the reply that says why not. -/
def Deletes (env : Middleware) (s : Native) (pending : Pending) (group : Group) : Prop :=
  let service := pending.node ++ "/set_parameters"
  let typ := "rcl_interfaces/srv/SetParameters"
  ∃ parts, splitOnce (text group.args "name") ':' = some parts ∧
    env.create s.trace ⟨.client, service, typ⟩ = .ok () ∧
    ∀ cause, newClientReply env s service typ (deletion parts.2) = .error cause →
      Finishes env (s.withdrawing service typ (deletion parts.2) cause) pending.group none
        (some cause.message)

/-- An answer of a node goes well: what it asks for is taken, and so is the reply to a request
that it completes. -/
def AnswerPasses (env : Middleware) (s : Native) (pending : Pending) (group : Group)
    (response : Json) : Prop :=
  if pending.deleteCheck then
    if parameterExists response then Deletes env s pending group
    else Finishes env s pending.group none none
  else
    match group.op with
    | .getParamNames =>
        group.remaining = 0 →
          Finishes env { s with api := { s.api with groups := s.api.groups.alter pending.group fun g =>
            { g with names := g.names ++ listedNames s.api.config pending.node response } } }
            pending.group none none
    | .getParam | .hasParam =>
        let value := (response.index "values").asArray.bind List.head?
        Finishes env s pending.group value
          (if value.all fun v => (v.index "type").eqInt 0 then some "Parameter not found" else none)
    | _ =>
        let result := element (response.index "results") 0
        Finishes env s pending.group none
          (if (result.index "successful").eqBool true then none else some (text result "reason"))

/-- A request on a client that is there. -/
theorem request_exact (env : Middleware) {entity : Entity} {known : Handle} (args : Json)
    (found : s.node.handles.lookup entity = some known) (client : known.role = .client) :
    request env entity args s =
      (answered (do
        env.fill (known.typ ++ "_Request") args
        env.sendRequest s.trace entity args : Except Error Int),
        s.noting (.request entity args (do
          env.fill (known.typ ++ "_Request") args
          env.sendRequest s.trace entity args))) := by
  have held : handle .client "service client no longer exists" entity s = (.ok known, s) := by
    unfold handle
    rw [bind_ok (show node s = (.ok s.node, s) from rfl), found]
    dsimp only
    rw [if_pos client]
    rfl
  refine recorded_of ?_
  rw [bind_ok held]
  cases env.fill (known.typ ++ "_Request") args with
  | error cause => rfl
  | ok _ =>
      show Program.ofExcept (env.sendRequest s.trace entity args) s = _
      cases env.sendRequest s.trace entity args with
      | error cause => rfl
      | ok sequence => rfl

theorem requestOn_exact (service typ : String) (payload : Json)
    (accepted : env.create s.trace ⟨.client, service, typ⟩ = .ok ()) :
    requestOn env service typ payload s =
      match newClientReply env s service typ payload with
      | .ok sequence => (.ok (s.node.next + 1, .ok sequence),
          (s.having service typ).noting (.request (s.node.next + 1) payload (.ok sequence)))
      | .error cause => (.ok (s.node.next + 1, .error cause),
          s.withdrawing service typ payload cause) := by
  have created : client env service typ s = (.ok (s.node.next + 1), s.having service typ) := by
    rcases client_spec env (s := s) service typ with ⟨-, created⟩ | ⟨cause, refused, -⟩
    · exact created
    · cases accepted.symm.trans refused
  have found : (s.having service typ).node.handles.lookup (s.node.next + 1) =
      some ⟨.client, service, typ⟩ := AList.lookup_insert _
  have asked := attempt_of (request_exact env payload found rfl)
  change attempt _ (s.having service typ) = (.ok (newClientReply env s service typ payload), _)
    at asked
  change attempt _ _ = (_, (s.having service typ).noting (.request (s.node.next + 1) payload
    (newClientReply env s service typ payload))) at asked
  unfold requestOn
  rw [bind_ok created, bind_ok asked]
  cases newClientReply env s service typ payload with
  | ok sequence => rfl
  | error cause => rfl

theorem deleteFound_succeeds {pending : Pending} {group : Group}
    (split : ∃ parts, splitOnce (text group.args "name") ':' = some parts) :
    Succeeds (deleteFound env pending group) s ↔ Deletes env s pending group := by
  obtain ⟨parts, split⟩ := split
  have begins : Succeeds (deleteFound env pending group) s ↔
      Succeeds (requestOn env (pending.node ++ "/set_parameters")
        "rcl_interfaces/srv/SetParameters" (deletion parts.2) >>= confirmDelete env pending) s :=
    succeeds_bind (unwrap_some split)
  rw [begins]
  constructor
  · intro succeeds
    obtain ⟨request, middle, ran, confirmed⟩ := succeeds.first
    have created : env.create s.trace ⟨.client, pending.node ++ "/set_parameters",
        "rcl_interfaces/srv/SetParameters"⟩ = .ok () := by
      rcases client_spec env (s := s) (pending.node ++ "/set_parameters")
        "rcl_interfaces/srv/SetParameters" with ⟨accepted, -⟩ | ⟨cause, -, failed⟩
      · exact accepted
      · cases ran.symm.trans (bind_error failed)
    refine ⟨parts, split, created, fun cause refused => ?_⟩
    rw [requestOn_exact _ _ _ created, refused] at ran
    cases ran
    exact finish_succeeds.mp confirmed
  · rintro ⟨others, same, created, refusal⟩
    cases split.symm.trans same
    have ran := requestOn_exact _ _ (deletion parts.2) created
    cases replied : newClientReply env s (pending.node ++ "/set_parameters")
        "rcl_interfaces/srv/SetParameters" (deletion parts.2) with
    | ok sequence =>
        rw [replied] at ran
        exact (succeeds_bind ran).mpr (succeeds_of rfl)
    | error cause =>
        rw [replied] at ran
        exact (succeeds_bind ran).mpr (finish_succeeds.mpr (refusal cause replied))

/-- An answer is used if and only if it goes well. -/
theorem useAnswer_succeeds {pending : Pending} {group : Group} {response : Json}
    (split : pending.deleteCheck = true →
      ∃ parts, splitOnce (text group.args "name") ':' = some parts) :
    Succeeds (useAnswer env pending group response) s ↔
      AnswerPasses env s pending group response := by
  unfold useAnswer AnswerPasses
  by_cases deletes : pending.deleteCheck = true
  · rw [if_pos deletes, if_pos deletes]
    by_cases there : parameterExists response = true
    · rw [if_pos there, if_pos there]
      exact deleteFound_succeeds (split deletes)
    · rw [if_neg there, if_neg there]
      exact finish_succeeds
  · rw [if_neg deletes, if_neg deletes]
    cases group.op
    case getParamNames =>
      dsimp only
      rw [succeeds_bind (show api s = (.ok s.api, s) from rfl),
        succeeds_bind (show changeApi _ s = _ from rfl)]
      by_cases last : group.remaining = 0
      · rw [whenever, if_pos (decide_eq_true last)]
        simp only [last, true_implies]
        exact finish_succeeds
      · rw [whenever, if_neg (by rw [decide_eq_true_eq]; exact last)]
        exact iff_of_true (succeeds_of rfl) fun same => absurd same last
    all_goals exact finish_succeeds

/-! ### Events -/

/-- The state in which the answer to a pending call is used. -/
def Native.using (s : Native) (entity : Entity) (sequence : Int) (pending : Pending) : Native :=
  ⟨{ s.api with
      pending := s.api.pending.erase (entity, sequence)
      groups := s.api.groups.alter pending.group fun g =>
        { g with remaining := g.remaining - 1 } },
    s.node.without entity, s.trace ++ [.destroy entity]⟩

/-- rosapi gets through one event: the deadline of a parameter request is on the clock, and
the answer of a node goes well. -/
def Passes (env : Middleware) (s : Native) : Event → Prop
  | .message _ _ => True
  | .request entity _ _ =>
      ∀ op, s.api.operations.lookup entity = some op → op.isParameter = true →
        Instant.add? (env.instant s.trace) s.api.parameterTimeout ≠ none
  | .response entity sequence values =>
      ∀ pending group, s.api.pending.lookup (entity, sequence) = some pending →
        s.api.groups.lookup pending.group = some group →
          AnswerPasses env (s.using entity sequence pending) pending
            { group with remaining := group.remaining - 1 } values

theorem handled_response {entity : Entity} {sequence : Int} {pending : Pending} {group : Group}
    (values : Json) (coherent : Coherent s)
    (found : s.api.pending.lookup (entity, sequence) = some pending)
    (known : s.api.groups.lookup pending.group = some group) :
    handleEvent env (.response entity sequence values) s =
      (do
        useAnswer env pending { group with remaining := group.remaining - 1 } values
        return none : Action (Option Event)) (s.using entity sequence pending) := by
  have some : 0 < group.remaining := by
    rw [coherent.counted _ _ known]
    exact waiting_pos found
  refine (bind_ok (show api s = (.ok s.api, s) from rfl)).trans ?_
  dsimp only
  rw [found]
  refine (bind_ok rfl).trans ((bind_ok (destroy_run entity)).trans ?_)
  refine bind_same ((bind_ok rfl).trans ((bind_ok (unwrap_some known)).trans ?_))
  rw [if_neg (Nat.ne_of_gt some)]
  exact bind_ok rfl

theorem response_succeeds {entity : Entity} {sequence : Int} (values : Json)
    (coherent : Coherent s) : Succeeds (handleEvent env (.response entity sequence values)) s ↔
      Passes env s (.response entity sequence values) := by
  cases found : s.api.pending.lookup (entity, sequence) with
  | none =>
      refine iff_of_true (succeeds_of
        (show _ = (Outcome.ok (some (.response entity sequence values)), s) from ?_)) fun pending group same => ?_
      · refine (bind_ok (show api s = (.ok s.api, s) from rfl)).trans ?_
        dsimp only
        rw [found]
        rfl
      · cases found.symm.trans same
  | some pending =>
      obtain ⟨group, known, checked⟩ := coherent.known _ _ found
      have used : Succeeds (handleEvent env (.response entity sequence values)) s ↔
          Succeeds (useAnswer env pending { group with remaining := group.remaining - 1 } values)
            (s.using entity sequence pending) := by
        unfold Succeeds
        rw [handled_response values coherent found known]
        constructor
        · intro succeeds
          obtain ⟨value, middle, ran, -⟩ := Succeeds.first succeeds
          exact succeeds_of ran
        · rintro ⟨value, same⟩
          exact (succeeds_bind (Prod.ext same rfl)).mpr (succeeds_of rfl)
      let counted : Group := { group with remaining := group.remaining - 1 }
      have split (deletes : pending.deleteCheck = true) :
          ∃ parts, splitOnce (text counted.args "name") ':' = some parts := by
        obtain ⟨node, name, split, -⟩ := checked deletes
        exact ⟨(node, name), split⟩
      refine used.trans ((useAnswer_succeeds split).trans ?_)
      constructor
      · intro passes other member same there
        cases found.symm.trans same
        cases known.symm.trans there
        exact passes
      · intro passes
        exact passes pending group found known

/-- A deadline past the end of the clock's range. -/
theorem parameter_past (entity : Entity) (id : Nat) (op : Query) (args : Json)
    (past : Instant.add? (env.instant s.trace) s.api.parameterTimeout = none) :
    Rosbridge.Ros.parameter env entity id op args s =
      (.panic clockOverflow, s.noting (.instant (env.instant s.trace))) := by
  refine (bind_ok rfl).trans (bind_panic ?_)
  show unwrap _ (Instant.add? (env.instant s.trace) s.api.parameterTimeout) _ = _
  rw [past]
  rfl

theorem request_succeeds {entity : Entity} {id : Nat} (args : Json)
    (fresh : s.api.groups.lookup id = none) :
    Succeeds (handleEvent env (.request entity id args)) s ↔
      Passes env s (.request entity id args) := by
  cases operation : s.api.operations.lookup entity with
  | none =>
      refine iff_of_true (succeeds_of
        (show _ = (Outcome.ok (some (.request entity id args)), s) from ?_)) fun op same => ?_
      · refine (bind_ok (show api s = (.ok s.api, s) from rfl)).trans ?_
        dsimp only
        rw [operation]
        rfl
      · cases operation.symm.trans same
  | some op =>
      have forgiven {answer : Except Error Unit} {middle : Native}
          (ran : reply env entity id op args s = (answered answer, middle)) :
          Succeeds (handleEvent env (.request entity id args)) s := by
        obtain ⟨others, after, done, -⟩ := request_returns env operation ran
        exact succeeds_of done
      cases parameter : op.isParameter with
      | false =>
          obtain ⟨answer, middle, ran, -⟩ := question_run env id args operation parameter
          refine iff_of_true (forgiven ran) fun other same serves => ?_
          cases operation.symm.trans same
          cases parameter.symm.trans serves
      | true =>
          have serves : reply env entity id op args s =
              Rosbridge.Ros.parameter env entity id op args s := by
            unfold reply
            rw [if_pos parameter]
          rcases parameter_run env args operation fresh with
            ⟨site, after, ran, -, past⟩ | ⟨answer, acts, group, middle, opened, after, ran, -⟩
          · have panics : handleEvent env (.request entity id args) s = (.panic site, after) :=
              request_panics env operation (serves.trans ran)
            exact iff_of_false (not_succeeds_panic panics)
              fun passes => passes op operation parameter past
          · refine iff_of_true (forgiven (serves.trans ran)) fun other same _ past => ?_
            cases answer <;> cases ran.symm.trans (parameter_past entity id op args past)

/-! ### Rounds -/

/-- ROS takes the replies to the requests whose time is over. -/
def TimeoutsPass (env : Middleware) : List Nat → Native → Prop
  | [], _ => True
  | id :: rest, s =>
      Finishes env s id none (some "Timeout occurred") ∧
        TimeoutsPass env rest (finish env id none (some "Timeout occurred") s).2

/-- rosapi gets through a round: through every event, and then through the deadlines. -/
def RoundPasses (env : Middleware) : List Event → Native → Prop
  | [], s => ∀ ids middle, expiredGroups env s = (.ok ids, middle) → TimeoutsPass env ids middle
  | event :: rest, s => Passes env s event ∧ RoundPasses env rest (handleEvent env event s).2

theorem timeouts_succeed (ids : List Nat) (s : Native) :
    Succeeds (forEach ids fun id => finish env id none (some "Timeout occurred")) s ↔
      TimeoutsPass env ids s := by
  induction ids generalizing s with
  | nil => exact iff_of_true (succeeds_of rfl) trivial
  | cons id rest inductionHypothesis =>
      unfold TimeoutsPass
      rw [← finish_succeeds]
      constructor
      · intro succeeds
        obtain ⟨value, middle, ran, rests⟩ := Succeeds.first succeeds
        have ran : finish env id none (some "Timeout occurred") s = (.ok value, middle) := ran
        refine ⟨succeeds_of ran, ?_⟩
        rw [ran]
        exact (inductionHypothesis middle).mp rests
      · rintro ⟨⟨value, same⟩, rests⟩
        exact (succeeds_bind (Prod.ext same rfl)).mpr ((inductionHypothesis _).mpr rests)

/-- A look at the deadlines never fails. -/
theorem expiredGroups_ok (env : Middleware) (s : Native) :
    ∃ ids middle, expiredGroups env s = (.ok ids, middle) := by
  have folds (groups : List (Nat × Group)) (done : List Nat) (s : Native) : ∃ ids middle,
      foldEach groups done (fun done group => do
        let reading ← instant env
        return if group.2.deadline ≤ reading then done ++ [group.1] else done) s =
          (.ok ids, middle) := by
    induction groups generalizing done s with
    | nil => exact ⟨done, s, rfl⟩
    | cons group rest inductionHypothesis =>
        obtain ⟨ids, middle, ran⟩ := inductionHypothesis
          (if group.2.deadline ≤ env.instant s.trace then done ++ [group.1] else done)
          (s.noting (.instant (env.instant s.trace)))
        exact ⟨ids, middle, (bind_ok rfl).trans ran⟩
  obtain ⟨ids, middle, ran⟩ := folds
    (permute (env.order s.trace) (s.api.groups.entries.map fun entry => (entry.1, entry.2))) []
    (s.noting (.order (env.order s.trace)))
  exact ⟨ids, middle, (bind_ok rfl).trans ((bind_ok rfl).trans ran)⟩

theorem handled_succeeds {event : Event} (coherent : Coherent s)
    (fresh : ∀ entity id args, event = .request entity id args →
      s.api.groups.lookup id = none) :
    Succeeds (handleEvent env event) s ↔ Passes env s event := by
  cases event with
  | message entity message => exact iff_of_true (succeeds_of (show _ = (_, s) from rfl)) trivial
  | request entity id args => exact request_succeeds args (fresh entity id args rfl)
  | response entity sequence values => exact response_succeeds values coherent

/-- A round succeeds if and only if rosapi gets through it. -/
theorem process_succeeds {given events : List Event}
    (distinct : (numbers (given ++ events)).Nodup) (coherent : Coherent s)
    (grouped : Grouped s given) :
    Succeeds (process env events) s ↔ RoundPasses env events s := by
  let body (seen : List (Option Event)) (event : Event) : Action (List (Option Event)) := do
    return seen ++ [← handleEvent env event]
  let tail (output : List (Option Event)) : Action (List Event) := do
    let expired ← expiredGroups env
    forEach expired fun id => finish env id none (some "Timeout occurred")
    return output.filterMap id
  suffices rounds : ∀ seen, Succeeds (foldEach events seen body >>= tail) s ↔
      RoundPasses env events s from rounds []
  intro seen
  induction events generalizing s given seen with
  | nil =>
      obtain ⟨ids, middle, ran⟩ := expiredGroups_ok env s
      unfold RoundPasses
      rw [succeeds_bind (show foldEach [] seen body s = (.ok seen, s) from rfl), succeeds_bind ran]
      constructor
      · intro succeeds others state same
        cases ran.symm.trans same
        obtain ⟨value, last, done, -⟩ := Succeeds.first succeeds
        exact (timeouts_succeed ids middle).mp (succeeds_of done)
      · intro passes
        obtain ⟨value, same⟩ := (timeouts_succeed ids middle).mpr (passes ids middle ran)
        exact (succeeds_bind (Prod.ext same rfl)).mpr (succeeds_of rfl)
  | cons event rest inductionHypothesis =>
      rw [List.append_cons] at distinct
      have first : (numbers (given ++ [event])).Nodup := by
        rw [numbers_append] at distinct
        exact (List.nodup_append.mp distinct).1
      have fresh := grouped.fresh first
      unfold RoundPasses
      rw [← handled_succeeds coherent fresh]
      rcases ran : handleEvent env event s with ⟨output | cause | site, middle⟩
      · have rounds : Rounds (numbers [event]) s middle := by
          rcases handleEvent_run env coherent fresh with
            ⟨other, panics⟩ | ⟨reply, other, done, handles, -⟩
          · cases ran.symm.trans panics
          · cases (congrArg Prod.snd (ran.symm.trans done) : middle = other)
            exact handles.rounds
        have begins : (foldEach (event :: rest) seen body >>= tail) s =
            (foldEach rest (seen ++ [output]) body >>= tail) middle :=
          bind_same (bind_ok ((bind_ok ran).trans rfl))
        rw [and_iff_right (succeeds_of ran), ← inductionHypothesis distinct
          (rounds.coherent coherent) (rounds.grouped grouped) (seen ++ [output])]
        unfold Succeeds
        rw [begins]
      · exact iff_of_false (not_succeeds_error (bind_error (bind_error (bind_error ran))))
          fun passes => not_succeeds_error ran passes.1
      · exact iff_of_false (not_succeeds_panic (bind_panic (bind_panic (bind_panic ran))))
          fun passes => not_succeeds_panic ran passes.1

/-! ### What is left to the caller -/

/-- The event is addressed to rosapi: a request to one of its services, or a response to one of
its clients. -/
def Native.ForApi (s : Native) : Event → Bool
  | .message _ _ => false
  | .request entity _ _ => (s.api.operations.lookup entity).isSome
  | .response entity _ _ => decide (∃ key ∈ s.api.pending.keys, key.1 = entity)

/-- The events that are not addressed to rosapi. -/
def Native.others (s : Native) (events : List Event) : List Event :=
  events.filter fun event => !s.ForApi event

theorem Native.others_append (first rest : List Event) :
    s.others (first ++ rest) = s.others first ++ s.others rest :=
  List.filter_append _ _

/-- The services of rosapi are the same, and its clients were there before or are new. -/
structure Kin (s after : Native) : Prop where
  operations : after.api.operations = s.api.operations
  next : s.node.next ≤ after.node.next
  clients : ∀ key p, after.api.pending.lookup key = some p →
    s.node.next < key.1 ∨ ∃ key' ∈ s.api.pending.keys, key'.1 = key.1

theorem Kin.start (s : Native) : Kin s s := by
  refine ⟨rfl, Nat.le_refl _, fun key p found => .inr ⟨key, ?_, rfl⟩⟩
  exact AList.mem_keys.mp ((AList.mem_iff_lookup _ _).mpr ⟨p, found⟩)

theorem Kin.step {before after : Native} {change : Change} (kin : Kin s before)
    (altered : Alters change before after) : Kin s after := by
  obtain ⟨operations, next, clients⟩ := kin
  refine ⟨altered.constant.2.trans operations, ?_, ?_⟩
  · cases altered with
    | watched _ later => exact next.trans later
    | dropped later | issued later => rw [later]; exact next.trans (Nat.le_succ _)
    | answered later | closed later | replied later => rw [later]; exact next
    | _ => exact next
  · intro key p found
    cases altered with
    | issued later known owned checked =>
        change (before.api.pending.insert _ _).lookup key = some p at found
        rw [AList.lookup_insert_if] at found
        split at found
        · next same =>
            rw [same]
            exact .inl (Nat.lt_succ_of_le next)
        · exact clients key p found
    | answered later waiting known some =>
        change (before.api.pending.erase _).lookup key = Option.some p at found
        rw [AList.lookup_erase_if] at found
        split at found
        · cases found
        · exact clients key p found
    | closed later known distinct lists all =>
        change (before.api.pending.eraseAll _).lookup key = some p at found
        rw [AList.lookup_eraseAll] at found
        split at found
        · cases found
        · exact clients key p found
    | _ => exact clients key p found

theorem Rounds.kin {before after : Native} {ids : List Nat} (kin : Kin s before)
    (rounds : Rounds ids before after) : Kin s after :=
  rounds.invariant (Kin s) (fun _ _ _ _ altered kin => kin.step altered) kin

/-- The event does not come from a client that is yet to be created. -/
def Bounded (limit : Nat) : Event → Prop
  | .response entity _ _ => entity ≤ limit
  | _ => True

/-- An event that is handled is addressed to rosapi; every other one is left. -/
theorem handled_output {event : Event} {output : Option Event} {before middle : Native}
    (kin : Kin s before) (bounded : Bounded s.node.next event)
    (ran : handleEvent env event before = (.ok output, middle)) :
    output = some event ∨ output = none ∧ s.ForApi event = true := by
  cases event with
  | message entity message =>
      cases ran
      exact .inl rfl
  | request entity id args =>
      have begins : handleEvent env (.request entity id args) before = _ :=
        bind_ok (show api before = (.ok before.api, before) from rfl)
      dsimp only at begins
      cases operation : before.api.operations.lookup entity with
      | none =>
          rw [operation] at begins
          cases ran.symm.trans begins
          exact .inl rfl
      | some op =>
          rw [operation] at begins
          obtain ⟨answer, state, -, rest⟩ := bind_returned (begins.symm.trans ran)
          refine .inr ⟨?_, ?_⟩
          · cases answer with
            | ok _ =>
                cases rest
                rfl
            | error cause =>
                obtain ⟨_, last, -, done⟩ := bind_returned rest
                cases done
                rfl
          · show (s.api.operations.lookup entity).isSome = true
            rw [← kin.operations, operation]
            rfl
  | response entity sequence values =>
      have begins : handleEvent env (.response entity sequence values) before = _ :=
        bind_ok (show api before = (.ok before.api, before) from rfl)
      dsimp only at begins
      cases found : before.api.pending.lookup (entity, sequence) with
      | none =>
          rw [found] at begins
          cases ran.symm.trans begins
          exact .inl rfl
      | some pending =>
          rw [found] at begins
          obtain ⟨_, state, -, rest⟩ := bind_returned (begins.symm.trans ran)
          obtain ⟨_, middle', -, rest⟩ := bind_returned rest
          obtain ⟨_, last, -, done⟩ := bind_returned rest
          refine .inr ⟨?_, ?_⟩
          · cases done
            rfl
          · rcases kin.clients _ _ found with new | old
            · exact absurd (Nat.lt_of_lt_of_le new bounded) (Nat.lt_irrefl _)
            · exact decide_eq_true old

/-- A round leaves every event that is not addressed to rosapi to the caller, in order. -/
theorem process_output {given events output : List Event} {after : Native}
    (distinct : (numbers (given ++ events)).Nodup) (coherent : Coherent s)
    (grouped : Grouped s given) (bounded : ∀ event ∈ events, Bounded s.node.next event)
    (ran : process env events s = (.ok output, after)) : s.others output = s.others events := by
  have loop (start : Native) (seen outputs : List (Option Event)) (last : Native)
      (created : ∀ event ∈ events, Bounded start.node.next event) (kin : Kin start s)
      (folded : foldEach events seen (fun seen event => do
        return seen ++ [← handleEvent env event]) s = (.ok outputs, last)) :
      start.others (outputs.filterMap id) =
        start.others (seen.filterMap id) ++ start.others events := by
    clear ran bounded
    induction events generalizing s given seen with
    | nil =>
        cases folded
        exact (List.append_nil _).symm
    | cons event rest inductionHypothesis =>
        rw [List.append_cons] at distinct
        have first : (numbers (given ++ [event])).Nodup := by
          rw [numbers_append] at distinct
          exact (List.nodup_append.mp distinct).1
        have fresh := grouped.fresh first
        obtain ⟨here, later⟩ := List.forall_mem_cons.mp created
        obtain ⟨next, middle, noted, rests⟩ := bind_returned folded
        obtain ⟨left, state, handled, same⟩ := bind_returned noted
        cases same
        have rounds : Rounds (numbers [event]) s middle := by
          rcases handleEvent_run env coherent fresh with
            ⟨other, panics⟩ | ⟨reply, other, done, handles, -⟩
          · cases handled.symm.trans panics
          · cases (congrArg Prod.snd (handled.symm.trans done) : middle = other)
            exact handles.rounds
        have rest := inductionHypothesis distinct (rounds.coherent coherent)
          (rounds.grouped grouped) (seen ++ [left]) later (rounds.kin kin) rests
        have one : start.others ([left].filterMap id) = start.others [event] := by
          rcases handled_output kin here handled with kept | ⟨taken, mine⟩
          · rw [kept]
            rfl
          · rw [taken]
            exact (List.filter_eq_nil_iff.mpr (by simpa using mine)).symm
        rw [rest, List.filterMap_append, Native.others_append, one, List.append_assoc,
          ← Native.others_append]
        rfl
  obtain ⟨outputs, last, folded, rest⟩ := bind_returned ran
  obtain ⟨expired, _, -, rest⟩ := bind_returned rest
  obtain ⟨_, _, -, done⟩ := bind_returned rest
  cases done
  exact loop s [] outputs last bounded (.start s) folded

end Rosbridge.Ros
