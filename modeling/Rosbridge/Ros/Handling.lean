import Rosbridge.Ros.Coherence

/-!
The events of a poll, one by one.

Owns: that the questions about the graph and about types only look; `Handles`, what the
handling of one event does, change by change; and how the deadlines are handled.
-/

set_option autoImplicit false

namespace Rosbridge.Ros

open Foundation Program

/-! ### Questions -/

section Questions

variable {env : Middleware} {α β : Type}

/-- The program only looks, whatever the state. -/
abbrev Watches (program : Action α) : Prop := ∀ s : Native, Looks program (fun _ => True) s

theorem Watches.bind {first : Action α} {next : α → Action β} (watches : Watches first)
    (rest : ∀ value, Watches (next value)) : Watches (first >>= next) :=
  fun s => (watches s).bind fun value _ _ _ => rest value _

theorem Watches.pure (value : α) : Watches (Pure.pure value) := fun _ => .pure trivial

theorem Watches.api : Watches api := fun _ => .reads rfl trivial

theorem Watches.node : Watches node := fun _ => .node

theorem Watches.consult (answer : Trace → α) : Watches (consult answer) := fun _ => .consult answer

theorem Watches.look (answer : Trace → Except Error α) : Watches (look answer) :=
  fun _ => .look answer

theorem Watches.ensure (condition : Bool) (cause : Error) : Watches (ensure condition cause) := by
  intro s
  cases condition with
  | true => exact .reads rfl trivial
  | false =>
      apply Looks.of_value (.error cause) []
      · rw [List.append_nil]
        rfl
      · simp
      · exact fun _ _ => trivial

/-- New definitions are learnt. -/
theorem Watches.learn (change : Definitions → Definitions) :
    Watches (changeApi fun a => { a with definitions := change a.definitions }) := by
  intro s
  refine ⟨.ok (), [], change s.api.definitions, ?_, by simp, fun _ _ => trivial⟩
  rw [List.append_nil]
  rfl

theorem Watches.attempt {program : Action α} (watches : Watches program) :
    Watches (attempt program) := by
  intro s
  obtain ⟨reply, acts, definitions, ran, idle, -⟩ := watches s
  exact ⟨.ok reply, acts, definitions, attempt_of ran, idle, fun _ _ => trivial⟩

theorem Watches.foldEach {items : List α} {body : β → α → Action β} (seed : β)
    (watches : ∀ done item, Watches (body done item)) : Watches (foldEach items seed body) := by
  induction items generalizing seed with
  | nil => exact .pure seed
  | cons item rest inductionHypothesis =>
      exact (watches seed item).bind fun next => inductionHypothesis next

theorem Watches.collect {items : List α} {body : α → Action β}
    (watches : ∀ item, Watches (body item)) : Watches (collect items body) :=
  .foldEach [] fun _ item => (watches item).bind fun _ => .pure _

theorem Watches.record {act : Act} (idle : act.isIdle = true) : Watches (record act) := by
  intro s
  apply Looks.of_value (.ok ()) [act]
  · rfl
  · simpa using idle
  · exact fun _ _ => trivial

theorem Watches.visit {κ ν : Type} (table : Table κ ν) : Watches (visit env table) :=
  (Watches.consult env.order).bind fun _ => (Watches.record rfl).bind fun _ => .pure _

theorem Watches.instant : Watches (instant env) :=
  (Watches.consult env.instant).bind fun _ => (Watches.record rfl).bind fun _ => .pure _

theorem topics_watches : Watches (topics env) := (Watches.look env.topics).bind fun _ => .pure _

theorem services_watches : Watches (services env) :=
  (Watches.look env.services).bind fun _ => .pure _

theorem nodes_watches : Watches (nodes env) := (Watches.look env.nodeNames).bind fun _ => .pure _

theorem nodeGraph_watches (node : String) (kind : Endpoint) : Watches (nodeGraph env node kind) :=
  (Watches.ensure _ _).bind fun _ => (Watches.look _).bind fun _ => .pure _

theorem rawDefinition_watches (typ : String) : Watches (rawDefinition env typ) := by
  apply Watches.api.bind
  intro a
  cases a.definitions.raw.lookup typ with
  | some known => exact .pure known
  | none =>
      exact (Watches.consult _).bind fun full =>
        (Watches.learn fun d => { d with raw := d.raw.insert typ full }).bind fun _ => .pure full

theorem typeDetails_watches (typ : String) : Watches (typeDetails env typ) := by
  apply Watches.api.bind
  intro a
  cases a.definitions.details.lookup typ with
  | some known => exact .pure known
  | none =>
      exact (Watches.consult _).bind fun details =>
        (Watches.learn fun d => { d with details := d.details.insert typ details }).bind
          fun _ => .pure details

theorem topicReply_watches (op : Query) (args : Json) : Watches (topicReply env op args) := by
  refine topics_watches.bind fun graph => Watches.api.bind fun a => ?_
  cases op
  case topicsAndRawTypes =>
    exact (Watches.collect fun (pair : String × String) => rawDefinition_watches pair.2).bind fun _ => .pure _
  all_goals exact .pure _

theorem nodeDetailsReply_watches (args : Json) : Watches (nodeDetailsReply env args) :=
  (nodeGraph_watches _ _).bind fun _ => (nodeGraph_watches _ _).bind fun _ =>
    (nodeGraph_watches _ _).bind fun _ => .pure _

theorem nodeFound_watches (op : Query) (query : String) (kind : Endpoint) (node : String) :
    Watches (nodeFound env op query kind node) := by
  apply (nodeGraph_watches node kind).attempt.bind
  intro reply
  cases reply <;> exact .pure _

theorem nodesReply_watches (op : Query) (args : Json) : Watches (nodesReply env op args) := by
  apply Watches.api.bind
  intro a
  dsimp only [askNodes]
  split
  · exact nodes_watches.bind fun _ =>
      (Watches.collect fun node => nodeFound_watches _ _ _ node).bind fun _ => .pure _
  · exact .pure _

theorem detailsReply_watches (op : Query) (args : Json) : Watches (detailsReply env op args) := by
  unfold detailsReply
  dsimp only
  split
  · exact (typeDetails_watches _).bind fun _ => .pure _
  · exact .pure _

theorem now_watches : Watches (now env) := by
  apply Watches.node.bind
  intro n
  cases n.simulated with
  | some time => exact .pure time
  | none => exact .consult env.systemTime

/-- No question that rosapi answers by itself changes its tables. -/
theorem graphReply_watches (env : Middleware) (op : Query) (args : Json) : Watches (graphReply env op args) := by
  cases op
  case topics | topicsForType | topicsAndRawTypes | topicType => exact topicReply_watches _ args
  case interfaces => exact (Watches.consult env.interfaces).bind fun _ => .pure _
  case services | servicesForType | serviceType =>
    exact services_watches.bind fun _ => Watches.api.bind fun _ => .pure _
  case nodes => exact nodes_watches.bind fun _ => .pure _
  case nodeDetails => exact nodeDetailsReply_watches args
  case publishers | subscribers | serviceProviders | serviceNode => exact nodesReply_watches _ args
  case actionServers => exact topics_watches.bind fun _ => Watches.api.bind fun _ => .pure _
  case actionType => exact services_watches.bind fun _ => .pure _
  case getTime => exact now_watches.bind fun _ => .pure _
  case getRosVersion => exact .pure _
  all_goals
    dsimp only [graphReply]
    exact detailsReply_watches _ args

/-- Nor does a look at the deadlines. -/
theorem expiredGroups_watches (env : Middleware) : Watches (expiredGroups env) := by
  refine Watches.api.bind fun a => (Watches.visit a.groups).bind fun groups => ?_
  exact .foldEach [] fun _ group => Watches.instant.bind fun _ => .pure _

end Questions

/-! ### Events -/

/-- A change while rosapi answers a question by itself. -/
def Change.Tells (entity : Entity) (id : Nat) : Change → Prop
  | .watched _ => True
  | .replied service request _ _ => service = entity ∧ request = id
  | _ => False

/-- The answer of a node says that a parameter to be deleted is there, and ROS refuses the
client that is to delete it. -/
def Strands (env : Middleware) (s : Native) (event : Event) : Prop :=
  ∃ entity sequence values pending, event = .response entity sequence values ∧
    s.api.pending.lookup (entity, sequence) = some pending ∧
      RefusesDelete env (s.trace ++ [.destroy entity]) pending values

/-- The reply that an answer of a node brings about is refused. -/
def Fails (env : Middleware) (s : Native) (event : Event) : Prop :=
  (∃ entity sequence values, event = .response entity sequence values) ∧
    Unsent s (handleEvent env event s).2

/-- What the handling of one event does: nothing to one that is not for rosapi; a reply to
a question; a group for a parameter request; and an answer for a group that waits for it,
which is settled unless ROS refuses a client. -/
inductive Handles (env : Middleware) (s : Native) : Event → Native → Prop where
  | left {event : Event}
      (other : ∀ entity id args, event = .request entity id args →
        s.api.operations.lookup entity = none) : Handles env s event s
  | told {entity : Entity} {id : Nat} {args : Json} {op : Query} {after : Native}
      (operation : s.api.operations.lookup entity = some op) (plain : op.isParameter = false)
      (changes : Follows Alters (Change.Tells entity id) s after) :
      Handles env s (.request entity id args) after
  | served {entity : Entity} {id : Nat} {args : Json} {op : Query} {acts others : Trace}
      {group : Group} {middle opened settled after : Native}
      (operation : s.api.operations.lookup entity = some op) (parameter : op.isParameter = true)
      (service : group.service = entity) (started : Alters (.watched acts) s middle)
      (opening : Alters (.opened id group) middle opened) (serves : Served id opened settled)
      (settles : Settled id settled) (finished : Alters (.watched others) settled after) :
      Handles env s (.request entity id args) after
  | used {entity : Entity} {sequence : Int} {values : Json} {pending : Pending}
      {middle after : Native} (answers : Alters (.answered entity sequence pending) s middle)
      (serves : Served pending.group middle after)
      (settles : Settled pending.group after ∨
        Strands env s (.response entity sequence values)) :
      Handles env s (.response entity sequence values) after

section Events

variable (env : Middleware) {s : Native}

theorem discardRequest_run (entity : Entity) (id : Nat) (s : Native) : ∃ node,
    discardRequest entity id s = (.ok (), ⟨s.api, node, s.trace ++ [.discardRequest entity id]⟩) ∧
      Alters (.watched [.discardRequest entity id]) s
        ⟨s.api, node, s.trace ++ [.discardRequest entity id]⟩ := by
  refine ⟨{ s.node with requests := s.node.requests.erase (entity, id) }, rfl, ?_⟩
  exact .watched (by simp [Act.isIdle]) (Nat.le_refl _)

/-- A question is answered, if its reply can be sent. -/
theorem question_run {entity : Entity} {op : Query} (id : Nat) (args : Json)
    (operation : s.api.operations.lookup entity = some op) (plain : op.isParameter = false) :
    ∃ reply after, Rosbridge.Ros.reply env entity id op args s = (answered reply, after) ∧
      Follows Alters (Change.Tells entity id) s after := by
  unfold Rosbridge.Ros.reply
  rw [if_neg (by rw [plain]; exact Bool.false_ne_true)]
  obtain ⟨cause | value, acts, definitions, ran, idle, -⟩ :=
    graphReply_watches env op args s
  · exact ⟨.error cause, _, bind_error ran, .single (Looks.watched idle) trivial⟩
  · obtain ⟨reply, requests, sent⟩ := respond_spec env
      (s := ⟨{ s.api with definitions }, s.node, s.trace ++ acts⟩) entity id value
    refine ⟨reply, _, (bind_ok ran).trans sent, ?_⟩
    have next : { s.node with requests }.next = s.node.next := rfl
    have told : Alters (.replied entity id value reply)
        ⟨{ s.api with definitions }, s.node, s.trace ++ acts⟩ _ := .replied next operation plain
    exact Follows.trans (.single (Looks.watched idle) trivial) (.single told ⟨rfl, rfl⟩)

/-- The panic at the end of the clock's range. -/
def clockOverflow : String := "overflow when adding duration to instant"

/-- The rest of the handling of a request: one that fails is forgotten. -/
theorem forgiven_run {program : Action Unit} {reply : Except Error Unit} (entity : Entity)
    (id : Nat) {middle : Native} (ran : program s = (answered reply, middle)) : ∃ others after,
      (do
        match ← attempt program with
        | .ok _ => return none
        | .error _ => do
            discardRequest entity id
            return none : Action (Option Event)) s = (.ok none, after) ∧
        Alters (.watched others) middle after := by
  cases reply with
  | ok _ =>
      refine ⟨[], middle, (bind_ok (attempt_of ran)).trans rfl, ?_⟩
      have still := @Looks.watched middle middle.api.definitions [] (by simp)
      rwa [List.append_nil] at still
  | error cause =>
      obtain ⟨node, forgot, watched⟩ := discardRequest_run entity id middle
      exact ⟨_, _, (bind_ok (attempt_of ran)).trans (bind_ok forgot), watched⟩

/-- A request for rosapi is handed to its operation. -/
theorem request_begins {entity : Entity} {id : Nat} {op : Query} {args : Json}
    (operation : s.api.operations.lookup entity = some op) {final : Outcome Error (Option Event) × Native}
    (rest : (do
      match ← attempt (Rosbridge.Ros.reply env entity id op args) with
      | .ok _ => return none
      | .error _ => do
          discardRequest entity id
          return none : Action (Option Event)) s = final) :
    handleEvent env (.request entity id args) s = final := by
  refine (bind_ok (show api s = (.ok s.api, s) from rfl)).trans ?_
  dsimp only
  rw [operation]
  exact rest

/-- An operation that returns ends the handling of its request. -/
theorem request_returns {entity : Entity} {id : Nat} {op : Query} {args : Json}
    {reply : Except Error Unit} {middle : Native}
    (operation : s.api.operations.lookup entity = some op)
    (ran : Rosbridge.Ros.reply env entity id op args s = (answered reply, middle)) :
    ∃ others after, handleEvent env (.request entity id args) s = (.ok none, after) ∧
      Alters (.watched others) middle after := by
  obtain ⟨others, after, done, watched⟩ := forgiven_run entity id ran
  exact ⟨others, after, request_begins env operation done, watched⟩

/-- An operation that panics ends the program. -/
theorem request_panics {entity : Entity} {id : Nat} {op : Query} {args : Json} {site : String}
    {after : Native} (operation : s.api.operations.lookup entity = some op)
    (ran : Rosbridge.Ros.reply env entity id op args s = (.panic site, after)) :
    handleEvent env (.request entity id args) s = (.panic site, after) := by
  refine request_begins env operation (bind_panic ?_)
  rw [attempt, ran]

/-- A request for rosapi is handled. -/
theorem requested_run {entity : Entity} {id : Nat} {op : Query} (args : Json)
    (operation : s.api.operations.lookup entity = some op)
    (fresh : s.api.groups.lookup id = none) :
    (∃ after, handleEvent env (.request entity id args) s = (.panic clockOverflow, after)) ∨
      ∃ after, handleEvent env (.request entity id args) s = (.ok none, after) ∧
        Handles env s (.request entity id args) after := by
  cases parameter : op.isParameter with
  | false =>
      obtain ⟨reply, middle, ran, changes⟩ := question_run env id args operation parameter
      obtain ⟨others, after, done, watched⟩ := request_returns env operation ran
      refine .inr ⟨after, done, .told operation parameter ?_⟩
      exact changes.trans (.single watched trivial)
  | true =>
      have serves : Rosbridge.Ros.reply env entity id op args s =
          Rosbridge.Ros.parameter env entity id op args s := by
        unfold Rosbridge.Ros.reply
        rw [if_pos parameter]
      rcases parameter_run env args operation fresh with
        ⟨site, after, ran, rfl, -⟩ |
          ⟨reply, acts, group, middle, opened, settled, ran, service, -, started, opening, served,
            settles⟩
      · exact .inl ⟨after, request_panics env operation (serves.trans ran)⟩
      · obtain ⟨others, after, done, watched⟩ := request_returns env operation (serves.trans ran)
        exact .inr ⟨after, done,
          .served operation parameter service started opening served settles watched⟩

/-- An answer of a node is handled. -/
theorem response_run {entity : Entity} {sequence : Int} {pending : Pending} (values : Json)
    (coherent : Coherent s) (found : s.api.pending.lookup (entity, sequence) = some pending) :
    ∃ reply after,
      handleEvent env (.response entity sequence values) s = (answered reply, after) ∧
        Handles env s (.response entity sequence values) after ∧
        (Strands env s (.response entity sequence values) ∨
          (Unsent s after ↔ ∃ cause, reply = .error cause)) := by
  obtain ⟨group, known, checked⟩ := coherent.known _ _ found
  have some : 0 < group.remaining := by
    rw [coherent.counted _ _ known]
    exact waiting_pos found
  have next : (s.node.without entity).next = s.node.next := rfl
  have answers : Alters (.answered entity sequence pending) s _ :=
    .answered next found known some
  have counted : (s.api.groups.alter pending.group fun g =>
      { g with remaining := g.remaining - 1 }).lookup pending.group =
        Option.some { group with remaining := group.remaining - 1 } := by
    rw [AList.lookup_alter, if_pos rfl, known]
    rfl
  obtain ⟨reply, after, ran, serves, settles⟩ := useAnswer_run env
    (s := ⟨{ s.api with
        pending := s.api.pending.erase (entity, sequence)
        groups := s.api.groups.alter pending.group fun g =>
          { g with remaining := g.remaining - 1 } },
      s.node.without entity, s.trace ++ [.destroy entity]⟩) values counted checked
  have responded : parameterResponse env pending values
      ⟨{ s.api with pending := s.api.pending.erase (entity, sequence) }, s.node.without entity,
        s.trace ++ [.destroy entity]⟩ = (answered reply, after) := by
    refine (bind_ok rfl).trans ((bind_ok (unwrap_some known)).trans ?_)
    rw [if_neg (Nat.ne_of_gt some)]
    exact (bind_ok rfl).trans ran
  have handled : handleEvent env (.response entity sequence values) s =
      (do
        parameterResponse env pending values
        return none : Action (Option Event))
          ⟨{ s.api with pending := s.api.pending.erase (entity, sequence) }, s.node.without entity,
            s.trace ++ [.destroy entity]⟩ := by
    refine (bind_ok (show api s = (.ok s.api, s) from rfl)).trans ?_
    dsimp only
    rw [found]
    exact (bind_ok rfl).trans (bind_ok (destroy_run entity))
  have ended : (Settled pending.group after ∧ (Unsent s after ↔ ∃ cause, reply = .error cause)) ∨
      Strands env s (.response entity sequence values) := by
    refine settles.imp (fun settles => ⟨settles.settled, ?_⟩) fun refuses => ?_
    · exact (unsent_after rfl (by simp) serves.extends).trans settles.failed
    · exact ⟨entity, sequence, values, pending, rfl, found, refuses⟩
  have used : Handles env s (.response entity sequence values) after :=
    .used answers serves (ended.imp_left And.left)
  cases reply with
  | ok _ =>
      refine ⟨.ok none, after, handled.trans (bind_ok responded), used,
        ended.symm.imp_right fun settles => settles.2.trans ?_⟩
      simp
  | error cause =>
      refine ⟨.error cause, after, handled.trans (bind_error responded), used,
        ended.symm.imp_right fun settles => settles.2.trans ?_⟩
      exact ⟨fun _ => ⟨cause, rfl⟩, fun _ => ⟨cause, rfl⟩⟩

/-- One event is handled. -/
theorem handleEvent_run {event : Event} (coherent : Coherent s)
    (fresh : ∀ entity id args, event = .request entity id args →
      s.api.groups.lookup id = none) :
    (∃ after, handleEvent env event s = (.panic clockOverflow, after)) ∨
      ∃ reply after, handleEvent env event s = (answered reply, after) ∧
        Handles env s event after ∧
        (Strands env s event ∨ (Fails env s event ↔ ∃ cause, reply = .error cause)) := by
  have left (other : ∀ entity id args, event = .request entity id args →
      s.api.operations.lookup entity = none)
      (ran : handleEvent env event s = (.ok (some event), s)) :
      ∃ reply after, handleEvent env event s = (answered reply, after) ∧
        Handles env s event after ∧
        (Strands env s event ∨ (Fails env s event ↔ ∃ cause, reply = .error cause)) := by
    refine ⟨.ok (some event), s, ran, .left other, .inr ⟨fun fails => ?_, fun failed => ?_⟩⟩
    · have unsent := fails.2
      rw [ran, unsent_iff (List.append_nil s.trace).symm] at unsent
      simp at unsent
    · simp at failed
  have begins : api s = (.ok s.api, s) := rfl
  cases event with
  | message entity message =>
      exact .inr (left (fun _ _ _ same => by cases same) rfl)
  | request entity id args =>
      cases operation : s.api.operations.lookup entity with
      | none =>
          refine .inr (left (fun _ _ _ same => ?_) ((bind_ok begins).trans ?_))
          · cases same
            exact operation
          · dsimp only
            rw [operation]
            rfl
      | some op =>
          exact (requested_run env args operation (fresh entity id args rfl)).imp_right
            fun ⟨after, ran, handles⟩ =>
              ⟨.ok none, after, ran, handles, .inr (by simp [Fails])⟩
  | response entity sequence values =>
      cases found : s.api.pending.lookup (entity, sequence) with
      | none =>
          refine .inr (left (fun _ _ _ same => by cases same) ((bind_ok begins).trans ?_))
          dsimp only
          rw [found]
          rfl
      | some pending =>
          obtain ⟨reply, after, ran, used, ended⟩ := response_run env values coherent found
          refine .inr ⟨reply, after, ran, used, ended.imp_right fun failed => ?_⟩
          rw [Fails, ran, and_iff_right ⟨entity, sequence, values, rfl⟩]
          exact failed

end Events

end Rosbridge.Ros
