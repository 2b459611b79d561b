import Rosbridge.Ros.Handling

/-!
The numbers of the node.

Owns: `Tame`, the programs that leave the counter of requests alone and create entities only
under new numbers; and that everything rosapi does is one of them.
-/

set_option autoImplicit false

namespace Rosbridge.Ros

open Foundation Program

variable {env : Middleware} {α β : Type}

/-- Every entity has a number that was given out. -/
def Node.Numbered (n : Node) : Prop := ∀ entity ∈ n.handles, entity ≤ n.next

/-- No request was numbered, and entities are still numbered. -/
structure Tidy (n after : Node) : Prop where
  requests : after.nextRequest = n.nextRequest
  numbered : n.Numbered → after.Numbered

theorem Tidy.refl (n : Node) : Tidy n n := ⟨rfl, id⟩

theorem Tidy.trans {n middle after : Node} (first : Tidy n middle) (rest : Tidy middle after) :
    Tidy n after :=
  ⟨rest.requests.trans first.requests, fun numbered => rest.numbered (first.numbered numbered)⟩

/-- The program numbers no request, and creates entities only under new numbers. -/
def Tame (program : Action α) : Prop := ∀ s, Tidy s.node (program s).2.node

theorem Tame.bind {first : Action α} {next : α → Action β} (tame : Tame first)
    (rest : ∀ value, Tame (next value)) : Tame (first >>= next) := by
  intro s
  have began := tame s
  rcases ran : first s with ⟨value | cause | site, middle⟩
  · rw [ran] at began
    rw [bind_ok ran]
    exact began.trans (rest value middle)
  · rw [ran] at began
    rw [bind_error ran]
    exact began
  · rw [ran] at began
    rw [bind_panic ran]
    exact began

theorem Tame.of_same {program : Action α} (same : ∀ s, (program s).2.node = s.node) :
    Tame program := by
  intro s
  rw [same s]
  exact .refl s.node

theorem Tame.of_watches {program : Action α} (watches : Watches program) : Tame program := by
  refine .of_same fun s => ?_
  obtain ⟨reply, acts, definitions, ran, -⟩ := watches s
  rw [ran]

theorem Tame.pure (value : α) : Tame (Pure.pure value) := .of_same fun _ => rfl

theorem Tame.fail (cause : Error) : Tame (Program.fail cause : Action α) := .of_same fun _ => rfl

theorem Tame.panic (site : String) : Tame (Program.panic site : Action α) := .of_same fun _ => rfl

theorem Tame.api : Tame api := .of_same fun _ => rfl

theorem Tame.node : Tame node := .of_same fun _ => rfl

theorem Tame.consult (answer : Trace → α) : Tame (consult answer) := .of_same fun _ => rfl

theorem Tame.record (act : Act) : Tame (record act) := .of_same fun _ => rfl

theorem Tame.changeApi (change : Api → Api) : Tame (changeApi change) := .of_same fun _ => rfl

theorem Tame.ofExcept (reply : Except Error α) : Tame (Program.ofExcept reply) := by
  cases reply <;> exact .of_same fun _ => rfl

theorem Tame.unwrap (site : String) (found : Option α) : Tame (Program.unwrap site found) := by
  cases found <;> exact .of_same fun _ => rfl

theorem Tame.ensure (condition : Bool) (cause : Error) : Tame (Program.ensure condition cause) := by
  cases condition <;> exact .of_same fun _ => rfl

theorem Tame.whenever {program : Action Unit} (condition : Bool) (tame : Tame program) :
    Tame (Program.whenever condition program) := by
  cases condition with
  | true => exact tame
  | false => exact .pure ()

theorem Tame.attempt {program : Action α} (tame : Tame program) :
    Tame (Program.attempt program) := by
  intro s
  have began := tame s
  unfold Program.attempt
  rcases ran : program s with ⟨value | cause | site, middle⟩ <;> rw [ran] at began <;> exact began

theorem Tame.forEach {items : List α} {body : α → Action Unit} (tame : ∀ item, Tame (body item)) :
    Tame (Program.forEach items body) := by
  induction items with
  | nil => exact .pure ()
  | cons item rest inductionHypothesis => exact (tame item).bind fun _ => inductionHypothesis

theorem Tame.foldEach {items : List α} {body : β → α → Action β} (seed : β)
    (tame : ∀ done item, Tame (body done item)) : Tame (Program.foldEach items seed body) := by
  induction items generalizing seed with
  | nil => exact .pure seed
  | cons item rest inductionHypothesis =>
      exact (tame seed item).bind fun next => inductionHypothesis next

/-! ### Calls -/

theorem changeNode_tame {change : Node → Node} (tidy : ∀ n, Tidy n (change n)) :
    Tame (changeNode change) := fun s => tidy s.node

theorem recorded_tame {program : Action α} {act : Except Error α → Act} (tame : Tame program) :
    Tame (recorded program act) :=
  tame.attempt.bind fun reply => (Tame.record _).bind fun _ => .ofExcept reply

theorem create_tame (handle : Handle) : Tame (create env handle) := by
  refine (Tame.consult _).bind fun reply => (Tame.ofExcept reply).bind fun _ => ?_
  refine Tame.bind (changeNode_tame ?_) fun _ => Tame.node.bind fun _ => .pure _
  refine fun n => ⟨rfl, fun numbered entity member => ?_⟩
  rcases (AList.mem_insert _).mp member with rfl | old
  · exact Nat.le_refl _
  · exact (numbered entity old).trans (Nat.le_succ _)

theorem client_tame (name typ : String) : Tame (client env name typ) :=
  recorded_tame (create_tame _)

theorem service_tame (name typ : String) : Tame (service env name typ) :=
  recorded_tame (create_tame _)

theorem handle_tame (role : Role) (missing : String) (entity : Entity) :
    Tame (handle role missing entity) := by
  refine Tame.node.bind fun n => ?_
  cases n.handles.lookup entity with
  | none => exact .fail _
  | some handle =>
      dsimp only
      split
      · exact .pure handle
      · exact .fail _

theorem request_tame (entity : Entity) (args : Json) : Tame (request env entity args) :=
  recorded_tame ((handle_tame _ _ _).bind fun _ => (Tame.ofExcept _).bind fun _ =>
    (Tame.consult _).bind fun reply => .ofExcept reply)

theorem respond_tame (entity : Entity) (id : Nat) (value : Json) :
    Tame (respond env entity id value) := by
  refine recorded_tame ((handle_tame _ _ _).bind fun _ => (Tame.ofExcept _).bind fun _ => ?_)
  refine Tame.node.bind fun _ => (Tame.ensure _ _).bind fun _ => (Tame.consult _).bind fun reply => ?_
  refine (Tame.ofExcept reply).bind fun _ => changeNode_tame ?_
  exact fun _ => ⟨rfl, fun numbered => numbered⟩

theorem discardRequest_tame (entity : Entity) (id : Nat) : Tame (discardRequest entity id) := by
  refine Tame.bind (changeNode_tame ?_) fun _ => .record _
  exact fun _ => ⟨rfl, fun numbered => numbered⟩

theorem destroy_tame (entity : Entity) : Tame (destroy entity) := by
  refine Tame.bind (changeNode_tame ?_) fun _ => .record _
  refine fun n => ⟨rfl, fun numbered other member => numbered other ?_⟩
  exact (AList.mem_erase.mp member).2

theorem visit_tame {κ ν : Type} (table : Table κ ν) : Tame (visit env table) :=
  .of_watches (.visit table)

theorem after_tame (duration : Duration) : Tame (after env duration) :=
  (Tame.of_watches .instant).bind fun _ => .unwrap _ _

/-! ### Parameter requests -/

theorem finish_tame (id : Nat) (value : Option Json) (error : Option String) :
    Tame (finish env id value error) := by
  refine Tame.api.bind fun a => ?_
  cases a.groups.lookup id with
  | none => exact .fail _
  | some group =>
      exact (Tame.changeApi _).bind fun _ => Tame.api.bind fun _ => (visit_tame _).bind fun _ =>
        (Tame.forEach fun _ => (Tame.changeApi _).bind fun _ => destroy_tame _).bind fun _ =>
          respond_tame _ _ _

theorem nodeCalls_tame (op : Query) (args : Json) : Tame (nodeCalls env op args) := by
  refine .of_same fun s => ?_
  obtain ⟨reply, acts, definitions, ran, -⟩ := nodeCalls_looks env (s := s) op args
  rw [ran]

theorem requestOn_tame (service typ : String) (payload : Json) :
    Tame (requestOn env service typ payload) := by
  refine (client_tame _ _).bind fun entity => (request_tame _ _).attempt.bind fun reply => ?_
  cases reply with
  | ok sequence => exact .pure _
  | error cause => exact (destroy_tame _).bind fun _ => .pure _

theorem issue_tame (id : Nat) (op : Query) (call : NodeCall) : Tame (issue env id op call) :=
  (requestOn_tame _ _ _).bind fun _ => (Tame.ofExcept _).bind fun _ =>
    (Tame.changeApi _).bind fun _ => Tame.api.bind fun _ => (Tame.unwrap _ _).bind fun _ =>
      .changeApi _

theorem conclude_tame (id : Nat) (result : Except Error Unit) : Tame (conclude env id result) := by
  cases result with
  | error cause => exact finish_tame _ _ _
  | ok _ =>
      exact Tame.api.bind fun _ => (Tame.unwrap _ _).bind fun _ =>
        .whenever _ (finish_tame _ _ _)

theorem parameter_tame (service : Entity) (id : Nat) (op : Query) (args : Json) :
    Tame (parameter env service id op args) :=
  Tame.api.bind fun _ => (after_tame _).bind fun _ => (Tame.changeApi _).bind fun _ =>
    (((nodeCalls_tame _ _).bind fun _ => .forEach fun call => issue_tame _ _ call).attempt).bind
      fun _ => conclude_tame _ _

theorem deleteFound_tame (pending : Pending) (group : Group) :
    Tame (deleteFound env pending group) := by
  refine (Tame.unwrap _ _).bind fun _ => (requestOn_tame _ _ _).bind fun request => ?_
  unfold confirmDelete
  cases request.2 with
  | error cause => exact finish_tame _ _ _
  | ok sequence => exact .changeApi _

theorem useAnswer_tame (pending : Pending) (group : Group) (response : Json) :
    Tame (useAnswer env pending group response) := by
  unfold useAnswer
  split
  · split
    · exact deleteFound_tame _ _
    · exact finish_tame _ _ _
  · cases group.op
    case getParamNames =>
      exact Tame.api.bind fun _ => (Tame.changeApi _).bind fun _ =>
        .whenever _ (finish_tame _ _ _)
    all_goals exact finish_tame _ _ _

theorem parameterResponse_tame (pending : Pending) (response : Json) :
    Tame (parameterResponse env pending response) := by
  refine Tame.api.bind fun _ => (Tame.unwrap _ _).bind fun group => ?_
  split
  · exact .panic _
  · exact (Tame.changeApi _).bind fun _ => useAnswer_tame _ _ _

/-! ### Rounds -/

theorem reply_tame (entity : Entity) (id : Nat) (op : Query) (args : Json) :
    Tame (reply env entity id op args) := by
  unfold reply
  split
  · exact parameter_tame _ _ _ _
  · exact (Tame.of_watches (graphReply_watches env op args)).bind fun _ => respond_tame _ _ _

theorem handleEvent_tame (event : Event) : Tame (handleEvent env event) := by
  refine Tame.api.bind fun a => ?_
  cases event with
  | message entity message => exact .pure _
  | request entity id args =>
      dsimp only
      cases a.operations.lookup entity with
      | none => exact .pure _
      | some op =>
          refine (reply_tame _ _ _ _).attempt.bind fun outcome => ?_
          cases outcome with
          | ok _ => exact .pure _
          | error cause => exact (discardRequest_tame _ _).bind fun _ => .pure _
  | response entity sequence values =>
      dsimp only
      cases a.pending.lookup (entity, sequence) with
      | none => exact .pure _
      | some pending =>
          exact (Tame.changeApi _).bind fun _ => (destroy_tame _).bind fun _ =>
            (parameterResponse_tame _ _).bind fun _ => .pure _

/-- A round of rosapi numbers no request and creates entities under new numbers. -/
theorem process_tame (events : List Event) : Tame (process env events) :=
  (Tame.foldEach [] fun _ event => (handleEvent_tame event).bind fun _ => .pure _).bind fun _ =>
    (Tame.of_watches (expiredGroups_watches env)).bind fun _ =>
      (Tame.forEach fun _ => finish_tame _ _ _).bind fun _ => .pure _

end Rosbridge.Ros
