import Rosbridge.Ros.Node

/-!
What each backend call of the node does.

Owns: one equation for each call, with the part of the node that it changes and the act
that it leaves in the history.
-/

set_option autoImplicit false

namespace Rosbridge.Ros

open Foundation Program

variable {env : Middleware} {s : Native}

/-- The outcome of a call that was answered. -/
def answered {α : Type} : Except Error α → Outcome Error α
  | .ok value => .ok value
  | .error cause => .error cause

/-- The state after one more act. -/
def Native.noting (s : Native) (act : Act) : Native := { s with trace := s.trace ++ [act] }

@[simp] theorem Native.noting_api (act : Act) : (s.noting act).api = s.api := rfl
@[simp] theorem Native.noting_node (act : Act) : (s.noting act).node = s.node := rfl
@[simp] theorem Native.noting_trace (act : Act) : (s.noting act).trace = s.trace ++ [act] := rfl

theorem attempt_of {α : Type} {program : Action α} {reply : Except Error α} {after : Native}
    (ran : program s = (answered reply, after)) : attempt program s = (.ok reply, after) := by
  rw [attempt, ran]
  cases reply <;> rfl

/-- The answer of a program goes to the history. -/
theorem recorded_of {α : Type} {program : Action α} {act : Except Error α → Act}
    {reply : Except Error α} {after : Native} (ran : program s = (answered reply, after)) :
    recorded program act s = (answered reply, after.noting (act reply)) := by
  rw [recorded, bind_ok (attempt_of ran)]
  cases reply <;> rfl

/-- The program answers, and at most forgets and learns requests. -/
def Answers {α : Type} (program : Action α) : Prop :=
  ∀ s : Native, ∃ reply requests,
    program s = (answered reply, { s with node := { s.node with requests } })

section Answers

variable {α β : Type}

theorem Answers.bind {first : Action α} {next : α → Action β} (holds : Answers first)
    (rest : ∀ value, Answers (next value)) : Answers (first >>= next) := by
  intro s
  obtain ⟨cause | value, requests, ran⟩ := holds s
  · exact ⟨.error cause, requests, bind_error ran⟩
  · obtain ⟨reply, others, done⟩ := rest value { s with node := { s.node with requests } }
    exact ⟨reply, others, (bind_ok ran).trans done⟩

theorem Answers.ofExcept (reply : Except Error α) : Answers (Program.ofExcept reply) := by
  intro s
  cases reply with
  | ok value => exact ⟨.ok value, s.node.requests, rfl⟩
  | error cause => exact ⟨.error cause, s.node.requests, rfl⟩

theorem Answers.pure (value : α) : Answers (Pure.pure value) :=
  fun s => ⟨.ok value, s.node.requests, rfl⟩

theorem Answers.consult (answer : Trace → α) : Answers (consult answer) :=
  fun s => ⟨.ok (answer s.trace), s.node.requests, rfl⟩

theorem Answers.node : Answers node := fun s => ⟨.ok s.node, s.node.requests, rfl⟩

theorem Answers.handle (role : Role) (missing : String) (entity : Entity) :
    Answers (handle role missing entity) := by
  refine Answers.node.bind fun n => ?_
  have refused : Answers (fail ⟨missing⟩ : Action Handle) :=
    fun s => ⟨.error ⟨missing⟩, s.node.requests, rfl⟩
  cases n.handles.lookup entity with
  | none => exact refused
  | some handle =>
      dsimp only
      split
      · exact .pure handle
      · exact refused

theorem Answers.ensure (condition : Bool) (cause : Error) : Answers (ensure condition cause) := by
  intro s
  cases condition with
  | true => exact ⟨.ok (), s.node.requests, rfl⟩
  | false => exact ⟨.error cause, s.node.requests, rfl⟩

end Answers

/-! ### Creating -/

section Calls

variable (env)

/-- The node with one more handle. -/
def Node.with (n : Node) (handle : Handle) : Node :=
  { n with next := n.next + 1, handles := n.handles.insert (n.next + 1) handle }

theorem create_spec (handle : Handle) :
    (env.create s.trace handle = .ok () ∧
        create env handle s = (.ok (s.node.next + 1), { s with node := s.node.with handle })) ∨
      ∃ cause, env.create s.trace handle = .error cause ∧
        create env handle s = (.error cause, s) := by
  unfold create
  show (_ ∧ (ofExcept (env.create s.trace handle) >>= fun _ => insertHandle handle) s = _) ∨
    ∃ cause, _ ∧ (ofExcept (env.create s.trace handle) >>= fun _ => insertHandle handle) s = _
  cases env.create s.trace handle with
  | ok _ => exact .inl ⟨rfl, rfl⟩
  | error cause => exact .inr ⟨cause, rfl, rfl⟩

/-- A client is created under a new number, or ROS refuses it. -/
theorem client_spec (name typ : String) :
    (env.create s.trace ⟨.client, name, typ⟩ = .ok () ∧
        client env name typ s = (.ok (s.node.next + 1),
          { s with node := s.node.with ⟨.client, name, typ⟩ }.noting
            (.client name typ (.ok (s.node.next + 1))))) ∨
      ∃ cause, env.create s.trace ⟨.client, name, typ⟩ = .error cause ∧
        client env name typ s = (.error cause, s.noting (.client name typ (.error cause))) := by
  rcases create_spec env (s := s) ⟨.client, name, typ⟩ with
    ⟨accepted, created⟩ | ⟨cause, refused, failed⟩
  · exact .inl ⟨accepted, @recorded_of s _ _ _ (.ok (s.node.next + 1)) _ created⟩
  · exact .inr ⟨cause, refused, @recorded_of s _ _ _ (.error cause) _ failed⟩

/-! ### Requests and responses -/

/-- The state with other requests that wait for a response. -/
def Native.awaiting (s : Native) (requests : Finset (Entity × Nat)) : Native :=
  { s with node := { s.node with requests } }

@[simp] theorem Native.awaiting_api (requests : Finset (Entity × Nat)) :
    (s.awaiting requests).api = s.api := rfl
@[simp] theorem Native.awaiting_trace (requests : Finset (Entity × Nat)) :
    (s.awaiting requests).trace = s.trace := rfl

theorem Answers.recorded {α : Type} {program : Action α} (holds : Answers program)
    (act : Except Error α → Act) (s : Native) : ∃ reply requests,
      recorded program act s = (answered reply, (s.awaiting requests).noting (act reply)) := by
  obtain ⟨reply, requests, ran⟩ := holds s
  exact ⟨reply, requests, recorded_of ran⟩

theorem request_spec (entity : Entity) (args : Json) : ∃ reply requests,
    request env entity args s =
      (answered reply, (s.awaiting requests).noting (.request entity args reply)) := by
  refine Answers.recorded ?_ (.request entity args) s
  refine (Answers.handle _ _ _).bind fun handle => (Answers.ofExcept _).bind fun _ => ?_
  exact (Answers.consult _).bind fun reply => .ofExcept reply

theorem respond_spec (entity : Entity) (id : Nat) (value : Json) : ∃ reply requests,
    respond env entity id value s =
      (answered reply, (s.awaiting requests).noting (.respond entity id value reply)) := by
  refine Answers.recorded ?_ (.respond entity id value) s
  refine (Answers.handle _ _ _).bind fun handle => (Answers.ofExcept _).bind fun _ => ?_
  refine Answers.node.bind fun n => (Answers.ensure _ _).bind fun _ => ?_
  refine (Answers.consult _).bind fun reply => (Answers.ofExcept reply).bind fun _ => ?_
  exact fun s => ⟨.ok (), _, rfl⟩

end Calls

end Rosbridge.Ros
