import Rosbridge.Refine.Requests
import Rosbridge.Refine.Topics

/-!
Commands only take moves of the connection they come from.
-/

set_option autoImplicit false

namespace Rosbridge

open Foundation Program

variable {env : Environment} {owner : Connection} {v : Json} {m origin : Machine}

/-- The durations that a command may add to the clock. -/
def Timed (b : Bridge) (v : Json) (duration : Duration) : Prop :=
  (required v "op" = .ok "call_service" ∧ callTimeout b.timeout v = .ok duration) ∨
    (required v "op" = .ok "send_action_goal" ∧ duration = b.timeout)

theorem Move.Harmless.beside {move : Move} (harmless : move.Harmless) : move.Beside owner := by
  cases move <;> first | exact trivial | exact harmless.elim

theorem Move.Under.by {move : Move} (under : move.Under owner v) : move.By owner := by
  rcases under with beside | ⟨cause, rfl⟩ | ⟨-, advertises⟩ | ⟨-, responds⟩ | ⟨-, completes⟩
  · cases move <;> first | exact beside | exact beside.elim
  · exact rfl
  · cases move <;> first | exact trivial | exact advertises.1 | exact advertises.elim
  · cases move <;> first | exact responds.1 | exact responds.elim
  · cases move <;> first | exact trivial | exact completes.1 | exact completes.elim

/-- A handler that advertises no topic and answers nothing stays within its command. -/
theorem Ends.beside {program : Step Unit} {panics : Machine → Prop}
    (ends : wp program (Ends env (Move.Beside owner) Never m) m) :
    wp program (Ends env (Move.Under owner v) panics m) m :=
  wp_mono ends fun _ _ ends => ends.mono (fun _ => .inl) fun _ => False.elim

theorem Move.By.keeps_outputs (reach : Follows (Transition env) (Move.By owner) origin m) :
    m.bridge.outputs = origin.bridge.outputs := by
  refine Follows.keeps Bridge.outputs (fun _ _ _ => rfl) ?_ reach
  intro move own b
  cases move <;> first | rfl | exact own.elim

/-- What a command's check says of the name it reads. -/
theorem name_granted {key text : String} {check : String → Except Error Unit}
    (granted : (name v key >>= check) = .ok ()) (named : name v key = .ok text) :
    check text = .ok () := by
  rw [named] at granted
  exact granted

theorem operate_ends {op : String} {id : Option String} (named : required v "op" = .ok op)
    (identified : requestId v = .ok id) (connected : owner ∈ m.bridge.outputs)
    (served : m.bridge.Served) (granted : checkAccess m.bridge.access op v = .ok ()) :
    wp (operate env owner op v)
      (Ends env (Move.Under owner v)
        (fun after => ∃ duration, Timed m.bridge v duration ∧ Overflows env duration m after) m)
      m := by
  have start : Follows (Transition env) (Move.Under owner v) m m := .refl m
  unfold operate
  split
  · refine wp_mono (advertise_ends connected fun topic names => ?_) fun _ _ ends =>
      ends.mono (fun _ pass => .inr (.inr (.inl ⟨.inl named, pass⟩))) fun _ => False.elim
    exact Access.topic_ok.mp (name_granted granted names)
  · refine wp_bind_lift (fun _ _ => start) fun topic _ => ?_
    exact wp_bind_lift (fun _ _ => start) fun id _ => Ends.beside unadvertise_ends
  · refine wp_mono (publish_ends connected fun topic names => ?_) fun _ _ ends =>
      ends.mono (fun _ pass => .inr (.inr (.inl ⟨.inr named, pass⟩))) fun _ => False.elim
    exact Access.topic_ok.mp (name_granted granted names)
  · exact Ends.beside (subscribe_ends connected identified fun topic names =>
      Access.topic_ok.mp (name_granted granted names))
  · refine wp_bind_lift (fun _ _ => start) fun topic _ => ?_
    exact wp_bind_lift (fun _ _ => start) fun id _ => Ends.beside unsubscribe_ends
  · refine wp_mono (callService_spec connected fun service names =>
      Access.service_ok.mp (name_granted granted names)) ?_
    rintro (value | cause | site) after spec
    · obtain ⟨middle, key, call, typ, args, reading, timeout, -, reach, taken, owned, -⟩ := spec
      exact (reach.mono fun _ => .inl ∘ Move.Harmless.beside).trans (.single taken (.inl owned))
    · exact Follows.mono spec fun _ => .inl ∘ Move.Harmless.beside
    · obtain ⟨timeout, timed, past⟩ := spec
      exact ⟨timeout, .inl ⟨named, timed⟩, past⟩
  · exact Ends.beside (advertiseService_ends connected fun service names =>
      Access.service_ok.mp (name_granted granted names))
  · refine wp_bind_lift (fun _ _ => start) fun name _ => ?_
    exact Ends.beside removeService_ends
  · exact wp_mono serviceResponse_ends fun _ _ ends =>
      ends.mono (fun _ pass => .inr (.inr (.inr (.inl ⟨named, pass⟩)))) fun _ => False.elim
  · refine wp_mono (sendGoal_spec connected fun action names =>
      name_granted granted names) ?_
    rintro (value | cause | site) after spec
    · obtain ⟨middle, key, goal, fresh, sequence, typ, args, reading, -, reach, taken, owned, -⟩ :=
        spec
      exact (reach.mono fun _ => .inl ∘ Move.Harmless.beside).trans (.single taken (.inl owned))
    · exact Follows.mono spec fun _ => .inl ∘ Move.Harmless.beside
    · exact ⟨m.bridge.timeout, .inr ⟨named, rfl⟩, spec⟩
  · exact Ends.beside cancelGoal_ends
  · exact Ends.beside (advertiseAction_ends connected fun action names =>
      name_granted granted names)
  · refine wp_bind_lift (fun _ _ => start) fun action _ => ?_
    exact Ends.beside removeAction_ends
  · exact Ends.beside (actionFeedback_ends served)
  · exact wp_mono (actionResult_ends served) fun _ _ ends =>
      ends.mono (fun _ pass => .inr (.inr (.inr (.inr ⟨named, pass⟩)))) fun _ => False.elim
  · exact start

theorem execute_ends (connected : owner ∈ m.bridge.outputs) (served : m.bridge.Served) :
    wp (execute env owner v)
      (Ends env (Move.Under owner v)
        (fun after => ∃ duration, Timed m.bridge v duration ∧ Overflows env duration m after) m)
      m := by
  have start : Follows (Transition env) (Move.Under owner v) m m := .refl m
  unfold execute
  refine wp_bind_lift (fun _ _ => start) fun id identified => ?_
  refine wp_bind_lift (fun _ _ => start) fun op named => ?_
  refine wp_bind_tables ?_
  exact wp_bind_lift (fun _ _ => start) fun _ granted =>
    operate_ends named identified connected served granted

/-- The reply to a failed request. -/
theorem error_refuses {cause : Error} {passes : Move → Prop}
    (reach : Follows (Transition env) passes origin m) (pass : passes (.refused owner v cause))
    (connected : owner ∈ m.bridge.outputs) :
    wp (error env owner v cause) (Ends env passes Never origin) m := by
  refine wp_send env fun after sent => ?_
  obtain ⟨next, failed, tables⟩ := sent.tables
  exact Move.speak (.refused owner v cause) reach pass sent
    (by rw [Move.Enabled, tables]; exact connected) rfl rfl

/-- A command ends without an error, unless it panics on a time. -/
theorem command_ends (served : m.bridge.Served) :
    wp (command env owner v)
      (Ends env (Move.Under owner v)
        (fun after => ∃ duration, Timed m.bridge v duration ∧ Overflows env duration m after) m)
      m := by
  have start : Follows (Transition env) (Move.Under owner v) m m := .refl m
  unfold command
  refine wp_bind_tables ?_
  rw [wp_ite]
  split
  · next connected =>
      rw [wp_bind, wp_attempt]
      refine wp_mono (execute_ends connected served) ?_
      rintro (value | cause | site) after ends
      · exact ends
      · refine Ends.calm (error_refuses ends (.inr (.inl ⟨cause, rfl⟩)) ?_)
        rw [Move.By.keeps_outputs (Follows.mono ends fun _ => Move.Under.by)]
        exact connected
      · exact ends
  · exact start

/-- A command of a connected client is executed, and answered if that fails. -/
theorem wp_command_connected {post : Outcome Error Unit → Machine → Prop}
    (connected : owner ∈ m.bridge.outputs)
    (executes : wp (execute env owner v) (fun outcome after =>
      match outcome with
      | .ok _ => post (.ok ()) after
      | .error cause => wp (error env owner v cause) post after
      | .panic site => post (.panic site) after) m) :
    wp (command env owner v) post m := by
  unfold command
  refine wp_bind_tables ?_
  rw [wp_ite, if_pos connected, wp_bind, wp_attempt]
  refine wp_mono executes ?_
  rintro (value | cause | site) after ends
  · exact ends
  · exact ends
  · exact ends

/-- A request that names its operation performs it if it passes the checks of the dispatcher. -/
theorem wp_execute {op : String} {post : Outcome Error Unit → Machine → Prop}
    (named : required v "op" = .ok op)
    (fails : ∀ cause, requestId v = .error cause ∨ checkAccess m.bridge.access op v = .error cause →
      post (.error cause) m)
    (operates : ∀ id, requestId v = .ok id → checkAccess m.bridge.access op v = .ok () →
      wp (operate env owner op v) post m) :
    wp (execute env owner v) post m := by
  unfold execute
  refine wp_bind_lift (fun cause failed => fails cause (.inl failed)) fun id identified => ?_
  refine wp_bind_lift (fun cause failed => ?_) fun other same => ?_
  · rw [named] at failed
    cases failed
  cases named.symm.trans same
  refine wp_bind_tables ?_
  exact wp_bind_lift (fun cause denied => fails cause (.inr denied)) fun _ granted =>
    operates id identified granted

/-- A command that passes the checks of the dispatcher performs its operation, and answers the
client if that fails. -/
theorem wp_command {op : String} {id : Option String} {post : Outcome Error Unit → Machine → Prop}
    (connected : owner ∈ m.bridge.outputs) (named : required v "op" = .ok op)
    (identified : requestId v = .ok id) (granted : checkAccess m.bridge.access op v = .ok ())
    (operates : wp (operate env owner op v) (fun outcome after =>
      match outcome with
      | .ok _ => post (.ok ()) after
      | .error cause => wp (error env owner v cause) post after
      | .panic site => post (.panic site) after) m) :
    wp (command env owner v) post m := by
  refine wp_command_connected connected (wp_execute named ?_ fun _ _ _ => operates)
  rintro cause (failed | denied)
  · rw [identified] at failed
    cases failed
  · rw [granted] at denied
    cases denied

end Rosbridge
