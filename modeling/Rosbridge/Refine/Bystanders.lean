import Rosbridge.Foundation.Frame
import Rosbridge.Refine.Messages

/-!
Handlers that have nothing to do with topics.

Owns: `Bystands`, the programs that hand no sample over, take no event in and leave the
subscriptions alone; and that every handler that is not about subscriptions or samples is such
a program.
-/

set_option autoImplicit false

namespace Rosbridge

open Foundation Program

variable {α : Type}

/-- The messages that carry a sample. -/
def History.published (log : History) : List Message :=
  log.messages.filter fun message => decide (message.op = some "publish")

@[simp]
theorem History.published_append (log more : History) :
    (log ++ more).published = log.published ++ more.published := by
  simp [History.published]

/-- From one machine to the other no sample is handed over, no event comes in, and the
subscriptions stay. -/
structure Aloof (before after : Machine) : Prop where
  grown : ∃ added : History, after.log = before.log ++ added ∧ added.published = [] ∧
    added.events = []
  subscriptions : after.bridge.subscriptions = before.bridge.subscriptions

theorem Aloof.refl (m : Machine) : Aloof m m :=
  ⟨⟨[], (List.append_nil _).symm, rfl, rfl⟩, rfl⟩

theorem Aloof.trans {before middle after : Machine} (first : Aloof before middle)
    (rest : Aloof middle after) : Aloof before after := by
  obtain ⟨added, grown, quiet, still⟩ := first.grown
  obtain ⟨more, grown', quiet', still'⟩ := rest.grown
  refine ⟨⟨added ++ more, ?_, ?_, ?_⟩, rest.subscriptions.trans first.subscriptions⟩
  · rw [grown', grown, List.append_assoc]
  · rw [History.published_append, quiet, quiet', List.append_nil]
  · rw [History.events_append, still, still', List.append_nil]

instance : Std.Refl Aloof := ⟨Aloof.refl⟩

instance : IsTrans Machine Aloof := ⟨fun _ _ _ => Aloof.trans⟩

/-- A program that has nothing to do with topics. -/
abbrev Bystands (program : Step α) : Prop := Within Aloof program

namespace Aloof

theorem tables : Bystands Rosbridge.tables := Aloof.refl

theorem update {change : Bridge → Bridge}
    (keeps : ∀ b, (change b).subscriptions = b.subscriptions) : Bystands (Rosbridge.update change) :=
  fun m => ⟨(Aloof.refl m).grown, keeps m.bridge⟩

theorem ask {answer : History → α} {entry : α → Entry}
    (quiet : ∀ reply, History.published [entry reply] = [] ∧ History.events [entry reply] = []) :
    Bystands (Rosbridge.ask answer entry) :=
  fun _ => ⟨⟨_, rfl, quiet _⟩, rfl⟩

theorem call {answer : History → Except Error α} {entry : Except Error α → Entry}
    (quiet : ∀ reply, History.published [entry reply] = [] ∧ History.events [entry reply] = []) :
    Bystands (Rosbridge.call answer entry) :=
  .bind (ask quiet) .ofExcept

end Aloof

section Handlers

variable (env : Environment)

theorem visit_bystands {κ ν : Type} (table : Table κ ν) : Bystands (visit env table) :=
  .bind (.ask fun _ => ⟨rfl, rfl⟩) fun _ => .pure _

theorem instant_bystands : Bystands (instant env) := .ask fun _ => ⟨rfl, rfl⟩

theorem after_bystands (duration : Duration) : Bystands (after env duration) :=
  .bind (instant_bystands env) fun _ => .unwrap _ _

theorem unique_bystands : Bystands unique :=
  .bind (.update fun _ => rfl) fun _ => .bind .tables fun _ => .pure _

/-- A message of another operation is no sample. -/
theorem send_bystands {owner : Connection} {value : Object} (id : Option String) (options : Options)
    (binary : Option Cbor) (other : (value.lookup "op").bind Json.asStr ≠ some "publish") :
    Bystands (send env owner value id options binary) := by
  have handed : History.published [.handed owner (labelled value id) options] = [] := by
    have op := Message.op_labelled owner value id options
    show List.filter _ [Message.mk owner (labelled value id) options] = []
    simp [op, other]
  unfold send
  refine .bind (.ask fun _ => ⟨handed, rfl⟩) fun _ => .bind .tables fun b => .ite (.pure ()) ?_
  refine .bind unique_bystands fun key => .bind .tables fun b => ?_
  cases b.outputs.lookup owner with
  | none => exact .pure ()
  | some output =>
      refine .bind (.ask fun _ => ⟨rfl, rfl⟩) fun verdict => ?_
      cases verdict with
      | ok value => exact .pure ()
      | error cause => exact .update fun _ => rfl

theorem destroyAll_bystands (entities : List Entity) : Bystands (destroyAll entities) :=
  .forEach fun _ => .ask fun _ => ⟨rfl, rfl⟩

theorem error_bystands (owner : Connection) (v : Json) (cause : Error) :
    Bystands (error env owner v cause) := by
  refine send_bystands env _ _ _ ?_
  rw [errorResponse_op]
  split
  · simp
  · split <;> simp

theorem resolve_bystands (v : Json) (key kind : String) : Bystands (resolve env v key kind) :=
  .bind (.ite (.call fun _ => ⟨rfl, rfl⟩) (.call fun _ => ⟨rfl, rfl⟩)) fun _ => .lift _

/-! ### Publishers and services -/

theorem advertise_bystands (owner : Connection) (v : Json) : Bystands (advertise env owner v) := by
  refine .bind (.lift _) fun topic => .bind (.lift _) fun id => .bind .tables fun b => ?_
  cases b.publishers.lookup topic with
  | some publisher => exact .bind (.lift _) fun _ => .update fun _ => rfl
  | none =>
      refine .bind (resolve_bystands env v _ _) fun typ => .bind (.lift _) fun qos => ?_
      exact .bind (.call fun _ => ⟨rfl, rfl⟩) fun entity => .update fun _ => rfl

theorem unadvertise_bystands (owner : Connection) (topic : String) (id : Option String) :
    Bystands (unadvertise owner topic id) := by
  refine .bind .tables fun b => ?_
  cases b.publishers.lookup topic with
  | none => exact .fail _
  | some publisher =>
      refine .bind (.ensure _ _) fun _ => .bind (.ensure _ _) fun _ => .ite ?_ (.update fun _ => rfl)
      exact .bind (.update fun _ => rfl) fun _ => .ask fun _ => ⟨rfl, rfl⟩

theorem publish_bystands (owner : Connection) (v : Json) : Bystands (publish env owner v) := by
  refine .bind (.lift _) fun topic => .bind (.ensure _ _) fun _ => ?_
  refine .bind (advertise_bystands env owner v) fun _ => .bind .tables fun b => ?_
  exact .bind (.unwrap _ _) fun publisher => .call fun _ => ⟨rfl, rfl⟩

theorem callService_bystands (owner : Connection) (v : Json) :
    Bystands (callService env owner v) := by
  refine .bind (.lift _) fun id => .bind (.lift _) fun service => .bind (.lift _) fun options => ?_
  refine .bind (resolve_bystands env v _ _) fun typ => .bind .tables fun b => ?_
  refine .bind (.lift _) fun _ => .bind .tables fun b => .bind (.lift _) fun timeout => ?_
  refine .bind (.call fun _ => ⟨rfl, rfl⟩) fun entity => .bind ?_ fun sequence => ?_
  · refine .bind (.attempt (.call fun _ => ⟨rfl, rfl⟩)) fun reply => ?_
    cases reply with
    | ok sequence => exact .pure sequence
    | error cause => exact .bind (.ask fun _ => ⟨rfl, rfl⟩) fun _ => .fail cause
  · exact .bind (after_bystands env timeout) fun expires => .update fun _ => rfl

theorem removeService_bystands (owner : Connection) (name : String) :
    Bystands (removeService owner name) := by
  refine .bind .tables fun b => ?_
  cases b.services.lookup name with
  | none => exact .fail _
  | some service =>
      refine .bind (.ensure _ _) fun _ => .bind (.update fun _ => rfl) fun _ => ?_
      exact .bind (.ask fun _ => ⟨rfl, rfl⟩) fun _ => .update fun _ => rfl

theorem openService_bystands (owner : Connection) (service typ : String) :
    Bystands (openService env owner service typ) :=
  .bind (.call fun _ => ⟨rfl, rfl⟩) fun _ => .update fun _ => rfl

theorem advertiseService_bystands (owner : Connection) (v : Json) :
    Bystands (advertiseService env owner v) := by
  refine .bind (.lift _) fun service => .bind (.lift _) fun text => .bind (.lift _) fun typ => ?_
  refine .bind .tables fun b => .bind (.lift _) fun _ => .bind .tables fun b => ?_
  cases b.services.lookup service with
  | none => exact openService_bystands env owner service typ
  | some current =>
      refine .bind (.ensure _ _) fun _ => .ite (.pure ()) ?_
      exact .bind (removeService_bystands owner service) fun _ =>
        openService_bystands env owner service typ

theorem serviceResponse_bystands (owner : Connection) (v : Json) :
    Bystands (serviceResponse env owner v) := by
  refine .bind (.lift _) fun id => .bind (.lift _) fun service => .bind .tables fun b => ?_
  cases b.external.lookup id with
  | none => exact .fail _
  | some request =>
      refine .bind (.ensure _ _) fun _ => ?_
      cases (v.index "result").asBool with
      | none => exact .fail _
      | some result =>
          refine .bind (.ensure _ _) fun _ => .bind (.call fun _ => ⟨rfl, rfl⟩) fun _ => ?_
          exact .update fun _ => rfl

/-! ### Goals of clients -/

theorem orRelease_bystands {step : Step α} (created : List Entity) (bystands : Bystands step) :
    Bystands (orRelease created step) := by
  refine .bind (.attempt bystands) fun reply => ?_
  cases reply with
  | ok value => exact .pure value
  | error cause => exact .bind (destroyAll_bystands created) fun _ => .fail cause

theorem openGoal_bystands (action typ : String) (uuid args : Json) :
    Bystands (openGoal env action typ uuid args) := by
  have create {answer : History → Except Error Entity} {entry : Except Error Entity → Entry}
      (created : List Entity)
      (quiet : ∀ reply, History.published [entry reply] = [] ∧ History.events [entry reply] = []) :
      Bystands (orRelease created (call answer entry)) :=
    orRelease_bystands created (.call quiet)
  refine .bind (.call fun _ => ⟨rfl, rfl⟩) fun send => .bind (create _ fun _ => ⟨rfl, rfl⟩) ?_
  refine fun result => .bind (create _ fun _ => ⟨rfl, rfl⟩) fun cancel => ?_
  refine .bind (create _ fun _ => ⟨rfl, rfl⟩) fun feedback => ?_
  refine .bind (create _ fun _ => ⟨rfl, rfl⟩) fun status => ?_
  exact .bind (orRelease_bystands _ (.call fun _ => ⟨rfl, rfl⟩)) fun _ => .pure _

theorem sendGoal_bystands (owner : Connection) (v : Json) : Bystands (sendGoal env owner v) := by
  refine .bind (.lift _) fun action => .bind (.lift _) fun text => .bind (.lift _) fun typ => ?_
  refine .bind (.lift _) fun id => .bind (.lift _) fun options => .bind .tables fun b => ?_
  refine .bind (.ensure _ _) fun _ => .bind (.lift _) fun feedback => ?_
  refine .bind (.ask fun _ => ⟨rfl, rfl⟩) fun fresh => .bind (.lift _) fun key => ?_
  refine .bind (openGoal_bystands env _ _ _ _) fun opened => .bind (.update fun _ => rfl) ?_
  refine fun _ => .bind .tables fun b => .bind (after_bystands env _) fun deadline => ?_
  exact .update fun _ => rfl

theorem cancelGoal_bystands (owner : Connection) (v : Json) :
    Bystands (cancelGoal env owner v) := by
  refine .bind (.lift _) fun action => .bind (.lift _) fun id => .bind .tables fun b => ?_
  refine .bind (visit_bystands env _) fun goals => ?_
  cases goals.find? fun entry =>
      entry.2.owner = owner && entry.2.action = action && entry.2.id = some id with
  | none => exact .fail _
  | some entry =>
      refine .bind (.ensure _ _) fun _ => .bind (.ensure _ _) fun _ => ?_
      exact .bind (.call fun _ => ⟨rfl, rfl⟩) fun _ => .update fun _ => rfl

theorem finishGoal_bystands (key : String) (values : Json) (status : Int) (success : Bool) :
    Bystands (finishGoal env key values status success) := by
  refine .bind .tables fun b => ?_
  cases b.goals.lookup key with
  | none => exact .pure ()
  | some goal =>
      refine .bind (.update fun _ => rfl) fun _ => .bind (send_bystands env _ _ _ ?_) fun _ => ?_
      · simp [resultMessage, Json.asStr]
      · exact .bind (destroyAll_bystands _) fun _ => .update fun _ => rfl

/-! ### Action servers -/

theorem closeAction_bystands (action : String) (server : ActionServer) :
    Bystands (closeAction env action server) := by
  refine .bind .tables fun b => .bind (visit_bystands env _) fun goals => ?_
  refine .bind (.forEach fun entry => .bind (.update fun _ => rfl) fun _ => ?_) fun _ => ?_
  · exact .forEach fun request => .bind (.attempt (.call fun _ => ⟨rfl, rfl⟩)) fun _ => .pure ()
  · exact .bind (.update fun _ => rfl) fun _ => destroyAll_bystands _

theorem removeAction_bystands (owner : Connection) (action : String) :
    Bystands (removeAction env owner action) := by
  refine .bind .tables fun b => ?_
  cases b.actionServers.lookup action with
  | none => exact .fail _
  | some server => exact .bind (.ensure _ _) fun _ => closeAction_bystands env action server

theorem openAction_bystands (owner : Connection) (action typ : String) (v : Json) :
    Bystands (openAction env owner action typ v) := by
  have create {answer : History → Except Error Entity} {entry : Except Error Entity → Entry}
      (created : List Entity)
      (quiet : ∀ reply, History.published [entry reply] = [] ∧ History.events [entry reply] = []) :
      Bystands (orRelease created (call answer entry)) :=
    orRelease_bystands created (.call quiet)
  refine .bind (.call fun _ => ⟨rfl, rfl⟩) fun send => .bind (create _ fun _ => ⟨rfl, rfl⟩) ?_
  refine fun result => .bind (create _ fun _ => ⟨rfl, rfl⟩) fun cancel => ?_
  refine .bind (create _ fun _ => ⟨rfl, rfl⟩) fun feedback => ?_
  refine .bind (create _ fun _ => ⟨rfl, rfl⟩) fun status => ?_
  refine .bind (orRelease_bystands _ (.ofExcept _)) fun advertised => ?_
  exact .update fun _ => rfl

theorem advertiseAction_bystands (owner : Connection) (v : Json) :
    Bystands (advertiseAction env owner v) := by
  refine .bind (.lift _) fun action => .bind (.lift _) fun text => .bind (.lift _) fun typ => ?_
  refine .bind .tables fun b => ?_
  cases b.actionServers.lookup action with
  | none => exact openAction_bystands env owner action typ v
  | some current =>
      refine .bind (.ensure _ _) fun _ => .ite (.pure ()) ?_
      exact .bind (removeAction_bystands env owner action) fun _ =>
        openAction_bystands env owner action typ v

theorem publishStatus_bystands (action : String) : Bystands (publishStatus env action) := by
  refine .bind .tables fun b => .bind (visit_bystands env _) fun goals => ?_
  exact .bind (.bind .tables fun _ => .unwrap _ _) fun server => .call fun _ => ⟨rfl, rfl⟩

theorem actionFeedback_bystands (owner : Connection) (v : Json) :
    Bystands (actionFeedback env owner v) := by
  refine .bind (.lift _) fun id => .bind (.lift _) fun action => .bind .tables fun b => ?_
  refine .bind (visit_bystands env _) fun goals => ?_
  cases ownServerGoal owner id action goals with
  | none => exact .fail _
  | some entry =>
      refine .bind (.ensure _ _) fun _ => .bind (.ensure _ _) fun _ => ?_
      exact .bind (.bind .tables fun _ => .unwrap _ _) fun server => .call fun _ => ⟨rfl, rfl⟩

theorem actionResult_bystands (owner : Connection) (v : Json) :
    Bystands (actionResult env owner v) := by
  refine .bind (.lift _) fun id => .bind (.lift _) fun action => .bind .tables fun b => ?_
  refine .bind (visit_bystands env _) fun goals => ?_
  cases ownServerGoal owner id action goals with
  | none => exact .fail _
  | some entry =>
      refine .bind (.ensure _ _) fun _ => .bind (.lift _) fun reported => ?_
      refine .bind (.bind .tables fun _ => .unwrap _ _) fun server => ?_
      refine .bind (.call fun _ => ⟨rfl, rfl⟩) fun _ => .bind (.forEach fun request => ?_) fun _ => ?_
      · exact .bind (.call fun _ => ⟨rfl, rfl⟩) fun _ => .update fun _ => rfl
      · exact .bind (instant_bystands env) fun _ => .bind (.update fun _ => rfl) fun _ =>
          publishStatus_bystands env action

/-! ### Native requests and responses -/

theorem goalRequest_bystands (action : String) (server : ActionServer) (entity : Entity)
    (request : Nat) (args : Json) : Bystands (goalRequest env action server entity request args) := by
  refine .bind (.lift _) fun uuid => .bind (.ask fun _ => ⟨rfl, rfl⟩) fun now => ?_
  refine .bind .tables fun b => .ite (.call fun _ => ⟨rfl, rfl⟩) ?_
  refine .bind unique_bystands fun id => .bind (.call fun _ => ⟨rfl, rfl⟩) fun _ => ?_
  refine .bind (.update fun _ => rfl) fun _ => .bind (send_bystands env _ _ _ ?_) fun _ => ?_
  · simp [goalMessage, Json.asStr]
  · exact publishStatus_bystands env action

theorem resultRequest_bystands (action : String) (entity : Entity) (request : Nat) (args : Json) :
    Bystands (resultRequest env action entity request args) := by
  refine .bind (.lift _) fun uuid => .bind .tables fun b => ?_
  cases b.serverGoals.lookup (serverGoalKey action uuid) with
  | none => exact .call fun _ => ⟨rfl, rfl⟩
  | some goal =>
      dsimp only
      cases goal.result with
      | some values => exact .call fun _ => ⟨rfl, rfl⟩
      | none => exact .update fun _ => rfl

theorem cancelRequest_bystands (action : String) (server : ActionServer) (entity : Entity)
    (request : Nat) (args : Json) :
    Bystands (cancelRequest env action server entity request args) := by
  refine .bind (.lift _) fun requested => .bind .tables fun b => ?_
  refine .bind (visit_bystands env _) fun goals => .bind (.foldEach (fun scan entry => ?_) _) ?_
  · refine .bind (.lift _) fun uuid => .ite ?_ (.pure _)
    exact .bind (.update fun _ => rfl) fun _ => .pure _
  · refine fun scan => .bind (.call fun _ => ⟨rfl, rfl⟩) fun _ => ?_
    refine .bind (.forEach fun id => send_bystands env _ _ _ ?_) fun _ =>
      publishStatus_bystands env action
    simp [Json.asStr]

theorem serviceRequest_bystands (entity : Entity) (request : Nat) (args : Json) :
    Bystands (serviceRequest env entity request args) := by
  refine .bind ?_ fun handled => .ite (.pure ()) (.bind .tables fun b => ?_)
  · refine .bind .tables fun b => .bind (visit_bystands env _) fun servers => ?_
    cases servers.find? fun entry =>
        [entry.2.send, entry.2.cancel, entry.2.result].contains entity with
    | none => exact .pure false
    | some entry =>
        refine .bind (.ite (goalRequest_bystands env _ _ _ _ _) ?_) fun _ => .pure true
        exact .ite (resultRequest_bystands env _ _ _ _) (cancelRequest_bystands env _ _ _ _ _)
  · refine .bind (visit_bystands env _) fun services => ?_
    cases services.find? fun entry => entry.2.entity == entity with
    | none => exact .pure ()
    | some entry =>
        refine .bind (.update fun _ => rfl) fun _ => .bind .tables fun b => ?_
        refine .bind (after_bystands env _) fun expires => .bind (.update fun _ => rfl) fun _ => ?_
        refine send_bystands env _ _ _ ?_
        simp [externalCall, Json.asStr]

theorem requestEvent_bystands (entity : Entity) (request : Nat) (args : Json) :
    Bystands (requestEvent env entity request args) := by
  refine .bind (.attempt (serviceRequest_bystands env entity request args)) fun reply => ?_
  cases reply with
  | ok value => exact .pure ()
  | error cause => exact .ask fun _ => ⟨rfl, rfl⟩

theorem response_bystands (entity : Entity) (sequence : Int) (values : Json) :
    Bystands (response env entity sequence values) := by
  refine .bind .tables fun b => ?_
  cases b.calls.lookup (entity, sequence) with
  | some call =>
      refine .bind (.update fun _ => rfl) fun _ => .bind .tables fun b => ?_
      refine .bind (.unwrap _ _) fun shown => .bind (send_bystands env _ _ _ ?_) fun _ => ?_
      · simp [serviceMessage, Json.asStr]
      · exact .ask fun _ => ⟨rfl, rfl⟩
  | none =>
      refine .bind .tables fun b => ?_
      cases b.actionCalls.lookup (entity, sequence) with
      | none => exact .pure ()
      | some call =>
          refine .bind (.update fun _ => rfl) fun _ => ?_
          cases call with
          | send key =>
              refine .ite (.bind .tables fun b => ?_) (finishGoal_bystands env _ _ _ _)
              cases b.goals.lookup key with
              | none => exact .pure ()
              | some goal =>
                  refine .bind (.update fun _ => rfl) fun _ => ?_
                  exact .bind (.call fun _ => ⟨rfl, rfl⟩) fun _ => .update fun _ => rfl
          | result key => exact finishGoal_bystands env _ _ _ _
          | cancel key =>
              refine .ite (.pure ()) (.bind .tables fun b => ?_)
              cases b.goals.lookup key with
              | none => exact .pure ()
              | some goal =>
                  refine .bind (.update fun _ => rfl) fun _ => send_bystands env _ _ _ ?_
                  simp [rejectedMessage, Json.asStr]

/-! ### Cleanup and deadlines -/

theorem releasePublishers_bystands (owner : Connection) : Bystands (releasePublishers env owner) := by
  refine .bind .tables fun b => .bind (visit_bystands env _) fun publishers => ?_
  exact .forEach fun entry => .bind (.attempt (unadvertise_bystands _ _ _)) fun _ => .pure ()

theorem releaseServices_bystands (owner : Connection) : Bystands (releaseServices env owner) := by
  refine .bind .tables fun b => .bind (visit_bystands env _) fun services => ?_
  exact .forEach fun entry => .bind (.attempt (removeService_bystands _ _)) fun _ => .pure ()

theorem releaseActions_bystands (owner : Connection) : Bystands (releaseActions env owner) := by
  refine .bind .tables fun b => .bind (visit_bystands env _) fun servers => ?_
  exact .forEach fun entry => .bind (.attempt (removeAction_bystands env _ _)) fun _ => .pure ()

theorem releaseGoals_bystands (owner : Connection) : Bystands (releaseGoals env owner) := by
  refine .bind .tables fun b => .bind (visit_bystands env _) fun goals => ?_
  refine .forEach fun entry => .bind (.bind .tables fun b => ?_) fun _ =>
    finishGoal_bystands env _ _ _ _
  cases b.goals.lookup entry.1 with
  | none => exact .pure ()
  | some goal =>
      exact .ite (.bind (.attempt (.call fun _ => ⟨rfl, rfl⟩)) fun _ => .pure ()) (.pure ())

theorem releaseCalls_bystands (owner : Connection) : Bystands (releaseCalls env owner) := by
  refine .bind .tables fun b => .bind (visit_bystands env _) fun calls => ?_
  exact .forEach fun entry => .bind (.update fun _ => rfl) fun _ => .ask fun _ => ⟨rfl, rfl⟩

theorem expireGoals_bystands (now : Instant) : Bystands (expireGoals env now) := by
  refine .bind .tables fun b => .bind (visit_bystands env _) fun goals => ?_
  exact .forEach fun entry => finishGoal_bystands env _ _ _ _

theorem expireCalls_bystands (now : Instant) : Bystands (expireCalls env now) := by
  refine .bind .tables fun b => .bind (visit_bystands env _) fun calls => .forEach fun entry => ?_
  refine .bind .tables fun b => .bind (.unwrap _ _) fun call => .bind (.update fun _ => rfl) ?_
  refine fun _ => .bind (send_bystands env _ _ _ ?_) fun _ => .ask fun _ => ⟨rfl, rfl⟩
  simp [timeoutMessage, Json.asStr]

theorem expireExternal_bystands (now : Instant) : Bystands (expireExternal env now) := by
  refine .bind .tables fun b => .bind (visit_bystands env _) fun external => .forEach fun entry => ?_
  refine .bind .tables fun b => .bind (.unwrap _ _) fun request => ?_
  exact .bind (.update fun _ => rfl) fun _ => .ask fun _ => ⟨rfl, rfl⟩

theorem connect_bystands (owner : Connection) : Bystands (connect owner) :=
  .bind (.ask fun _ => ⟨rfl, rfl⟩) fun _ => .update fun _ => rfl

theorem forgetGoals_bystands : Bystands (forgetGoals env) := by
  refine .bind .tables fun b => .bind (visit_bystands env _) fun goals => .forEach fun entry => ?_
  cases entry.2.completed with
  | none => exact .pure ()
  | some completed =>
      exact .bind (instant_bystands env) fun now => .ite (.pure ()) (.update fun _ => rfl)

theorem closedOutputs_bystands (outputs : List (Connection × Output)) :
    Bystands (closedOutputs env outputs) := by
  induction outputs with
  | nil => exact .pure []
  | cons entry rest inductionHypothesis =>
      refine .bind (.ask fun _ => ⟨rfl, rfl⟩) fun closed => ?_
      exact .bind inductionHypothesis fun others => .pure _

end Handlers

/-! ### All that a connection does -/

section Connections

variable {relation : Machine → Machine → Prop} [Std.Refl relation] [IsTrans Machine relation]
  (env : Environment) (stands : ∀ before after, Aloof before after → relation before after)

include stands

/-- An operation is no more than its part in subscriptions. -/
theorem operate_within {owner : Connection} {op : String} {v : Json}
    (subscribes : op = "subscribe" → Within relation (subscribe env owner v))
    (unsubscribes : ∀ topic id, Within relation (unsubscribe owner topic id)) :
    Within relation (operate env owner op v) := by
  have aside {program : Step Unit} (bystands : Bystands program) : Within relation program :=
    bystands.mono stands
  unfold operate
  split
  · exact aside (advertise_bystands env owner v)
  · refine .bind (.lift _) fun name => .bind (.lift _) fun id => ?_
    exact aside (unadvertise_bystands owner name id)
  · exact aside (publish_bystands env owner v)
  · exact subscribes rfl
  · exact .bind (.lift _) fun name => .bind (.lift _) fun id => unsubscribes name id
  · exact aside (callService_bystands env owner v)
  · exact aside (advertiseService_bystands env owner v)
  · exact .bind (.lift _) fun name => aside (removeService_bystands owner name)
  · exact aside (serviceResponse_bystands env owner v)
  · exact aside (sendGoal_bystands env owner v)
  · exact aside (cancelGoal_bystands env owner v)
  · exact aside (advertiseAction_bystands env owner v)
  · exact .bind (.lift _) fun name => aside (removeAction_bystands env owner name)
  · exact aside (actionFeedback_bystands env owner v)
  · exact aside (actionResult_bystands env owner v)
  · exact .fail _

theorem command_within {owner : Connection} {v : Json}
    (subscribes : Within relation (subscribe env owner v))
    (unsubscribes : ∀ topic id, Within relation (unsubscribe owner topic id)) :
    Within relation (command env owner v) := by
  have looks : Within relation tables := Aloof.tables.mono stands
  have executes : Within relation (execute env owner v) := by
    refine .bind (.lift _) fun id => .bind (.lift _) fun op => .bind looks fun b => ?_
    exact .bind (.lift _) fun _ => operate_within env stands (fun _ => subscribes) unsubscribes
  refine .bind looks fun b => .ite (.bind (.attempt executes) ?_) (.pure ())
  rintro (cause | value)
  · exact (error_bystands env owner v cause).mono stands
  · exact .pure _

variable (unsubscribes : ∀ owner topic id, Within relation (unsubscribe owner topic id))

include unsubscribes

theorem disconnect_within (owner : Connection) : Within relation (disconnect env owner) := by
  have aside {program : Step Unit} (bystands : Bystands program) : Within relation program :=
    bystands.mono stands
  refine .bind (aside (.update fun _ => rfl)) fun _ => ?_
  refine .bind (aside (releasePublishers_bystands env owner)) fun _ => .bind ?_ fun _ => ?_
  · refine .bind (Aloof.tables.mono stands) fun b => ?_
    refine .bind ((visit_bystands env _).mono stands) fun items => .forEach fun entry => ?_
    exact .bind (.attempt (unsubscribes owner entry.1 none)) fun _ => .pure ()
  refine .bind (aside (releaseServices_bystands env owner)) fun _ => ?_
  refine .bind (aside (releaseActions_bystands env owner)) fun _ => ?_
  refine .bind (aside (releaseGoals_bystands env owner)) fun _ => ?_
  exact .bind (aside (releaseCalls_bystands env owner)) fun _ => aside (.update fun _ => rfl)

theorem dropFailed_within : Within relation (dropFailed env) := by
  refine .bind (.mono (.ask fun _ => ⟨rfl, rfl⟩) stands) fun code => ?_
  refine .bind (Aloof.tables.mono stands) fun b => .bind (.mono (.update fun _ => rfl) stands) ?_
  exact fun _ => .forEach fun owner => disconnect_within env stands unsubscribes owner

theorem dropClosed_within : Within relation (dropClosed env) := by
  refine .bind (Aloof.tables.mono stands) fun b => ?_
  refine .bind ((visit_bystands env _).mono stands) fun outputs => ?_
  refine .bind ((closedOutputs_bystands env outputs).mono stands) fun closed => ?_
  exact .forEach fun owner => disconnect_within env stands unsubscribes owner

theorem shutdown_within : Within relation (shutdown env) := by
  refine .bind (Aloof.tables.mono stands) fun b => ?_
  refine .bind ((visit_bystands env _).mono stands) fun outputs => ?_
  exact .forEach fun entry => disconnect_within env stands unsubscribes entry.1

/-- What a tick does once its goals have expired and its queues were served. -/
theorem endTick_within (now : Instant) : Within relation (do
    expireCalls env now
    expireExternal env now
    forgetGoals env
    dropFailed env
    dropClosed env) := by
  refine .bind ((expireCalls_bystands env now).mono stands) fun _ => ?_
  refine .bind ((expireExternal_bystands env now).mono stands) fun _ => ?_
  refine .bind ((forgetGoals_bystands env).mono stands) fun _ => ?_
  exact .bind (dropFailed_within env stands unsubscribes) fun _ =>
    dropClosed_within env stands unsubscribes

end Connections

end Rosbridge
