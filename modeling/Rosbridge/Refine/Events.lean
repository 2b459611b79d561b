import Rosbridge.Refine.Commands

/-!
Handlers of responses, and of events in general.

Owns: what each kind of event does to the machine, stated once for the proofs
about whole ticks.
-/

set_option autoImplicit false

namespace Rosbridge

open Foundation Program

variable {env : Environment} {m origin : Machine} {entity : Entity} {sequence : Int}
  {values : Json}

/-! ### Calls of clients -/

/-- A response to a call whose values can be shown ends the call. -/
theorem callResponse_spec {call : Call}
    (found : m.bridge.calls.lookup (entity, sequence) = some call) :
    wp (callResponse env entity sequence call values)
      (fun outcome after =>
        match outcome with
        | .ok _ =>
            ∃ shown, visibleValues m.bridge.access call values = some shown ∧
              Transition env (.replied (entity, sequence) call shown) m after
        | .error _ => False
        | .panic _ => visibleValues m.bridge.access call values = none) m := by
  unfold callResponse
  refine wp_bind_update ?_
  refine wp_bind_tables ?_
  refine wp_bind_unwrap (fun hidden => hidden) fun shown visible => ?_
  rw [wp_bind]
  refine wp_send env fun after sent => ?_
  obtain ⟨middle, handed, rfl⟩ := Sent.commute m
    (fun b => { b with calls := b.calls.erase (entity, sequence) })
    (fun _ => rfl) (fun _ => rfl) (fun _ => rfl) (fun _ _ _ => rfl) sent
  obtain ⟨next, failed, tables⟩ := handed.tables
  exact ⟨shown, visible, middle, handed, by rw [Move.Enabled, tables]; exact found, rfl⟩

/-! ### Requests of goals -/

section Goals

variable {key : String} {call : ActionCall}

/-- The move that a response to a pending request of a goal causes. -/
inductive Move.Replies (pending : Entity × Int) (values : Json) : ActionCall → Move → Prop where
  | accepted {key : String} {goal : ClientGoal} {sequence : Int}
      (accepts : (values.index "accepted").eqBool true = true) :
      Replies pending values (.send key) (.goalAccepted pending key goal sequence)
  | stranded {key : String} {goal : ClientGoal} {cause : Error}
      (accepts : (values.index "accepted").eqBool true = true) :
      Replies pending values (.send key) (.goalStranded pending key goal cause)
  | rejected {key : String} {goal : ClientGoal}
      (rejects : (values.index "accepted").eqBool true = false) :
      Replies pending values (.send key) (.goalFinished key goal (.str "goal rejected") 6 false)
  | finished {key : String} {goal : ClientGoal} :
      Replies pending values (.result key)
        (.goalFinished key goal (values.index "result") (((values.index "status").asI64).getD 0)
          (decide (((values.index "status").asI64).getD 0 = 4)))
  | settled {key : String} : Replies pending values (.cancel key) (.cancelSettled pending key)
  | refused {key : String} {goal : ClientGoal} :
      Replies pending values (.cancel key) (.cancelRejected pending key goal)
  | ignored {call : ActionCall} : Replies pending values call (.replyIgnored pending call)

theorem Move.Replies.onReply {pending : Entity × Int} {move : Move}
    (replies : move.Replies pending values call) : move.OnReply := by
  cases replies <;> trivial

/-- One move ends the pending request. -/
def Replied (env : Environment) (pending : Entity × Int) (values : Json) (call : ActionCall)
    (origin : Machine) : Outcome Error Unit → Machine → Prop
  | .panic _, _ => False
  | _, after => ∃ move : Move, move.Replies pending values call ∧ Transition env move origin after

/-- Finishing a goal also drops the pending request that ended it. -/
theorem finishGoal_replied {status : Int} {success : Bool} {shown : Json}
    (found : m.bridge.actionCalls.lookup (entity, sequence) = some call)
    (about : call.goal = key)
    (replies : ∀ goal, (Move.goalFinished key goal shown status success).Replies
      (entity, sequence) values call) :
    wp (finishGoal env key shown status success) (Replied env (entity, sequence) values call m)
      { m with
        bridge :=
          { m.bridge with actionCalls := m.bridge.actionCalls.erase (entity, sequence) } } := by
  unfold finishGoal
  refine wp_bind_tables ?_
  cases active : m.bridge.goals.lookup key with
  | none =>
      exact ⟨.replyIgnored (entity, sequence) call, .ignored,
        Move.transition_change _ rfl ⟨found, by rw [about]; exact active⟩ rfl⟩
  | some goal =>
      refine wp_bind_update ?_
      rw [wp_bind]
      refine wp_send env fun after sent => ?_
      obtain ⟨middle, handed, rfl⟩ := Sent.commute m
        (fun b =>
          { b with
            goals := b.goals.erase key
            actionCalls := b.actionCalls.erase (entity, sequence) })
        (fun _ => rfl) (fun _ => rfl) (fun _ => rfl) (fun _ _ _ => rfl) sent
      rw [andThen_ok, wp_bind, wp_destroyAll, andThen_ok]
      obtain ⟨next, failed, tables⟩ := handed.tables
      have dropped : (middle.bridge.actionCalls.erase (entity, sequence)).retain
          (fun _ call => call.goal ≠ key) =
            middle.bridge.actionCalls.retain fun _ call => call.goal ≠ key := by
        refine AList.retain_erase fun other same => ?_
        rw [tables] at same
        cases found.symm.trans same
        simp [about]
      have taken : Transition env (.goalFinished key goal shown status success) m _ :=
        ⟨middle, handed, by rw [Move.Enabled, tables]; exact active, rfl⟩
      rw [Move.effect, ← dropped] at taken
      exact ⟨_, replies goal, taken⟩

theorem actionResponse_replied
    (found : m.bridge.actionCalls.lookup (entity, sequence) = some call) :
    wp (actionResponse env entity sequence call values)
      (Replied env (entity, sequence) values call m) m := by
  unfold actionResponse
  refine wp_bind_update ?_
  cases call with
  | send key =>
      show wp (sendResponse env key values) _ _
      unfold sendResponse
      rw [wp_ite]
      split
      · next accepts =>
          refine wp_bind_tables ?_
          cases active : m.bridge.goals.lookup key with
          | none =>
              exact ⟨.replyIgnored (entity, sequence) (.send key), .ignored,
                Move.transition_change _ rfl ⟨found, active⟩ rfl⟩
          | some goal =>
              refine wp_bind_update ?_
              refine wp_bind_call (fun cause refused => ?_) fun number _ => ?_
              · exact ⟨.goalStranded (entity, sequence) key goal cause, .stranded accepts,
                  Move.transition _ rfl ⟨found, active, refused⟩⟩
              · exact ⟨.goalAccepted (entity, sequence) key goal number, .accepted accepts,
                  Move.transition _ rfl ⟨found, active⟩⟩
      · next rejects =>
          exact finishGoal_replied found rfl fun _ => .rejected (Bool.eq_false_iff.mpr rejects)
  | result key => exact finishGoal_replied found rfl fun _ => .finished
  | cancel key =>
      show wp (cancelResponse env key values) _ _
      unfold cancelResponse
      rw [wp_ite]
      split
      · exact ⟨.cancelSettled (entity, sequence) key, .settled,
          Move.transition_change _ rfl found rfl⟩
      · refine wp_bind_tables ?_
        cases active : m.bridge.goals.lookup key with
        | none =>
            exact ⟨.replyIgnored (entity, sequence) (.cancel key), .ignored,
              Move.transition_change _ rfl ⟨found, active⟩ rfl⟩
        | some goal =>
            refine wp_bind_update ?_
            refine wp_send env fun after sent => ?_
            obtain ⟨middle, handed, rfl⟩ := Sent.commute m
              (fun b =>
                { b with
                  goals := b.goals.alter key fun goal => { goal with cancelling := false }
                  actionCalls := b.actionCalls.erase (entity, sequence) })
              (fun _ => rfl) (fun _ => rfl) (fun _ => rfl) (fun _ _ _ => rfl) sent
            obtain ⟨next, failed, tables⟩ := handed.tables
            have taken : Transition env (.cancelRejected (entity, sequence) key goal) m _ :=
              ⟨middle, handed, by rw [Move.Enabled, tables]; exact ⟨found, active⟩, rfl⟩
            have unnoted : (Move.cancelRejected (entity, sequence) key goal).entries = [] := rfl
            rw [unnoted, List.append_nil] at taken
            exact ⟨_, .refused, taken⟩

end Goals

/-! ### Events -/

/-- What one event does to the machine. -/
def EventDone (env : Environment) (origin after : Machine) : Event → Prop
  | .message _ _ => Follows (Transition env) Move.OnSample origin after
  | .response entity sequence values =>
      (∃ call shown, origin.bridge.calls.lookup (entity, sequence) = some call ∧
        visibleValues origin.bridge.access call values = some shown ∧
        Transition env (.replied (entity, sequence) call shown) origin after) ∨
      (origin.bridge.calls.lookup (entity, sequence) = none ∧
        Follows (Transition env) Move.OnReply origin after)
  | .request entity request _ => Processed env (entity, request) origin after

/-- The event carries values that cannot be filtered. -/
def Event.Hidden : Event → Prop
  | .response _ _ values => values.isObject = false
  | _ => False

theorem visibleValues_eq_none {access : Access} {call : Call}
    (hidden : visibleValues access call values = none) : values.isObject = false := by
  unfold visibleValues at hidden
  split at hidden
  · cases values with
    | obj fields =>
        simp only [filterNames] at hidden
        split at hidden <;> cases hidden
    | null => rfl
    | bool _ => rfl
    | num _ => rfl
    | str _ => rfl
    | arr _ => rfl
  · cases hidden

theorem response_spec :
    wp (response env entity sequence values)
      (fun outcome after =>
        match outcome with
        | .panic _ => values.isObject = false
        | _ => EventDone env m after (.response entity sequence values)) m := by
  unfold response
  refine wp_bind_tables ?_
  cases found : m.bridge.calls.lookup (entity, sequence) with
  | some call =>
      refine wp_mono (callResponse_spec found) ?_
      rintro (value | cause | site) after spec
      · obtain ⟨shown, visible, taken⟩ := spec
        exact .inl ⟨call, shown, found, visible, taken⟩
      · exact spec.elim
      · exact visibleValues_eq_none spec
  | none =>
      refine wp_bind_tables ?_
      cases pending : m.bridge.actionCalls.lookup (entity, sequence) with
      | none => exact .inr ⟨found, .refl m⟩
      | some call =>
          refine wp_mono (actionResponse_replied pending) ?_
          rintro (value | cause | site) after replied
          · obtain ⟨move, replies, taken⟩ := replied
            exact .inr ⟨found, .single taken replies.onReply⟩
          · obtain ⟨move, replies, taken⟩ := replied
            exact .inr ⟨found, .single taken replies.onReply⟩
          · exact replied.elim

/-- Handling an event never fails, and panics only on values that cannot be
filtered or on a time out of range. -/
theorem handleEvent_spec {event : Event} :
    wp (handleEvent env event)
      (fun outcome after =>
        match outcome with
        | .ok _ => EventDone env m after event
        | .error _ => False
        | .panic _ => event.Hidden ∨ Overflows env m.bridge.timeout m after) m := by
  cases event with
  | message entity sample =>
      show wp (attempt (topicMessage env entity sample) >>= fun _ => pure ()) _ m
      rw [wp_bind, wp_attempt]
      refine wp_mono (topicMessage_ends (.refl m)) ?_
      rintro (value | cause | site) after ends
      · exact Follows.mono ends fun _ => Move.Carries.onSample
      · exact Follows.mono ends fun _ => Move.Carries.onSample
      · exact ends.elim
  | response entity sequence values =>
      show wp (attempt (response env entity sequence values) >>= fun _ => pure ()) _ m
      rw [wp_bind, wp_attempt]
      refine wp_mono response_spec ?_
      rintro (value | cause | site) after ends
      · exact ends
      · exact ends
      · exact .inl ends
  | request entity request args =>
      refine wp_mono requestEvent_processed ?_
      rintro (value | cause | site) after ends
      · exact ends
      · exact ends
      · exact .inr ends

end Rosbridge
