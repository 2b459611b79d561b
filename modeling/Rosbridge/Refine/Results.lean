import Rosbridge.Refine.Messages

/-!
A reported result, as a whole.

Owns: `Reports`, what an `action_result` command does to the goals of action servers: at most
one goal changes, and it is completed unless a request that waits for it was refused.
-/

set_option autoImplicit false

namespace Rosbridge

open Foundation Program

variable {env : Environment} {owner : Connection} {v : Json} {m middle after : Machine}

/-- Among the entries a response is refused. -/
def Refuses (entries : History) : Prop :=
  ∃ entity request values cause, Entry.respond entity request values (.error cause) ∈ entries

/-- No goal changes; or one does, and has the reported result, unless a request was refused. -/
def Reports (v : Json) (m after : Machine) : Prop :=
  after.bridge.serverGoals = m.bridge.serverGoals ∨
    ∃ key status values, reportedResult v = .ok (status, values) ∧
      (∀ other, other ≠ key →
        after.bridge.serverGoals.lookup other = m.bridge.serverGoals.lookup other) ∧
      ((∃ added, after.log = m.log ++ added ∧ Refuses added) ∨
        ∃ goal, after.bridge.serverGoals.lookup key = some goal ∧ goal.status = status ∧
          goal.result = some values)

/-- What happens later to the rest of the bridge does not matter. -/
theorem Reports.later (reports : Reports v m middle) (grown : middle.log <+: after.log)
    (same : after.bridge.serverGoals = middle.bridge.serverGoals) : Reports v m after := by
  obtain ⟨more, grown⟩ := grown
  unfold Reports
  rw [same]
  refine reports.imp_right ?_
  rintro ⟨key, status, values, reported, others, ends⟩
  refine ⟨key, status, values, reported, others, ends.imp_left ?_⟩
  rintro ⟨added, split, entity, request, reply, cause, member⟩
  refine ⟨added ++ more, ?_, entity, request, reply, cause, List.mem_append_left _ member⟩
  rw [← grown, split, List.append_assoc]

/-- The parked requests of a goal are answered until one is refused. -/
theorem answerParked_exact {key : String} {reply : Json} {goal : ServerGoal}
    (requests : List (Entity × Nat)) :
    ∀ m : Machine, m.bridge.serverGoals.lookup key = some { goal with requests } →
      wp (answerParked env key requests reply)
        (fun outcome after => m.log <+: after.log ∧
          (∀ other, other ≠ key →
            after.bridge.serverGoals.lookup other = m.bridge.serverGoals.lookup other) ∧
          match outcome with
          | .ok _ => after.bridge.actionServers = m.bridge.actionServers ∧
              after.bridge.serverGoals.lookup key = some { goal with requests := [] }
          | .error _ => ∃ added, after.log = m.log ++ added ∧ Refuses added
          | .panic _ => False) m := by
  unfold answerParked
  induction requests using List.reverseRecOn with
  | nil => exact fun m found => ⟨List.prefix_rfl, fun _ _ => rfl, rfl, found⟩
  | append_singleton rest request inductionHypothesis =>
      intro m found
      rw [List.reverse_append, List.reverse_singleton, List.singleton_append, wp_forEach_cons,
        wp_bind]
      refine wp_call_last (fun cause _ => ?_) fun _ _ => ?_
      · exact ⟨List.prefix_append _ _, fun _ _ => rfl, _, rfl, request.1, request.2, reply, cause,
          List.mem_singleton_self _⟩
      · have dropped (other : String) := AList.lookup_alter key other
          (fun goal : ServerGoal => { goal with requests := goal.requests.dropLast })
          m.bridge.serverGoals
        have here := dropped key
        rw [if_pos rfl, found] at here
        have rests := inductionHypothesis
          { bridge := { m.bridge with serverGoals := (m.bridge.serverGoals.alter key fun goal =>
              { goal with requests := goal.requests.dropLast }) }
            log := m.log ++ [.respond request.1 request.2 reply (.ok ())] }
          (here.trans (by rw [Option.map_some, List.dropLast_concat]))
        rw [andThen_ok, wp_update, andThen_ok]
        refine wp_mono rests ?_
        rintro outcome after ⟨grown, others, ends⟩
        refine ⟨(List.prefix_append _ _).trans grown, fun other apart => (others other apart).trans
          ((dropped other).trans (if_neg apart)), ?_⟩
        cases outcome with
        | ok _ => exact ends
        | error cause =>
            obtain ⟨added, split, entity, number, values, failure, member⟩ := ends
            refine ⟨_ :: added, split.trans (List.append_assoc _ _ _), entity, number, values,
              failure, List.mem_cons_of_mem _ member⟩
        | panic site => exact ends

/-- Moves that look at something or use an entity. -/
def Move.Looking : Move → Prop
  | observed _ | used _ => True
  | _ => False

/-- Such moves leave the goals as they are. -/
theorem Follows.looks (reach : Follows (Transition env) Move.Looking m after) :
    m.log <+: after.log ∧ after.bridge.serverGoals = m.bridge.serverGoals := by
  refine ⟨reach_log_grows reach, reach.invariant
    (fun now => now.bridge.serverGoals = m.bridge.serverGoals) ?_ rfl⟩
  intro move before last pass taken same
  refine Eq.trans ?_ same
  refine taken.keeps Bridge.serverGoals (fun _ _ _ => rfl) fun b => ?_
  cases move <;> first | exact pass.elim | rfl

theorem actionResult_reports (served : m.bridge.Served) :
    wp (actionResult env owner v) (fun outcome after => ¬ outcome.IsPanic →
      m.log <+: after.log ∧ Reports v m after) m := by
  have start : m.log <+: m.log ∧ Reports v m m := ⟨List.prefix_rfl, .inl rfl⟩
  unfold actionResult
  refine wp_bind_lift (fun _ _ _ => start) fun id _ => ?_
  refine wp_bind_lift (fun _ _ _ => start) fun action _ => ?_
  refine wp_bind_tables ?_
  have none : Follows (Transition env) Move.Looking m m := .refl m
  refine wp_bind_visit env none (fun _ => trivial) fun goals m₁ listed _ same reach => ?_
  have looked : m.log <+: m₁.log ∧ m₁.bridge.serverGoals = m.bridge.serverGoals :=
    Follows.looks reach
  have later {more : History} : m.log <+: m₁.log ++ more ∧
      Reports v m { m₁ with log := m₁.log ++ more } :=
    ⟨looked.1.trans (List.prefix_append _ _), .inl looked.2⟩
  have here : m.log <+: m₁.log ∧ Reports v m m₁ := ⟨looked.1, .inl looked.2⟩
  cases chosen : ownServerGoal owner id action goals with
  | none => exact fun _ => here
  | some entry =>
      obtain ⟨key, goal⟩ := entry
      have found := (listed key goal).mp (List.mem_of_find?_eq_some chosen)
      have fits := List.find?_some chosen
      simp only [Bool.and_eq_true, decide_eq_true_eq] at fits
      refine wp_bind_ensure (fun _ _ => here) fun unfinished => ?_
      refine wp_bind_lift (fun _ _ _ => here) fun reported terminal => ?_
      obtain ⟨status, values⟩ := reported
      have servedHere : action ∈ m₁.bridge.actionServers := by
        rw [same, ← fits.2]
        exact served _ _ found
      refine wp_bind_actionServer servedHere fun server serves => ?_
      refine wp_bind_call (fun cause _ _ => later) fun _ _ => ?_
      have parked : m₁.bridge.serverGoals.lookup key = some { goal with requests := goal.requests } := by
        rw [looked.2]
        exact found
      refine wp_bind_of (answerParked_exact goal.requests _ parked) ?_ ?_ ?_
      · rintro _ m₂ ⟨grown, others, servers, emptied⟩
        rw [wp_bind]
        unfold instant
        rw [wp_ask, andThen_ok]
        refine wp_bind_update ?_
        let done : Machine :=
          { bridge := { m₂.bridge with serverGoals := (m₂.bridge.serverGoals.alter key fun goal =>
              { goal with status, result := some values, completed := some (env.instant m₂.log) }) }
            log := m₂.log ++ [.instant (env.instant m₂.log)] }
        have changed (other : String) := AList.lookup_alter key other
          (fun goal : ServerGoal =>
            { goal with status, result := some values, completed := some (env.instant m₂.log) })
          m₂.bridge.serverGoals
        have reports : m.log <+: done.log ∧ Reports v m done := by
          have completed := changed key
          rw [if_pos rfl, emptied] at completed
          refine ⟨(later.1.trans grown).trans (List.prefix_append _ _), .inr ⟨key, status, values,
            terminal, fun other apart => ?_, .inr ⟨_, completed, rfl, rfl⟩⟩⟩
          exact ((changed other).trans (if_neg apart)).trans ((others other apart).trans
            (congrArg (AList.lookup other) looked.2))
        have start : Follows (Transition env) Move.Looking done done := .refl done
        refine wp_mono (publishStatus_ends start (fun _ => trivial) (fun _ => trivial) ?_) ?_
        · show action ∈ m₂.bridge.actionServers
          rw [servers]
          exact servedHere
        rintro (value | cause | site) last ends returns
        · have still := Follows.looks ends
          exact ⟨reports.1.trans still.1, reports.2.later still.1 still.2⟩
        · have still := Follows.looks ends
          exact ⟨reports.1.trans still.1, reports.2.later still.1 still.2⟩
        · exact ends.elim
      · rintro cause m₂ ⟨grown, others, added, split, refused⟩ -
        have whole := later.1.trans grown
        refine ⟨whole, .inr ⟨key, status, values, terminal, fun other apart => ?_, .inl ?_⟩⟩
        · exact (others other apart).trans (congrArg (AList.lookup other) looked.2)
        · obtain ⟨early, first⟩ := (show m.log <+: _ from later.1)
          obtain ⟨entity, request, reply, failure, member⟩ := refused
          refine ⟨early ++ added, split.trans ?_, entity, request, reply, failure,
            List.mem_append_right _ member⟩
          rw [← List.append_assoc, first]
      · exact fun site m₂ ends => ends.2.2.elim

/-- What a reported result does to the goals. -/
theorem reported_next {fields : Object} (served : m.bridge.Served)
    (named : required (.obj fields) "op" = .ok "action_result")
    (returns : ¬ (perform env (.command owner fields) m).1.IsPanic) :
    Reports (.obj fields) m (m.next env (.command owner fields)) := by
  let settled (outcome : Outcome Error Unit) (after : Machine) : Prop :=
    ¬ outcome.IsPanic → Reports (.obj fields) m after
  have refuses {before : Machine} (cause : Error) (reports : Reports (.obj fields) m before) :
      wp (error env owner (.obj fields) cause) settled before := by
    refine wp_send env fun after sent _ => ?_
    obtain ⟨next, failed, tables⟩ := sent.tables
    exact reports.later sent.log_grows (by rw [tables])
  have spec : wp (command env owner (.obj fields)) settled m := by
    by_cases connected : owner ∈ m.bridge.outputs
    · refine wp_command_connected connected (wp_execute named (fun cause _ =>
        refuses cause (.inl rfl)) fun _ _ _ => ?_)
      refine wp_mono (actionResult_reports served) ?_
      rintro (value | cause | site) after reports
      · exact fun _ => (reports nofun).2
      · exact refuses cause (reports nofun).2
      · exact fun panics => absurd trivial panics
    · unfold command
      refine wp_bind_tables ?_
      rw [wp_ite, if_neg connected]
      exact fun _ => .inl rfl
  exact spec returns

end Rosbridge
