import Rosbridge.Refine.Results
import Rosbridge.Properties.ServerGoals

/-!
The results that clients of a goal are given, over whole runs.

Owns: `Gives`, the runs with the answers to requests for results; that all answers for one
goal agree while no reported result is torn; and the run in which they do not.
-/

set_option autoImplicit false

namespace Rosbridge

open Foundation Program

/-! ### Answers to requests for results -/

/-- The identifier of a goal with the reply to a request for its result. -/
abbrev ResultGiven : Type := String × Json

variable {env : Environment} {results : List ResultGiven} {m before after : Machine}
  {base : History} {labels : List (Cause × Move)}

/-- The answer of a move to a request for the result of a goal that is kept: a reported result
goes to a request that waited, or the result of a finished goal is repeated. -/
def Move.resultGiven? : Move → Option ResultGiven
  | parkedAnswered _ goal _ values => some (goal.id, values)
  | resultRepeated _ goal stored _ _ => some (goal.id, resultReply goal.status stored)
  | _ => none

/-- The answers of some moves, in order. -/
def resultsGiven (labels : List (Cause × Move)) : List ResultGiven :=
  labels.filterMap fun label => label.2.resultGiven?

theorem resultsGiven_append (first rest : List (Cause × Move)) :
    resultsGiven (first ++ rest) = resultsGiven first ++ resultsGiven rest :=
  List.filterMap_append

/-- A request for the result of a goal that is kept gets the stored result, or waits for it. -/
theorem resultRequest_kept {action uuid : String} {entity : Entity} {request : Nat} {args : Json}
    {goal : ServerGoal} (keyed : uuidKey env (args.index "goal_id") = .ok uuid)
    (kept : m.bridge.serverGoals.lookup (serverGoalKey action uuid) = some goal) :
    wp (resultRequest env action entity request args) (fun _ after =>
      (∃ stored reply, goal.result = some stored ∧ after.bridge = m.bridge ∧
        after.log = m.log ++ [.respond entity request (resultReply goal.status stored) reply]) ∨
      (goal.result = none ∧ after.log = m.log)) m := by
  unfold resultRequest
  refine wp_bind_lift (fun cause failed => by rw [keyed] at failed; cases failed) fun uuid' same => ?_
  cases keyed.symm.trans same
  refine wp_bind_tables ?_
  rw [kept]
  cases finished : goal.result with
  | some values =>
      simp only [finished]
      exact wp_call_last (fun cause _ => .inl ⟨values, _, rfl, rfl, rfl⟩)
        fun value _ => .inl ⟨values, _, rfl, rfl, rfl⟩
  | none =>
      simp only [finished]
      exact .inr ⟨trivial, rfl⟩

/-- A run whose operations pass the test, with the answers to requests for results. Each
operation is read as a run of the moves it causes. -/
inductive Gives (env : Environment) (passes : Operation → Machine → Prop) (start : Machine) :
    List ResultGiven → Machine → Prop where
  | here : Gives env passes start [] start
  | step {results : List ResultGiven} {m : Machine} {labels : List (Cause × Move)}
      (before : Gives env passes start results m) (op : Operation)
      (returns : ¬ (perform env op m).1.IsPanic) (passed : passes op m)
      (run : Trail (Caused env m.log) labels m (m.next env op))
      (within : ∀ label ∈ labels, label.1.Within op) :
      Gives env passes start (results ++ resultsGiven labels) (m.next env op)

/-- Among the entries a response is accepted. -/
def Accepted (entries : History) : Prop :=
  ∃ entity request values, Entry.respond entity request values (.ok ()) ∈ entries

/-- A reported result reaches one of the requests that wait for it and is refused by another. -/
def Torn (env : Environment) (op : Operation) (m : Machine) : Prop :=
  ∃ owner fields, op = .command owner fields ∧
    required (.obj fields) "op" = .ok "action_result" ∧
    ∃ added, (m.next env op).log = m.log ++ added ∧ Accepted added ∧ Refuses added

/-! ### Agreement -/

/-- The answers for each goal agree with each other, and with the result of the goal. -/
structure Agreed (results : List ResultGiven) (b : Bridge) : Prop where
  numbered : ∀ result ∈ results, ∃ number, number ≤ b.next ∧ result.1 = goalId number
  kept : ∀ result ∈ results, ∀ key goal, b.serverGoals.lookup key = some goal →
    goal.id = result.1 → ∃ values, goal.result = some values ∧
      result.2 = resultReply goal.status values
  agree : ∀ result ∈ results, ∀ other ∈ results, result.1 = other.1 → result.2 = other.2

theorem Agreed.none (b : Bridge) : Agreed [] b := ⟨nofun, nofun, nofun⟩

/-- The goals continue themselves. -/
theorem GoalsContinue.same (b : Bridge) : GoalsContinue b b :=
  ⟨le_rfl, fun _ goal found => .inl ⟨goal, found, rfl, .refl goal⟩⟩

/-- No move changes the result of a goal for which an answer was given. -/
theorem Transition.agreed {move : Move} (taken : Transition env move before after)
    (sound : GoalsSound env before.bridge) (agreed : Agreed results before.bridge) :
    Agreed results after.bridge := by
  obtain ⟨middle, sent, enabled, rfl⟩ := taken
  have sound := sent.goalsSound sound
  have grown := sent.next_le
  obtain ⟨next, failed, tables⟩ := sent.tables
  have goals : middle.bridge.serverGoals = before.bridge.serverGoals := by rw [tables]
  have later := grown.trans (move.next_le middle.bridge)
  refine ⟨fun result member => ?_, fun result member key goal found same => ?_, agreed.agree⟩
  · obtain ⟨number, within, is⟩ := agreed.numbered result member
    exact ⟨number, within.trans later, is⟩
  · rcases Move.serverGoal_history enabled found with ⟨entity, request, rfl⟩ | ⟨old, present, alters⟩
    · obtain ⟨-, -, -, -, -, -, -, -, -, -, admitted⟩ := enabled
      obtain ⟨number, within, is⟩ := agreed.numbered result member
      have equal : goalId (middle.bridge.next + 1) = goalId number :=
        admitted.symm.trans (same.trans is)
      have numbers := goalId_injective equal
      omega
    · have progress := (alters.progress (sound.phased key old present)).1
      rw [goals] at present
      obtain ⟨values, finished, reply⟩ := agreed.kept result member key old present
        (alters.same.2.2.1.symm.trans same)
      rcases progress with ⟨status, kept⟩ | ⟨unfinished, -⟩
      · exact ⟨values, kept.trans finished, by rw [status]; exact reply⟩
      · cases finished.symm.trans unfinished

theorem Follows.agreed {passes : Move → Prop} (run : Follows (Transition env) passes before after)
    (sound : GoalsSound env before.bridge) (agreed : Agreed results before.bridge) :
    Agreed results after.bridge := by
  refine (run.invariant (fun m => (GoalsSound env m.bridge ∧ GoalsContinue m.bridge m.bridge) ∧
    Agreed results m.bridge) ?_ ?_).2
  · rintro move before after - taken ⟨held, agreed⟩
    have later := (taken.goalsContinue held).1
    exact ⟨⟨later, .same _⟩, taken.agreed held.1 agreed⟩
  · exact ⟨⟨sound, .same _⟩, agreed⟩

/-- The result of a goal is given once more. -/
theorem Agreed.repeated {key : String} {goal : ServerGoal} {stored : Json}
    (agreed : Agreed results m.bridge) (sound : GoalsSound env m.bridge)
    (found : m.bridge.serverGoals.lookup key = some goal) (finished : goal.result = some stored) :
    Agreed (results ++ [(goal.id, resultReply goal.status stored)]) m.bridge := by
  have old {result : ResultGiven} (member : result ∈ results) (same : goal.id = result.1) :
      result.2 = resultReply goal.status stored := by
    obtain ⟨values, kept, reply⟩ := agreed.kept result member key goal found same
    rw [finished] at kept
    cases kept
    exact reply
  refine ⟨fun result member => ?_, fun result member other held there same => ?_,
    fun result member other member' same => ?_⟩
  · rcases List.mem_append.mp member with before | now
    · exact agreed.numbered result before
    · cases List.mem_singleton.mp now
      exact sound.numbered key goal found
  · rcases List.mem_append.mp member with before | now
    · exact agreed.kept result before other held there same
    · cases List.mem_singleton.mp now
      obtain rfl := sound.distinct other key held goal there found same
      cases found.symm.trans there
      exact ⟨stored, finished, rfl⟩
  · rcases List.mem_append.mp member with before | now <;>
      rcases List.mem_append.mp member' with before' | now'
    · exact agreed.agree result before other before' same
    · cases List.mem_singleton.mp now'
      exact old before same.symm
    · cases List.mem_singleton.mp now
      exact (old before' same).symm
    · rw [List.mem_singleton.mp now, List.mem_singleton.mp now']

/-- Moves of which none reports a result keep the answers in agreement. -/
theorem Agreed.silent (run : Trail (Caused env base) labels m after)
    (silent : ∀ label ∈ labels, ∀ key goal request values,
      label.2 ≠ .parkedAnswered key goal request values)
    (sound : GoalsSound env m.bridge) (agreed : Agreed results m.bridge) :
    Agreed (results ++ resultsGiven labels) after.bridge := by
  induction run generalizing results with
  | nil => exact (List.append_nil results).symm ▸ agreed
  | @cons label labels before middle last caused rest inductionHypothesis =>
      have later := caused.taken.agreed sound agreed
      have sound' : GoalsSound env middle.bridge :=
        (caused.taken.goalsContinue ⟨sound, .same _⟩).1
      have here : Agreed (results ++ resultsGiven [label]) middle.bridge := by
        obtain ⟨cause, move⟩ := label
        cases move
        case resultRepeated key goal stored entity request =>
          obtain ⟨between, sent, ⟨found, finished, -⟩, rfl⟩ := caused.taken
          exact later.repeated sound' found finished
        case parkedAnswered key goal request values =>
          exact absurd rfl (silent _ List.mem_cons_self key goal request values)
        all_goals exact (List.append_nil results).symm ▸ later
      have whole := inductionHypothesis (fun label member => silent label
        (List.mem_cons_of_mem _ member)) sound' here
      rwa [List.append_assoc, ← resultsGiven_append, List.singleton_append] at whole

/-! ### A reported result -/

/-- The reply to requests for the results of goals that are cancelled with their server. -/
abbrev cancelledReply : Json := resultReply 6 (.obj [])

/-- Between `m` and `now` an `action_result` command gave the answers `done`. -/
structure Reporting (v : Json) (m : Machine) (done : List ResultGiven) (now : Machine) : Prop where
  replies : ∀ result ∈ done, ∃ status values, reportedResult v = .ok (status, values) ∧
    result.2 = resultReply status values
  answered : ∀ result ∈ done, ∃ key first, m.bridge.serverGoals.lookup key = some first ∧
    first.id = result.1 ∧ first.result = none ∧ ∀ goal, now.bridge.serverGoals.lookup key = some goal →
      goal.result ≠ none ∨ goal.requests.length < first.requests.length
  goals : ∀ key goal, now.bridge.serverGoals.lookup key = some goal →
    ∃ first, m.bridge.serverGoals.lookup key = some first ∧ goal.id = first.id ∧
      goal.requests.length ≤ first.requests.length ∧ (goal.result = none → first.result = none)
  logged : ∃ added, now.log = m.log ++ added ∧ (done ≠ [] → Accepted added) ∧
    ∀ entity request values, .respond entity request values (.ok ()) ∈ added →
      values = cancelledReply ∨ ∃ result ∈ done, result.2 = values

/-- Moves that an `action_result` command may take. -/
def Move.ReportsBy (owner : Connection) (v : Json) (move : Move) : Prop :=
  move.Beside owner ∨ (∃ cause, move = .refused owner v cause) ∨ move.Completes owner v

theorem Move.Under.reports {owner : Connection} {v : Json} {move : Move}
    (under : move.Under owner v) (named : required v "op" = .ok "action_result") :
    move.ReportsBy owner v := by
  rcases under with beside | refused | ⟨other | other, -⟩ | ⟨other, -⟩ | ⟨-, completes⟩
  · exact .inl beside
  · exact .inr (.inl refused)
  all_goals first | exact .inr (.inr completes) | exact absurd (named.symm.trans other) (by decide)

/-- Under such a command a response is accepted only for the reported result, or for goals that
are cancelled with their server. -/
theorem Move.ReportsBy.accepted {owner : Connection} {v : Json} {move : Move}
    (pass : move.ReportsBy owner v) (enabled : move.Enabled env m) {entity : Entity}
    {request : Nat} {values : Json} (member : .respond entity request values (.ok ()) ∈ move.entries) :
    values = cancelledReply ∨ ∃ result, move.resultGiven? = some result ∧ result.2 = values := by
  have destroyed {entities : List Entity}
      (member : .respond entity request values (.ok ()) ∈ entities.map Entry.destroy) : False := by
    obtain ⟨_, -, ⟨⟩⟩ := List.mem_map.mp member
  cases move
  case observed entries => exact (enabled _ member).elim
  case aborted creations refusal =>
    rcases List.mem_append.mp member with before | gone
    · rcases List.mem_append.mp before with made | refused
      · rcases enabled.1 _ made with inert | vain | created
        · exact inert.elim
        · exact vain.elim
        · cases created
      · obtain ⟨pair, -, ⟨⟩⟩ := List.mem_map.mp refused
    · exact (destroyed gone).elim
  case used entry =>
    obtain rfl := List.mem_singleton.mp member
    cases enabled
  case actionRemoved action server closed replies =>
    rcases List.mem_append.mp member with answered | gone
    · obtain ⟨reply, -, same⟩ := List.mem_map.mp answered
      injection same with _ _ shown
      exact .inl shown.symm
    · exact (destroyed gone).elim
  case parkedAnswered key goal request' values' =>
    cases List.mem_singleton.mp member
    exact .inr ⟨_, rfl, rfl⟩
  case resultRepeated => rcases pass with pass | ⟨cause, pass⟩ | pass <;> cases pass
  case goalFinished => exact (destroyed member).elim
  case answered => rcases pass with pass | ⟨cause, pass⟩ | pass <;> cases pass
  case goalAdmitted => rcases pass with pass | ⟨cause, pass⟩ | pass <;> cases pass
  case requestAnswered => rcases pass with pass | ⟨cause, pass⟩ | pass <;> cases pass
  all_goals simp [Move.entries] at member

section Reported

variable {owner : Connection} {v : Json} {move : Move} {done : List ResultGiven}
  {now : Machine}

theorem Reporting.none (v : Json) (m : Machine) : Reporting v m [] m :=
  ⟨nofun, nofun, fun _ goal found => ⟨goal, found, rfl, le_rfl, id⟩, [], (List.append_nil _).symm,
    fun given => absurd rfl given, nofun⟩

/-- What such a move does to a goal. It admits none. -/
theorem Move.ReportsBy.goal (pass : move.ReportsBy owner v) (enabled : move.Enabled env m)
    {key : String} {goal : ServerGoal}
    (found : (move.effect m.bridge).serverGoals.lookup key = some goal) :
    ∃ old, m.bridge.serverGoals.lookup key = some old ∧ goal.id = old.id ∧
      goal.requests.length ≤ old.requests.length ∧ (goal.result = none → old.result = none) := by
  rcases Move.serverGoal_history enabled found with ⟨entity, request, rfl⟩ | ⟨old, present, alters⟩
  · rcases pass with pass | ⟨cause, pass⟩ | pass <;> cases pass
  · refine ⟨old, present, alters.same.2.2.1, ?_⟩
    cases alters with
    | kept => exact ⟨le_rfl, id⟩
    | marked => exact ⟨le_rfl, id⟩
    | parked is =>
        subst is
        rcases pass with pass | ⟨cause, pass⟩ | pass <;> cases pass
    | answered => exact ⟨by rw [List.length_dropLast]; omega, id⟩
    | completed _ _ unfinished => exact ⟨le_rfl, fun _ => unfinished⟩

/-- One move of a reported result. -/
theorem Reporting.step (reporting : Reporting v m done before) (pass : move.ReportsBy owner v)
    (taken : Transition env move before after) (delivered : ResultsDelivered before.bridge) :
    Reporting v m (done ++ move.resultGiven?.toList) after := by
  obtain ⟨said, adds, loud⟩ := taken.adds
  obtain ⟨middle, sent, enabled, rfl⟩ := taken
  obtain ⟨next, failed, tables⟩ := sent.tables
  have goals : middle.bridge.serverGoals = before.bridge.serverGoals := by rw [tables]
  obtain ⟨added, split, accepts, shown⟩ := reporting.logged
  -- A goal from which a request was taken stays short of it or is completed.
  have short {key : String} {count : Nat}
      (bound : ∀ old, before.bridge.serverGoals.lookup key = some old →
        old.result ≠ Option.none ∨ old.requests.length < count) (goal : ServerGoal)
      (found : (move.effect middle.bridge).serverGoals.lookup key = some goal) :
      goal.result ≠ Option.none ∨ goal.requests.length < count := by
    obtain ⟨old, present, -, fewer, finished⟩ := pass.goal enabled found
    rw [goals] at present
    rcases bound old present with ends | less
    · exact .inl fun unfinished => ends (finished unfinished)
    · exact .inr (fewer.trans_lt less)
  have given {result : ResultGiven} (is : move.resultGiven? = some result) :
      ∃ key goal request, move = .parkedAnswered key goal request result.2 ∧ goal.id = result.1 ∧
        before.bridge.serverGoals.lookup key = some goal ∧
        goal.requests.getLast? = some request ∧ move.Completes owner v := by
    cases move with
    | parkedAnswered key goal request values =>
        cases is
        refine ⟨key, goal, request, rfl, rfl, by rw [← goals]; exact enabled.1, enabled.2, ?_⟩
        rcases pass with pass | ⟨cause, pass⟩ | pass
        · exact pass.elim
        · cases pass
        · exact pass
    | resultRepeated => rcases pass with pass | ⟨cause, pass⟩ | pass <;> cases pass
    | _ => cases is
  refine ⟨fun result member => ?_, fun result member => ?_, fun key goal found => ?_,
    added ++ (said ++ move.entries), by rw [adds, split, List.append_assoc], fun nonempty => ?_,
    fun entity request values member => ?_⟩
  · rcases List.mem_append.mp member with old | new
    · exact reporting.replies result old
    · obtain ⟨key, goal, request, rfl, -, -, -, -, status, values, reported, same⟩ :=
        given (Option.mem_toList.mp new)
      exact ⟨status, values, reported, same⟩
  · rcases List.mem_append.mp member with old | new
    · obtain ⟨key, first, present, same, unfinished, bound⟩ := reporting.answered result old
      exact ⟨key, first, present, same, unfinished, short bound⟩
    · obtain ⟨key, goal, request, is, same, found, last, -⟩ := given (Option.mem_toList.mp new)
      obtain ⟨first, present, id, fewer, finished⟩ := reporting.goals key goal found
      have waiting : goal.requests ≠ [] := by
        intro empty
        rw [empty] at last
        cases last
      have unfinished : goal.result = Option.none := by
        by_contra ended
        exact waiting ((delivered key goal found).2 ended)
      refine ⟨key, first, present, id.symm.trans same, finished unfinished, fun left here => ?_⟩
      subst is
      refine .inr (lt_of_lt_of_le ?_ fewer)
      have shorter := (AList.lookup_alter key key _ _).symm.trans here
      rw [if_pos rfl, goals, found] at shorter
      cases shorter
      have positive := List.length_pos_of_ne_nil waiting
      rw [List.length_dropLast]
      omega
  · obtain ⟨old, present, id, fewer, finished⟩ := pass.goal enabled found
    rw [goals] at present
    obtain ⟨first, present', id', fewer', finished'⟩ := reporting.goals key old present
    exact ⟨first, present', id.trans id', fewer.trans fewer', fun ends => finished' (finished ends)⟩
  · cases is : move.resultGiven? with
    | none =>
        rw [is, Option.toList_none, List.append_nil] at nonempty
        obtain ⟨entity, request, values, member⟩ := accepts nonempty
        exact ⟨entity, request, values, List.mem_append_left _ member⟩
    | some result =>
        obtain ⟨key, goal, request, rfl, -⟩ := given is
        exact ⟨request.1, request.2, result.2, List.mem_append_right _
          (List.mem_append_right _ (List.mem_singleton_self _))⟩
  · rcases List.mem_append.mp member with old | new
    · refine (shown entity request values old).imp_right ?_
      rintro ⟨result, before, same⟩
      exact ⟨result, List.mem_append_left _ before, same⟩
    · rcases List.mem_append.mp new with quiet | entry
      · exact absurd trivial (loud _ quiet)
      · refine (pass.accepted enabled entry).imp_right ?_
        rintro ⟨result, is, same⟩
        exact ⟨result, List.mem_append_right _ (Option.mem_toList.mpr is), same⟩

/-- The moves of a reported result. -/
theorem Reporting.run (run : Trail (Caused env base) labels before after)
    (within : ∀ label ∈ labels, label.2.ReportsBy owner v) (shaped : Shaped before)
    (reporting : Reporting v m done before) :
    Reporting v m (done ++ resultsGiven labels) after := by
  induction run generalizing done with
  | nil => exact (List.append_nil done).symm ▸ reporting
  | @cons label labels before middle last caused rest inductionHypothesis =>
      have step := reporting.step (within label List.mem_cons_self) caused.taken shaped.delivered
      have whole := inductionHypothesis (fun label member => within label
        (List.mem_cons_of_mem _ member)) (caused.taken.shaped shaped) step
      have gives : resultsGiven (label :: labels) =
          label.2.resultGiven?.toList ++ resultsGiven labels := by
        unfold resultsGiven
        rw [List.filterMap_cons]
        cases label.2.resultGiven? <;> rfl
      rwa [List.append_assoc, ← gives] at whole

/-- Unless the reported result is torn, its answers are the result of the goal. -/
theorem Reporting.completed (reporting : Reporting v m done now) (reports : Reports v m now)
    (whole : ∀ added, now.log = m.log ++ added → ¬ (Accepted added ∧ Refuses added))
    {result : ResultGiven} (member : result ∈ done) :
    ∃ key first goal values, m.bridge.serverGoals.lookup key = some first ∧ first.id = result.1 ∧
      first.result = Option.none ∧ now.bridge.serverGoals.lookup key = some goal ∧
      goal.id = result.1 ∧ goal.result = some values ∧
      result.2 = resultReply goal.status values := by
  obtain ⟨key, first, present, same, unfinished, bound⟩ := reporting.answered result member
  have changed : now.bridge.serverGoals.lookup key ≠ m.bridge.serverGoals.lookup key := by
    intro still
    rcases bound first (still.trans present) with ended | less
    · exact ended unfinished
    · exact lt_irrefl _ less
  rcases reports with still | ⟨key', status, values, reported, others, torn | ⟨goal, found, is, result'⟩⟩
  · exact absurd (by rw [still]) changed
  · obtain ⟨added, split, refuses⟩ := torn
    obtain ⟨_, split', accepts, -⟩ := reporting.logged
    cases List.append_cancel_left (split.symm.trans split')
    exact absurd ⟨accepts (List.ne_nil_of_mem member), refuses⟩ (whole added split)
  · have here : key = key' := by
      by_contra apart
      exact changed (others key apart)
    subst here
    obtain ⟨first', present', id, -⟩ := reporting.goals key goal found
    cases present.symm.trans present'
    obtain ⟨status', values', reported', reply⟩ := reporting.replies result member
    cases reported.symm.trans reported'
    exact ⟨key, first, goal, values, present, same, unfinished, found, id.trans same, result',
      by rw [is]; exact reply⟩

/-- Unless a reported result is torn, its answers agree with the earlier ones. -/
theorem Reporting.agreed (reporting : Reporting v m done now) (reports : Reports v m now)
    (whole : ∀ added, now.log = m.log ++ added → ¬ (Accepted added ∧ Refuses added))
    (sound : GoalsSound env m.bridge) (sound' : GoalsSound env now.bridge)
    (grown : m.bridge.next ≤ now.bridge.next) (earlier : Agreed results m.bridge)
    (agreed : Agreed results now.bridge) : Agreed (results ++ done) now.bridge := by
  have apart {old new : ResultGiven} (before : old ∈ results) (member : new ∈ done) :
      old.1 ≠ new.1 := by
    intro same
    obtain ⟨key, first, goal, values, present, id, unfinished, -⟩ :=
      reporting.completed reports whole member
    obtain ⟨values', finished, -⟩ := earlier.kept old before key first present (id.trans same.symm)
    cases unfinished.symm.trans finished
  have kept {new : ResultGiven} (member : new ∈ done) {key : String} {goal : ServerGoal}
      (found : now.bridge.serverGoals.lookup key = some goal) (same : goal.id = new.1) :
      ∃ values, goal.result = some values ∧ new.2 = resultReply goal.status values := by
    obtain ⟨key', -, goal', values, -, -, -, found', id, finished, reply⟩ :=
      reporting.completed reports whole member
    obtain rfl := sound'.distinct key key' goal goal' found found' (same.trans id.symm)
    cases found.symm.trans found'
    exact ⟨values, finished, reply⟩
  refine ⟨fun result member => ?_, fun result member key goal found same => ?_,
    fun result member other member' same => ?_⟩
  · rcases List.mem_append.mp member with before | now
    · exact agreed.numbered result before
    · obtain ⟨key, first, -, -, present, id, -⟩ := reporting.completed reports whole now
      obtain ⟨number, within, is⟩ := sound.numbered key first present
      exact ⟨number, within.trans grown, id.symm.trans is⟩
  · rcases List.mem_append.mp member with before | now
    · exact agreed.kept result before key goal found same
    · exact kept now found same
  · rcases List.mem_append.mp member with before | now <;>
      rcases List.mem_append.mp member' with before' | now'
    · exact agreed.agree result before other before' same
    · exact absurd same (apart before now')
    · exact absurd same.symm (apart before' now)
    · obtain ⟨key, -, goal, values, -, -, -, found, id, finished, reply⟩ :=
        reporting.completed reports whole now
      obtain ⟨values', finished', reply'⟩ := kept now' found (id.trans same)
      cases finished.symm.trans finished'
      exact reply.trans reply'.symm

end Reported

/-! ### Every run -/

theorem Gives.onward {passes : Operation → Machine → Prop} {start : Machine}
    (gives : Gives env passes start results m) : Onward env passes start m := by
  induction gives with
  | here => exact .here
  | step before op returns passed run within inductionHypothesis =>
      exact .step op inductionHypothesis returns passed

/-- Every run gives answers. -/
theorem Onward.gives {passes : Operation → Machine → Prop} {start : Machine}
    (reached : Onward env passes start m) (shaped : Shaped start) :
    ∃ results, Gives env passes start results m := by
  induction reached with
  | here => exact ⟨[], .here⟩
  | step op before returns passed inductionHypothesis =>
      obtain ⟨results, gives⟩ := inductionHypothesis
      obtain ⟨labels, run, within⟩ := operation_caused op (before.shaped shaped) returns
      exact ⟨_, .step gives op returns passed run within⟩

/-- Only a reported result is given to requests that wait. -/
theorem Cause.Allows.answers_parked {cause : Cause} {key : String} {goal : ServerGoal}
    {request : Entity × Nat} {values : Json}
    (allowed : cause.Allows m (.parkedAnswered key goal request values)) :
    ∃ owner v, cause = .command owner v ∧ required v "op" = .ok "action_result" := by
  cases cause with
  | connect connection => cases allowed
  | command owner v =>
      rcases allowed with beside | ⟨cause, ⟨⟩⟩ | ⟨-, pass⟩ | ⟨-, pass⟩ | ⟨named, -⟩
      · exact beside.elim
      · exact pass.elim
      · exact pass.elim
      · exact ⟨owner, v, rfl, named⟩
  | poll =>
      rcases allowed with reading | ⟨events, ⟨⟩⟩
      exact reading.elim
  | event event =>
      cases event with
      | message entity sample => exact allowed.elim
      | response entity sequence values =>
          rcases allowed with ⟨call, shown, -, -, ⟨⟩⟩ | ⟨call, -, replies⟩
          cases replies
      | request entity number args =>
          rcases allowed with unsettling | ⟨⟨⟩⟩ | ⟨⟨⟩⟩
          exact unsettling.elim
  | time now => exact allowed.elim
  | upkeep =>
      rcases allowed with reading | ⟨⟨⟩⟩ | ⟨readings, ⟨⟩⟩
      exact reading.elim
  | disconnect other =>
      rcases allowed with ⟨⟨⟩⟩ | pass | pass | pass | pass | pass | pass | ⟨⟨⟩⟩
      all_goals exact pass.elim

theorem pass_reports {owner : Connection} {fields : Object}
    (run : Trail (Caused env base) labels before after)
    (within : ∀ label ∈ labels, label.1.Within (.command owner fields))
    (named : required (.obj fields) "op" = .ok "action_result") :
    ∀ label ∈ labels, label.2.ReportsBy owner (.obj fields) := by
  rintro ⟨cause, move⟩ member
  obtain ⟨before, after, caused⟩ := run.taken member
  have allowed := caused.allowed
  cases within _ member
  exact allowed.reports named

/-- The moves of one operation, of which none tears a result. -/
theorem Caused.agreed {op : Operation} (run : Trail (Caused env m.log) labels m (m.next env op))
    (within : ∀ label ∈ labels, label.1.Within op) (whole : ¬ Torn env op m) (shaped : Shaped m)
    (returns : ¬ (perform env op m).1.IsPanic) (sound : GoalsSound env m.bridge)
    (agreed : Agreed results m.bridge) :
    Agreed (results ++ resultsGiven labels) (m.next env op).bridge := by
  have performed := performed_next op shaped returns
  obtain ⟨sound', continues⟩ := performed.goalsContinue sound
  by_cases reported : ∃ owner fields, op = .command owner fields ∧
      required (.obj fields) "op" = .ok "action_result"
  · obtain ⟨owner, fields, rfl, named⟩ := reported
    have reporting := Reporting.run run (pass_reports run within named) shaped (.none _ m)
    have reports := reported_next shaped.serves named returns
    have later := Follows.agreed performed.follows sound agreed
    rw [List.nil_append] at reporting
    exact reporting.agreed reports (fun added split both => whole ⟨owner, fields, rfl, named, added,
      split, both⟩) sound sound' continues.next agreed later
  · refine Agreed.silent run (fun label member key goal request values same => reported ?_) sound
      agreed
    obtain ⟨cause, move⟩ := label
    obtain ⟨before, after, caused⟩ := run.taken member
    have allowed := caused.allowed
    cases same
    obtain ⟨owner, v, rfl, named⟩ := allowed.answers_parked
    cases op with
    | command other fields =>
        cases within _ member
        exact ⟨owner, fields, rfl, named⟩
    | connect _ => cases within _ member
    | tick => exact (within _ member).elim
    | disconnect _ => cases within _ member
    | shutdown => obtain ⟨⟨⟩⟩ | ⟨_, ⟨⟩⟩ := within _ member

/-- The operations of a run keep the answers in agreement unless a reported result is torn. -/
theorem Gives.agreed {access : Access} {timeout : Duration}
    (gives : Gives env (fun op m => ¬ Torn env op m) (Machine.new access timeout) results m) :
    Agreed results m.bridge ∧ GoalsSound env m.bridge := by
  induction gives with
  | here => exact ⟨.none _, ⟨nofun, nofun, nofun, nofun⟩⟩
  | @step results m labels before op returns whole run within inductionHypothesis =>
      obtain ⟨agreed, sound⟩ := inductionHypothesis
      have shaped := before.onward.shaped (shaped_new access timeout)
      exact ⟨Caused.agreed run within whole shaped returns sound agreed,
        ((performed_next op shaped returns).goalsContinue sound).1⟩

/-- An `action_result` command gives the answers that the history says it gave. -/
theorem Gives.reported {passes : Operation → Machine → Prop} {start : Machine}
    {owner : Connection} {fields : Object} (gives : Gives env passes start results m)
    (shaped : Shaped start) (named : required (.obj fields) "op" = .ok "action_result")
    (returns : ¬ (perform env (.command owner fields) m).1.IsPanic)
    (passed : passes (.command owner fields) m) :
    ∃ more, Gives env passes start (results ++ more) (m.next env (.command owner fields)) ∧
      ∀ entity request values, .respond entity request values (.ok ()) ∈
          (m.next env (.command owner fields)).log.drop m.log.length → values ≠ cancelledReply →
        ∃ result ∈ more, result.2 = values ∧
          ∃ key goal, m.bridge.serverGoals.lookup key = some goal ∧ goal.id = result.1 := by
  have shaped' := gives.onward.shaped shaped
  obtain ⟨labels, run, within⟩ := operation_caused (.command owner fields) shaped' returns
  refine ⟨resultsGiven labels, .step gives _ returns passed run within,
    fun entity request values member other => ?_⟩
  have reporting := Reporting.run run (pass_reports run within named) shaped' (.none _ m)
  obtain ⟨added, split, -, shown⟩ := reporting.logged
  rw [split, List.drop_left] at member
  obtain ⟨result, given, same⟩ := (shown entity request values member).resolve_left other
  obtain ⟨key, goal, found, id, -⟩ := reporting.answered result given
  exact ⟨result, given, same, key, goal, found, id⟩

def Entry.refuses : Entry → Bool
  | .respond _ _ _ (.error _) => true
  | _ => false

/-- Nothing is torn where no response is refused. -/
theorem Torn.refuses {op : Operation} (torn : Torn env op m) :
    ((m.next env op).log.drop m.log.length).any Entry.refuses = true := by
  obtain ⟨-, -, -, -, added, split, -, entity, request, values, cause, member⟩ := torn
  rw [split, List.drop_left]
  exact List.any_eq_true.mpr ⟨_, member, rfl⟩

end Rosbridge
