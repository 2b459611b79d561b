import Rosbridge.Refine.Run
import Rosbridge.Properties.Lifecycle

/-!
Goals of action servers over whole runs.

Owns: `ServerGoal.Phased`, the phases of a goal; that goals have distinct identifiers
and are filed under their own; and that a goal only moves forward.
-/

set_option autoImplicit false

namespace Rosbridge

open Foundation

/-- A goal is under way, or it is finished and nothing waits for it. -/
def ServerGoal.Phased (goal : ServerGoal) : Prop :=
  ((goal.status = 2 ∨ goal.status = 3) ∧ goal.result = none ∧ goal.completed = none) ∨
    ((goal.status = 4 ∨ goal.status = 5 ∨ goal.status = 6) ∧ goal.result ≠ none ∧
      goal.completed ≠ none ∧ goal.requests = [])

/-- How a goal may change: it keeps its status and its result, or it was under way and
is marked as cancelling or finished. -/
def ServerGoal.Progress (old new : ServerGoal) : Prop :=
  (new.status = old.status ∧ new.result = old.result) ∨
    (old.result = none ∧ (old.status = 2 ∨ old.status = 3) ∧
      ((new.status = 3 ∧ new.result = none) ∨
        ((new.status = 4 ∨ new.status = 5 ∨ new.status = 6) ∧ new.result ≠ none)))

/-- The identifier drawn from the counter at `number`. -/
def goalId (number : Nat) : String := "rosbridge:" ++ toString number

theorem goalId_injective {left right : Nat} (same : goalId left = goalId right) : left = right :=
  toString_injective ((String.append_right_inj _).mp same)

/-- The goals of action servers are filed under their own identifiers, in a phase, and
numbered. -/
structure GoalsSound (env : Environment) (b : Bridge) : Prop where
  keyed : ∀ key goal, b.serverGoals.lookup key = some goal →
    ∃ uuid, uuidKey env goal.uuid = .ok uuid ∧ key = serverGoalKey goal.action uuid
  phased : ∀ key goal, b.serverGoals.lookup key = some goal → goal.Phased
  numbered : ∀ key goal, b.serverGoals.lookup key = some goal →
    ∃ number, number ≤ b.next ∧ goal.id = goalId number
  distinct : ∀ key other left right, b.serverGoals.lookup key = some left →
    b.serverGoals.lookup other = some right → left.id = right.id → key = other

section Step

variable {env : Environment} {move : Move} {m before after : Machine}

theorem ServerGoal.Progress.refl (goal : ServerGoal) : goal.Progress goal := .inl ⟨rfl, rfl⟩

theorem ServerGoal.Progress.trans {first second third : ServerGoal}
    (early : first.Progress second) (late : second.Progress third) : first.Progress third := by
  rcases early with ⟨status, result⟩ | ⟨unfinished, underWay, reached⟩
  · unfold ServerGoal.Progress at late ⊢
    rwa [status, result] at late
  · refine .inr ⟨unfinished, underWay, ?_⟩
    rcases late with ⟨status, result⟩ | ⟨still, -, further⟩
    · rwa [status, result]
    · exact further

/-- A move only takes a goal forward, and from phase to phase. -/
theorem Move.Alters.progress {key : String} {old goal : ServerGoal}
    (alters : move.Alters key old goal) (phased : old.Phased) : old.Progress goal ∧ goal.Phased := by
  have underWay (unfinished : old.result = none) : (old.status = 2 ∨ old.status = 3) ∧
      old.completed = none := by
    rcases phased with ⟨status, -, completed⟩ | ⟨-, finished, -⟩
    · exact ⟨status, completed⟩
    · exact absurd unfinished finished
  cases alters with
  | kept => exact ⟨.refl _, phased⟩
  | marked _ unfinished =>
      obtain ⟨status, completed⟩ := underWay unfinished
      exact ⟨.inr ⟨unfinished, status, .inl ⟨rfl, unfinished⟩⟩, .inl ⟨.inr rfl, unfinished, completed⟩⟩
  | parked _ unfinished =>
      obtain ⟨status, completed⟩ := underWay unfinished
      exact ⟨.inl ⟨rfl, rfl⟩, .inl ⟨status, unfinished, completed⟩⟩
  | answered =>
      refine ⟨.inl ⟨rfl, rfl⟩, phased.imp_right ?_⟩
      rintro ⟨status, finished, completed, alone⟩
      exact ⟨status, finished, completed, by rw [alone, List.dropLast_nil]⟩
  | @completed status values reading _ alone unfinished terminal =>
      have final : status = 4 ∨ status = 5 ∨ status = 6 := by omega
      exact ⟨.inr ⟨unfinished, (underWay unfinished).1, .inr ⟨final, Option.some_ne_none _⟩⟩,
        .inr ⟨final, Option.some_ne_none _, Option.some_ne_none _, alone⟩⟩

theorem Move.next_le (move : Move) (b : Bridge) : b.next ≤ (move.effect b).next := by
  cases move <;> first | exact le_rfl | exact Nat.le_succ _

theorem Move.keeps_goalsSound (enabled : move.Enabled env m) (sound : GoalsSound env m.bridge) :
    GoalsSound env (move.effect m.bridge) := by
  have admitted {key : String} {goal : ServerGoal} {entity : Entity} {request : Nat}
      (is : move = .goalAdmitted key goal entity request) :
      goal.id = goalId (m.bridge.next + 1) := by
    subst is
    obtain ⟨-, -, -, -, -, -, -, -, -, -, numbered⟩ := enabled
    exact numbered
  have older {key : String} {old : ServerGoal}
      (present : m.bridge.serverGoals.lookup key = some old) :
      old.id ≠ goalId (m.bridge.next + 1) := by
    obtain ⟨number, within, same⟩ := sound.numbered key old present
    intro equal
    have numbers := goalId_injective (same.symm.trans equal)
    omega
  refine ⟨fun key goal found => ?_, fun key goal found => ?_, fun key goal found => ?_,
    fun key other left right found found' same => ?_⟩
  · rcases Move.serverGoal_history enabled found with ⟨entity, request, rfl⟩ | ⟨old, present, alters⟩
    · obtain ⟨-, -, -, -, ⟨uuid, filed, keyed⟩, -⟩ := enabled
      exact ⟨uuid, keyed, filed⟩
    · obtain ⟨action, -, -, uuid⟩ := alters.same
      rw [action, uuid]
      exact sound.keyed key old present
  · rcases Move.serverGoal_history enabled found with ⟨entity, request, rfl⟩ | ⟨old, present, alters⟩
    · obtain ⟨-, -, result, completed, -, -, -, -, -, status, -⟩ := enabled
      exact .inl ⟨.inl status, result, completed⟩
    · exact (alters.progress (sound.phased key old present)).2
  · rcases Move.serverGoal_history enabled found with ⟨entity, request, is⟩ | ⟨old, present, alters⟩
    · refine ⟨m.bridge.next + 1, ?_, admitted is⟩
      subst is
      exact le_rfl
    · obtain ⟨number, within, numbered⟩ := sound.numbered key old present
      exact ⟨number, within.trans (move.next_le _), alters.same.2.2.1.trans numbered⟩
  · rcases Move.serverGoal_history enabled found with ⟨entity, request, is⟩ | ⟨old, present, alters⟩
    · rcases Move.serverGoal_history enabled found' with ⟨_, _, is'⟩ | ⟨old', present', alters'⟩
      · cases is.symm.trans is'
        rfl
      · exact absurd (alters'.same.2.2.1.symm.trans (same.symm.trans (admitted is))) (older present')
    · rcases Move.serverGoal_history enabled found' with ⟨_, _, is'⟩ | ⟨old', present', alters'⟩
      · exact absurd (alters.same.2.2.1.symm.trans (same.trans (admitted is'))) (older present)
      · exact sound.distinct key other old old' present present'
          (alters.same.2.2.1.symm.trans (same.trans alters'.same.2.2.1))

/-- The counter never goes back when a message is handed over. -/
theorem Sent.next_le {message : Option Message} (sent : Sent message before after) :
    before.bridge.next ≤ after.bridge.next := by
  cases sent <;> first | exact le_rfl | exact Nat.le_succ _

theorem Sent.goalsSound {message : Option Message} (sent : Sent message before after)
    (sound : GoalsSound env before.bridge) : GoalsSound env after.bridge := by
  have grown := sent.next_le
  obtain ⟨next, failed, tables⟩ := sent.tables
  rw [tables] at grown ⊢
  refine ⟨sound.keyed, sound.phased, fun key goal found => ?_, sound.distinct⟩
  obtain ⟨number, within, same⟩ := sound.numbered key goal found
  exact ⟨number, within.trans grown, same⟩

/-- Every goal is a later state of a goal of `origin`, or has a later identifier. -/
structure GoalsContinue (origin b : Bridge) : Prop where
  next : origin.next ≤ b.next
  goals : ∀ key goal, b.serverGoals.lookup key = some goal →
    (∃ old, origin.serverGoals.lookup key = some old ∧ old.id = goal.id ∧ old.Progress goal) ∨
      ∃ number, origin.next < number ∧ goal.id = goalId number

theorem Transition.goalsContinue {origin : Bridge} (taken : Transition env move before after)
    (held : GoalsSound env before.bridge ∧ GoalsContinue origin before.bridge) :
    GoalsSound env after.bridge ∧ GoalsContinue origin after.bridge := by
  obtain ⟨middle, sent, enabled, rfl⟩ := taken
  obtain ⟨sound, continues⟩ := held
  have sound' := sent.goalsSound sound
  have grown := continues.next.trans sent.next_le
  refine ⟨Move.keeps_goalsSound enabled sound', grown.trans (move.next_le _), fun key goal found => ?_⟩
  rcases Move.serverGoal_history enabled found with ⟨entity, request, rfl⟩ | ⟨old, present, alters⟩
  · obtain ⟨-, -, -, -, -, -, -, -, -, -, numbered⟩ := enabled
    exact .inr ⟨_, Nat.lt_succ_of_le grown, numbered⟩
  · have progress := (alters.progress (sound'.phased key old present)).1
    obtain ⟨next, failed, tables⟩ := sent.tables
    rw [tables] at present
    have same := alters.same.2.2.1
    rcases continues.goals key old present with ⟨first, found', is, early⟩ | ⟨number, later, is⟩
    · exact .inl ⟨first, found', is.trans same.symm, early.trans progress⟩
    · exact .inr ⟨number, later, same.trans is⟩

theorem Performed.goalsContinue {op : Operation} (performed : Performed env op before after)
    (sound : GoalsSound env before.bridge) :
    GoalsSound env after.bridge ∧ GoalsContinue before.bridge after.bridge :=
  performed.follows.invariant
    (fun m => GoalsSound env m.bridge ∧ GoalsContinue before.bridge m.bridge)
    (fun _ _ _ _ taken => taken.goalsContinue)
    ⟨sound, le_rfl, fun _ goal found => .inl ⟨goal, found, rfl, .refl goal⟩⟩

end Step

/-- In every reachable state each goal of an action server is filed under its action and
its own identifier, belongs to the owner of its action server, and is in a phase; no two
goals share an identifier. Over every step a goal that stays only moves forward, and one
that is finished never changes its status or its result. So an operation that panics
ran into a deadline or a response out of range, and not into a goal without its server. -/
theorem server_goal_lifecycle {env : Environment} {access : Access} {timeout : Duration}
    {m : Machine} (reached : Reachable env access timeout m) :
    (∀ key goal, m.bridge.serverGoals.lookup key = some goal →
      (∃ uuid, uuidKey env goal.uuid = .ok uuid ∧ key = serverGoalKey goal.action uuid) ∧
      (∃ server, m.bridge.actionServers.lookup goal.action = some server ∧
        server.owner = goal.owner) ∧ goal.Phased) ∧
    (∀ key other left right, m.bridge.serverGoals.lookup key = some left →
      m.bridge.serverGoals.lookup other = some right → left.id = right.id → key = other) ∧
    (∀ op, ¬ (perform env op m).1.IsPanic → ∀ key old new,
      m.bridge.serverGoals.lookup key = some old →
      (m.next env op).bridge.serverGoals.lookup key = some new → new.id = old.id →
      (new.status = old.status ∨ (old.status = 2 ∧ new.status = 3) ∨
        ((old.status = 2 ∨ old.status = 3) ∧
          (new.status = 4 ∨ new.status = 5 ∨ new.status = 6))) ∧
      (old.status = 4 ∨ old.status = 5 ∨ old.status = 6 →
        new.status = old.status ∧ new.result = old.result)) ∧
    ∀ op, (perform env op m).1.IsPanic → Hits env op m (perform env op m).2 := by
  have shaped := Onward.shaped reached (shaped_new access timeout)
  have sound : GoalsSound env m.bridge :=
    Onward.always (fun m => GoalsSound env m.bridge) reached
      (fun _ _ _ _ _ performed sound => (performed.goalsContinue sound).1)
      (shaped_new access timeout) ⟨nofun, nofun, nofun, nofun⟩
  refine ⟨fun key goal found => ?_, sound.distinct,
    fun op returns key old new found found' same => ?_, fun op panics => panicked op shaped panics⟩
  · obtain ⟨server, serves, own, -⟩ := shaped.served key goal found
    exact ⟨sound.keyed key goal found, ⟨server, serves, own⟩, sound.phased key goal found⟩
  · have continues := ((performed_next op shaped returns).goalsContinue sound).2
    have progress : old.Progress new := by
      rcases continues.goals key new found' with ⟨first, present, -, progress⟩ | ⟨number, later, is⟩
      · cases found.symm.trans present
        exact progress
      · obtain ⟨earlier, within, is'⟩ := sound.numbered key old found
        have numbers := goalId_injective (is.symm.trans (same.trans is'))
        omega
    rcases progress with ⟨status, result⟩ | ⟨unfinished, underWay, reached⟩
    · exact ⟨.inl status, fun _ => ⟨status, result⟩⟩
    · refine ⟨?_, fun terminal => by omega⟩
      rcases reached with ⟨status, -⟩ | ⟨status, -⟩
      · rcases underWay with two | three
        · exact .inr (.inl ⟨two, status⟩)
        · exact .inl (status.trans three.symm)
      · exact .inr (.inr ⟨underWay, status⟩)

/-! ### A goal of a server -/

def fibonacciServer : Operation :=
  .command 0 [("op", .str "advertise_action"), ("action", .str "/fibonacci"),
    ("type", .str "demo/action/Fibonacci")]

/-- The identifier of the goal that is asked for. -/
def fibonacciUuid : Json := .obj [("uuid", .arr (List.replicate 16 (.int 1)))]

/-- Every tick brings a goal for the first server of a run and asks for its result. -/
def Environment.asking : Environment :=
  { Environment.steady with
    poll := fun log => .ok
      [ .request 1 log.length (.obj [("goal_id", fibonacciUuid), ("goal", .obj [])]),
        .request 2 (log.length + 1) (.obj [("goal_id", fibonacciUuid)]) ] }

/-- The goal of the first tick is under way. -/
theorem server_goal_lifecycle_asking :
    let m := (((Machine.new {} 5).next .asking (.connect 0)).next .asking fibonacciServer).next
      .asking .tick
    ∃ goal, m.bridge.serverGoals.lookup "/fibonacci:01010101010101010101010101010101" = some goal ∧
      goal.requests = [(2, 7)] ∧ goal.Phased := by
  intro m
  have reached : Reachable .asking {} 5 m :=
    .step _ (.step _ (.step _ .here (by decide +kernel) trivial) (by decide +kernel) trivial)
      (by decide +kernel) trivial
  have active : (m.bridge.serverGoals.lookup
      "/fibonacci:01010101010101010101010101010101").map ServerGoal.requests = some [(2, 7)] := by
    decide +kernel
  obtain ⟨goal, found, parked⟩ := Option.map_eq_some_iff.mp active
  exact ⟨goal, found, parked, ((server_goal_lifecycle reached).1 _ goal found).2.2⟩

end Rosbridge
