import Rosbridge.Protocol.Goals
import Rosbridge.Properties.Lifecycle

/-!
Goals of clients over whole runs.

Owns: that no goal is stranded as long as the backend accepts the requests for results;
and a run in which it refuses one.
-/

set_option autoImplicit false

namespace Rosbridge

open Foundation

section Goals

variable {env : Environment} {access : Access} {timeout : Duration} {move : Move}
  {m before after : Machine}

/-- The backend accepts, from `m` on, a request for the result of each goal that was not
accepted yet. -/
def Operation.Sustained (env : Environment) : Operation → Machine → Prop
  | .tick, m => ∀ log, m.log <+: log → ∀ key goal, m.bridge.goals.lookup key = some goal →
      goal.accepted = false →
      ∃ sequence, env.request log goal.result (resultArgs goal.uuid) = .ok sequence
  | _, _ => True

/-- The goals of a bridge are goals of an earlier one. -/
def Bridge.Descends (b origin : Bridge) : Prop :=
  ∀ key goal, b.goals.lookup key = some goal →
    ∃ old, origin.goals.lookup key = some old ∧ goal.result = old.result ∧
      goal.uuid = old.uuid ∧ (goal.accepted = false → old.accepted = false)

theorem Transition.descends {origin : Bridge} (taken : Transition env move before after)
    (free : ¬ move.Commanded) (descends : before.bridge.Descends origin) :
    after.bridge.Descends origin := by
  obtain ⟨middle, sent, -, rfl⟩ := taken
  obtain ⟨next, failed, tables⟩ := sent.tables
  intro key goal found
  rcases Move.goal_history found with ⟨fresh, sequence, typ, args, reading, rfl⟩ |
    ⟨old, present, same, stays⟩
  · exact absurd trivial free
  · rw [tables] at present
    obtain ⟨first, found', result, uuid, still⟩ := descends key old present
    rw [same]
    exact ⟨first, found', result, uuid, fun open' => still (stays open')⟩

theorem Transition.pending (taken : Transition env move before after) (shaped : Shaped before)
    (balanced : Balanced before) (fresh : Fresh after.log)
    (whole : ∀ place key goal cause, move ≠ .goalStranded place key goal cause)
    (pending : GoalsPending before.bridge) : GoalsPending after.bridge := by
  obtain ⟨middle, sent, enabled, rfl⟩ := taken
  have balanced' := sent.balanced balanced
  have distinct := (balanced'.lifecycle (fresh.inherit (List.prefix_append _ _))).2.1
  obtain ⟨next, failed, tables⟩ := sent.tables
  refine Move.keeps_pending enabled (sent.shaped shaped) balanced' fresh whole ?_ distinct
  rw [tables]
  exact ⟨pending.named, pending.awaits, pending.once, pending.unaccepted, pending.accepted⟩

theorem Move.Releasing.not_stranded {owner : Connection} {place : Entity × Int} {key : String}
    {goal : ClientGoal} {cause : Error}
    (releasing : (Move.goalStranded place key goal cause).Releasing owner) : False := by
  rcases releasing with pass | pass | pass | pass | pass | pass | ⟨⟨⟩⟩
  all_goals exact pass

theorem Performed.pending {op : Operation} (performed : Performed env op m after)
    (sustained : op.Sustained env m) (shaped : Shaped m) (balanced : Balanced m)
    (fresh : Fresh after.log) (pending : GoalsPending m.bridge) : GoalsPending after.bridge := by
  have start : m.bridge.Descends m.bridge := fun key goal found => ⟨goal, found, rfl, rfl, id⟩
  refine (performed.carry (fun middle => Balanced middle ∧ GoalsPending middle.bridge ∧
    (op = .tick → middle.bridge.Descends m.bridge)) ?_ shaped fresh
    ⟨balanced, pending, fun _ => start⟩).2.1
  rintro move before last during taken shaped grown fresh ⟨balanced, pending, descends⟩
  refine ⟨taken.balanced shaped fresh balanced, ?_, fun same => ?_⟩
  · refine taken.pending shaped balanced fresh ?_ pending
    rintro place key goal cause rfl
    cases op with
    | connect | command => cases during
    | disconnect owner =>
        rcases during with ⟨⟨⟩⟩ | releasing
        exact releasing.not_stranded
    | shutdown =>
        rcases during with ⟨⟨⟩⟩ | ⟨owner, ⟨⟨⟩⟩ | releasing⟩
        exact releasing.not_stranded
    | tick =>
        obtain ⟨middle, sent, ⟨waits, active, refused⟩, -⟩ := taken
        cases sent
        obtain ⟨old, found, result, uuid, still⟩ := descends rfl key goal active
        obtain ⟨sequence, answered⟩ := sustained before.log grown key old found
          (still (pending.unaccepted place key goal waits active))
        rw [result, uuid, answered] at refused
        cases refused
  · rw [same] at during
    exact taken.descends during (descends same)

end Goals

end Rosbridge
