import Rosbridge.Properties.Lifecycle

/-!
When the thread of the bridge survives.

Owns: the condition on deadlines under which no operation panics, in any run; and a
call that a client can end the thread with.
-/

set_option autoImplicit false

namespace Rosbridge

open Foundation

section Deadlines

variable {env : Environment} {access : Access} {timeout : Duration} {m : Machine}

/-- The duration can be added to every reading of the clock from `m` on. -/
def Roomy (env : Environment) (m : Machine) (duration : Duration) : Prop :=
  ∀ log, m.log <+: log → Instant.add? (env.instant log) duration ≠ none

/-- The deadlines that an operation may set are in the range of the clock, and the
values of its responses are objects. -/
def Operation.Timely (env : Environment) : Operation → Machine → Prop
  | .command _ v, m => ∀ duration, Timed m.bridge (.obj v) duration → Roomy env m duration
  | .tick, m => Roomy env m m.bridge.timeout ∧
      ∀ events, env.poll m.log = .ok events → ∀ event ∈ events, ¬ event.Hidden
  | _, _ => True

theorem Roomy.excludes {duration : Duration} {after : Machine} (roomy : Roomy env m duration) :
    ¬ Overflows env duration m after := by
  rintro ⟨log, grown, -, none⟩
  exact roomy log grown none

/-- An operation whose deadlines are in range returns. -/
theorem Operation.Timely.returns {op : Operation} (timely : op.Timely env m) (shaped : Shaped m) :
    ¬ (perform env op m).1.IsPanic := by
  have spec : Program.wp (perform env op) _ m := perform_spec op shaped
  rw [Program.wp_iff] at spec
  intro panics
  cases result : (perform env op m).1 with
  | ok value => rw [result] at panics; exact panics
  | error cause => rw [result] at panics; exact panics
  | panic site =>
      rw [result] at spec
      cases op with
      | connect | disconnect | shutdown => exact spec
      | command owner v =>
          obtain ⟨duration, timed, past⟩ := spec
          exact (timely duration timed).excludes past
      | tick =>
          obtain ⟨events, answered, hidden | past⟩ := spec
          · obtain ⟨event, member, hides⟩ := hidden
            exact timely.2 events answered event member hides
          · exact timely.1.excludes past

theorem nextWakeup_returns (m : Machine) : ¬ (nextWakeup env m).1.IsPanic := id

/-- The machine after several operations. -/
def Machine.run (env : Environment) (m : Machine) (ops : List Operation) : Machine :=
  ops.foldl (fun m op => m.next env op) m

theorem Machine.run_shaped {ops : List Operation} (shaped : Shaped m)
    (timely : ∀ done op rest, ops = done ++ op :: rest → op.Timely env (m.run env done)) :
    Shaped (m.run env ops) := by
  induction ops generalizing m with
  | nil => exact shaped
  | cons op ops inductionHypothesis =>
      have first : op.Timely env m := timely [] op ops rfl
      have performed := performed_next op shaped (first.returns shaped)
      refine inductionHypothesis (Follows.shaped performed.follows shaped) ?_
      intro done next rest split
      exact timely (op :: done) next rest (by rw [split, List.cons_append])

/-- In every run of a new bridge in which the deadlines that each operation may set are
in the range of the clock, no operation panics, and neither does the question for the
next wakeup before it. -/
theorem timely_runs_return {ops : List Operation}
    (timely : ∀ done op rest, ops = done ++ op :: rest →
      op.Timely env ((Machine.new access timeout).run env done)) :
    ∀ done op rest, ops = done ++ op :: rest →
      ¬ (perform env op ((Machine.new access timeout).run env done)).1.IsPanic ∧
      ¬ (nextWakeup env ((Machine.new access timeout).run env done)).1.IsPanic := by
  intro done op rest split
  refine ⟨(timely done op rest split).returns (Machine.run_shaped (shaped_new access timeout) ?_),
    nextWakeup_returns _⟩
  intro earlier next later before
  exact timely earlier next (later ++ op :: rest) (by rw [split, before, List.append_assoc]; rfl)

end Deadlines

/-! ### A deadline out of range -/

/-- A call with a timeout of the given number of seconds. -/
def slowCall (seconds : Int) : Operation :=
  .command 0 [("op", .str "call_service"), ("service", .str "/add"),
    ("type", .str "demo/srv/Add"), ("timeout", .int seconds)]

/-- A call with a timeout of 10^19 seconds ends the thread. -/
theorem slowCall_panics :
    let m := (Machine.new {} 5).next .steady (.connect 0)
    Reachable .steady {} 5 m ∧ (perform .steady (slowCall 10000000000000000000) m).1.IsPanic :=
  ⟨.step _ .here (by decide +kernel) trivial, by decide +kernel⟩

theorem slowCall_timely (m : Machine) : (slowCall 10).Timely .steady m := by
  rintro duration (⟨-, timed⟩ | ⟨named, -⟩)
  · have bound : Duration.tryFromSecsF64 (.ofInt 10) = .ok 10000000000 := by decide +kernel
    cases bound.symm.trans timed
    intro log _
    show Instant.add? 0 10000000000 ≠ none
    decide
  · have other : required (.obj [("op", .str "call_service"), ("service", .str "/add"),
        ("type", .str "demo/srv/Add"), ("timeout", .int 10)]) "op" = .ok "call_service" := rfl
    exact absurd (Except.ok.inj (other.symm.trans named)) (by decide)

/-- A call with a timeout of 10 seconds does not. -/
theorem timely_runs_return_steady :
    ¬ (perform .steady (slowCall 10) ((Machine.new {} 5).run .steady [.connect 0])).1.IsPanic := by
  have timely : ∀ done op rest, [.connect 0, slowCall 10] = done ++ op :: rest →
      op.Timely .steady ((Machine.new {} 5).run .steady done) := by
    intro done op rest split
    rcases done with - | ⟨first, - | ⟨second, done⟩⟩
    · cases split
      trivial
    · cases split
      exact slowCall_timely _
    · have lengths := congrArg List.length split
      simp at lengths
  exact (timely_runs_return timely [.connect 0] (slowCall 10) [] rfl).1

end Rosbridge
