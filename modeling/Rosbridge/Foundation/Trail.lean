import Rosbridge.Foundation.Program

/-!
Labelled transition relations and their finite runs.

Owns: `Trail`, the runs of a relation with the labels they pass; `Follows`, the
existence of a run whose labels all satisfy a test; the rule that carries an
invariant along a run; and the rule for a loop whose rounds are such steps.
-/

set_option autoImplicit false

namespace Foundation

variable {Λ σ : Type}

/-- `Trail step labels start finish`: the steps labelled `labels` lead from
`start` to `finish`. -/
inductive Trail (step : Λ → σ → σ → Prop) : List Λ → σ → σ → Prop where
  | nil (state : σ) : Trail step [] state state
  | cons {label : Λ} {labels : List Λ} {start middle finish : σ}
      (first : step label start middle) (rest : Trail step labels middle finish) :
      Trail step (label :: labels) start finish

namespace Trail

variable {step : Λ → σ → σ → Prop} {labels left right : List Λ} {start middle finish : σ}

theorem single {label : Λ} (taken : step label start finish) :
    Trail step [label] start finish :=
  .cons taken (.nil finish)

theorem append (first : Trail step left start middle) (second : Trail step right middle finish) :
    Trail step (left ++ right) start finish := by
  induction first with
  | nil => exact second
  | cons taken _ inductionHypothesis => exact .cons taken (inductionHypothesis second)

/-- A run passes a state between any two of its labels. -/
theorem split (run : Trail step (left ++ right) start finish) :
    ∃ middle, Trail step left start middle ∧ Trail step right middle finish := by
  induction left generalizing start with
  | nil => exact ⟨start, .nil start, run⟩
  | cons label left inductionHypothesis =>
      cases run with
      | cons first rest =>
          obtain ⟨middle, before, after⟩ := inductionHypothesis rest
          exact ⟨middle, .cons first before, after⟩

/-- Each label of a run is the label of a step. -/
theorem taken {label : Λ} (run : Trail step labels start finish) (member : label ∈ labels) :
    ∃ before after, step label before after := by
  induction run with
  | nil => cases member
  | cons first _ inductionHypothesis =>
      rcases List.mem_cons.mp member with rfl | later
      · exact ⟨_, _, first⟩
      · exact inductionHypothesis later

/-- The steps of a partial function, taken one after the other. -/
theorem of_run {next : Λ → σ → Option σ}
    (ran : labels.foldlM (fun state label => next label state) start = some finish) :
    Trail (fun label before after => next label before = some after) labels start finish := by
  induction labels generalizing start with
  | nil =>
      cases ran
      exact .nil _
  | cons label labels inductionHypothesis =>
      rw [List.foldlM_cons] at ran
      obtain ⟨middle, first, rest⟩ := Option.bind_eq_some_iff.mp ran
      exact .cons first (inductionHypothesis rest)

/-- Relabel a run. -/
theorem map {Γ : Type} {other : Γ → σ → σ → Prop} (rename : Λ → Γ)
    (weakens : ∀ label before after, step label before after → other (rename label) before after)
    (run : Trail step labels start finish) : Trail other (labels.map rename) start finish := by
  induction run with
  | nil => exact .nil _
  | cons taken _ inductionHypothesis => exact .cons (weakens _ _ _ taken) inductionHypothesis

/-- Carry an invariant along a run. `allowed` is a condition on states that
every earlier state of a run inherits from the last one. -/
theorem invariant (allowed inv : σ → Prop)
    (inherits : ∀ label before after, step label before after → allowed after → allowed before)
    (preserves : ∀ label before after, step label before after → allowed after →
      inv before → inv after)
    (run : Trail step labels start finish) (last : allowed finish) (holds : inv start) :
    inv finish := by
  suffices allowed start ∧ (inv start → inv finish) from this.2 holds
  clear holds
  induction run with
  | nil => exact ⟨last, id⟩
  | cons taken _ inductionHypothesis =>
      obtain ⟨allowedMiddle, carried⟩ := inductionHypothesis last
      exact ⟨inherits _ _ _ taken allowedMiddle,
        fun held => carried (preserves _ _ _ taken allowedMiddle held)⟩

/-- Carry an invariant that reads the labels passed so far. -/
theorem history (inv : List Λ → σ → Prop) (run : Trail step labels start finish)
    (preserves : ∀ done label before after, step label before after → inv done before →
      inv (done ++ [label]) after)
    (holds : inv [] start) : inv labels finish := by
  suffices ∀ done, inv done start → inv (done ++ labels) finish from this [] holds
  clear holds
  induction run with
  | nil =>
      intro done held
      rwa [List.append_nil]
  | @cons label labels _ _ _ taken _ inductionHypothesis =>
      intro done held
      rw [List.append_cons]
      exact inductionHypothesis _ (preserves done label _ _ taken held)

end Trail

/-- Some run leads from `start` to `finish`, and each of its labels passes. -/
def Follows (step : Λ → σ → σ → Prop) (passes : Λ → Prop) (start finish : σ) : Prop :=
  ∃ labels, Trail step labels start finish ∧ ∀ label ∈ labels, passes label

namespace Follows

variable {step : Λ → σ → σ → Prop} {passes weaker : Λ → Prop} {start middle finish : σ}

theorem refl (state : σ) : Follows step passes state state :=
  ⟨[], .nil state, by simp⟩

theorem single {label : Λ} (taken : step label start finish) (pass : passes label) :
    Follows step passes start finish :=
  ⟨[label], .single taken, by simpa using pass⟩

theorem trans (first : Follows step passes start middle)
    (second : Follows step passes middle finish) : Follows step passes start finish := by
  obtain ⟨left, leftRun, leftPass⟩ := first
  obtain ⟨right, rightRun, rightPass⟩ := second
  refine ⟨left ++ right, leftRun.append rightRun, fun label member => ?_⟩
  rcases List.mem_append.mp member with inLeft | inRight
  · exact leftPass label inLeft
  · exact rightPass label inRight

theorem mono (run : Follows step passes start finish)
    (weakens : ∀ label, passes label → weaker label) : Follows step weaker start finish := by
  obtain ⟨labels, run, pass⟩ := run
  exact ⟨labels, run, fun label member => weakens label (pass label member)⟩

/-- Carry an invariant of the labels that pass. -/
theorem invariant (inv : σ → Prop) (run : Follows step passes start finish)
    (preserves : ∀ label before after, passes label → step label before after →
      inv before → inv after) (holds : inv start) : inv finish := by
  obtain ⟨labels, run, pass⟩ := run
  induction run with
  | nil => exact holds
  | cons taken _ inductionHypothesis =>
      exact inductionHypothesis (preserves _ _ _ (pass _ List.mem_cons_self) taken holds)
        fun label member => pass label (List.mem_cons_of_mem _ member)

/-- Carry an invariant of the labels that pass. `allowed` is a condition on states that
every earlier state of a run inherits from the last one. -/
theorem inherited (allowed inv : σ → Prop) (run : Follows step passes start finish)
    (inherits : ∀ label before after, step label before after → allowed after → allowed before)
    (preserves : ∀ label before after, passes label → step label before after → allowed after →
      inv before → inv after)
    (last : allowed finish) (holds : inv start) : inv finish := by
  obtain ⟨labels, run, pass⟩ := run
  suffices allowed start ∧ (inv start → inv finish) from this.2 holds
  clear holds
  induction run with
  | nil => exact ⟨last, id⟩
  | cons taken _ inductionHypothesis =>
      obtain ⟨allowedMiddle, carried⟩ := inductionHypothesis last
        fun label member => pass label (List.mem_cons_of_mem _ member)
      exact ⟨inherits _ _ _ taken allowedMiddle, fun held =>
        carried (preserves _ _ _ (pass _ List.mem_cons_self) taken allowedMiddle held)⟩

end Follows

/-! ### Loops as runs -/

/-- A loop whose body takes one step for each element and always returns. -/
theorem wp_forEach_trail {ε : Type} (step : Λ → σ → σ → Prop)
    {body : Λ → Program σ ε Unit} {items : List Λ} {start : σ}
    {post : Outcome ε Unit → σ → Prop}
    (iterate : ∀ item ∈ items, ∀ before, ∀ done, Trail step done start before →
      Program.wp (body item) (fun outcome after =>
        match outcome with
        | .ok _ => step item before after
        | .error cause => post (.error cause) after
        | .panic site => post (.panic site) after) before)
    (finish : ∀ after, Trail step items start after → post (.ok ()) after) :
    Program.wp (Program.forEach items body) post start := by
  refine Program.wp_forEach
    (fun rest before => ∃ done, done ++ rest = items ∧ Trail step done start before) items
    ⟨[], rfl, .nil start⟩ ?_ ?_
  · rintro item rest before ⟨done, split, run⟩
    have member : item ∈ items := by
      rw [← split]
      exact List.mem_append_right _ List.mem_cons_self
    refine Program.wp_mono (iterate item member before done run) ?_
    rintro (value | cause | site) after held
    · exact ⟨done ++ [item], by simpa using split, run.append (.single held)⟩
    · exact held
    · exact held
  · rintro after ⟨done, split, run⟩
    rw [List.append_nil] at split
    exact finish after (split ▸ run)

end Foundation
