import Mathlib.Order.Defs.Unbundled
import Rosbridge.Foundation.Program

/-!
Programs that stay within a relation on states.

Owns: `Within`, that a program relates every state to the one it ends in, however it ends; and one
rule for each way of building a program. The relation is reflexive and transitive, so loops need
no invariant of their own.
-/

set_option autoImplicit false

namespace Foundation.Program

variable {σ ε α β : Type}

/-- From every state the program ends in a related one. -/
def Within (relation : σ → σ → Prop) (program : Program σ ε α) : Prop :=
  ∀ state, relation state (program state).2

namespace Within

variable {relation weaker : σ → σ → Prop} {program : Program σ ε α} {state : σ}

theorem wp (within : Within relation program) :
    Program.wp program (fun _ after => relation state after) state := by
  rw [wp_iff]
  exact within state

theorem mono (within : Within relation program)
    (implies : ∀ before after, relation before after → weaker before after) :
    Within weaker program :=
  fun state => implies _ _ (within state)

section Still

variable [Std.Refl relation]

theorem pure (value : α) : Within relation (Pure.pure value : Program σ ε α) := Std.Refl.refl

theorem fail (cause : ε) : Within relation (Program.fail cause : Program σ ε α) := Std.Refl.refl

theorem panic (site : String) : Within relation (Program.panic site : Program σ ε α) :=
  Std.Refl.refl

theorem ofExcept (reply : Except ε α) :
    Within relation (Program.ofExcept reply : Program σ ε α) := by
  cases reply with
  | ok value => exact pure value
  | error cause => exact fail cause

theorem lift (reply : Except ε α) : Within relation (liftM reply : Program σ ε α) :=
  ofExcept reply

theorem unwrap (site : String) (value : Option α) :
    Within relation (Program.unwrap site value : Program σ ε α) := by
  cases value with
  | none => exact panic site
  | some value => exact pure value

theorem ensure (condition : Bool) (cause : ε) :
    Within relation (Program.ensure condition cause : Program σ ε Unit) := by
  cases condition with
  | true => exact pure ()
  | false => exact fail cause

end Still

theorem ite {condition : Prop} [Decidable condition] {other : Program σ ε α}
    (left : Within relation program) (right : Within relation other) :
    Within relation (if condition then program else other) := by
  split
  · exact left
  · exact right

theorem whenever [Std.Refl relation] {condition : Bool} {program : Program σ ε Unit}
    (within : Within relation program) : Within relation (Program.whenever condition program) := by
  cases condition with
  | true => exact within
  | false => exact pure ()

theorem attempt (within : Within relation program) :
    Within relation (Program.attempt program) := by
  intro state
  have done := within state
  unfold Program.attempt
  rcases ran : program state with ⟨value | cause | site, after⟩ <;> rw [ran] at done <;> exact done

section Sequences

variable [IsTrans σ relation]

theorem bind {first : Program σ ε α} {next : α → Program σ ε β} (early : Within relation first)
    (late : ∀ value, Within relation (next value)) : Within relation (first >>= next) := by
  intro state
  have begun := early state
  rcases ran : first state with ⟨value | cause | site, middle⟩
  · rw [bind_ok ran]
    rw [ran] at begun
    exact IsTrans.trans _ _ _ begun (late value middle)
  · rw [bind_error ran]
    rw [ran] at begun
    exact begun
  · rw [bind_panic ran]
    rw [ran] at begun
    exact begun

variable [Std.Refl relation]

theorem forEach {items : List α} {body : α → Program σ ε Unit}
    (each : ∀ item, Within relation (body item)) :
    Within relation (Program.forEach items body) := by
  induction items with
  | nil => exact pure ()
  | cons item rest inductionHypothesis => exact bind (each item) fun _ => inductionHypothesis

theorem foldEach {items : List α} {body : β → α → Program σ ε β}
    (each : ∀ value item, Within relation (body value item)) (seed : β) :
    Within relation (Program.foldEach items seed body) := by
  induction items generalizing seed with
  | nil => exact pure seed
  | cons item rest inductionHypothesis =>
      exact bind (each seed item) fun next => inductionHypothesis next

end Sequences

end Within

end Foundation.Program
