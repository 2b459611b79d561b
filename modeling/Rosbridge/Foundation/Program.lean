import Mathlib.Data.List.Basic

/-!
Stateful programs that return, fail or panic, and their weakest preconditions.

Owns: the three-way `Outcome`, the `Program` monad over an explicit state, the
loop `forEach`, and one weakest-precondition rule for each way of building a
program.

A failure keeps the state it happened in: an early return in the source leaves
every earlier write in place. A panic cannot be caught.
-/

set_option autoImplicit false

namespace Foundation

/-- How a run of a program ends. -/
inductive Outcome (ε α : Type) where
  | ok (value : α)
  | error (cause : ε)
  | panic (site : String)
deriving DecidableEq

namespace Outcome

variable {ε α : Type}

/-- The run neither returned nor failed: its thread is gone. -/
def IsPanic : Outcome ε α → Prop
  | panic _ => True
  | _ => False

instance : DecidablePred (@IsPanic ε α) := fun outcome =>
  match outcome with
  | ok _ => inferInstanceAs (Decidable False)
  | error _ => inferInstanceAs (Decidable False)
  | panic _ => inferInstanceAs (Decidable True)

@[simp] theorem isPanic_ok (value : α) : ¬ (ok value : Outcome ε α).IsPanic := id
@[simp] theorem isPanic_error (cause : ε) : ¬ (error cause : Outcome ε α).IsPanic := id
@[simp] theorem isPanic_panic (site : String) : (panic site : Outcome ε α).IsPanic := trivial

/-- The outcome without the value. -/
def void : Outcome ε α → Outcome ε Unit
  | ok _ => ok ()
  | error cause => error cause
  | panic site => panic site

end Outcome

/-- A program reads and writes one state of type `σ` and fails with an `ε`. -/
def Program (σ ε α : Type) : Type := σ → Outcome ε α × σ

namespace Program

variable {σ ε α β : Type}

protected def pure (value : α) : Program σ ε α := fun state => (.ok value, state)

protected def bind (first : Program σ ε α) (next : α → Program σ ε β) : Program σ ε β :=
  fun state =>
    match first state with
    | (.ok value, after) => next value after
    | (.error cause, after) => (.error cause, after)
    | (.panic site, after) => (.panic site, after)

instance : Monad (Program σ ε) where
  pure := Program.pure
  bind := Program.bind

/-- Return early with an error. -/
def fail (cause : ε) : Program σ ε α := fun state => (.error cause, state)

/-- Unwind the thread. -/
def panic (site : String) : Program σ ε α := fun state => (.panic site, state)

/-- The current state. -/
def get : Program σ ε σ := fun state => (.ok state, state)

/-- Replace the state. -/
def modify (change : σ → σ) : Program σ ε Unit := fun state => (.ok (), change state)

/-- A pure computation that may fail. -/
def ofExcept : Except ε α → Program σ ε α
  | .ok value => Program.pure value
  | .error cause => fail cause

instance : MonadLift (Except ε) (Program σ ε) where
  monadLift := ofExcept

/-- The value inside, or a panic: `unwrap` and indexing in the source. -/
def unwrap (site : String) : Option α → Program σ ε α
  | some value => Program.pure value
  | none => panic site

/-- Fail unless the condition holds. -/
def ensure (condition : Bool) (cause : ε) : Program σ ε Unit :=
  if condition then Program.pure () else fail cause

/-- Run the program if the condition holds. -/
def whenever (condition : Bool) (program : Program σ ε Unit) : Program σ ε Unit :=
  if condition then program else Program.pure ()

/-- Run a program and hand its error to the caller. A panic still unwinds. -/
def attempt (program : Program σ ε α) : Program σ ε (Except ε α) := fun state =>
  match program state with
  | (.ok value, after) => (.ok (.ok value), after)
  | (.error cause, after) => (.ok (.error cause), after)
  | (.panic site, after) => (.panic site, after)

/-- Run the body on each element in order, stopping at the first failure. -/
def forEach : List α → (α → Program σ ε Unit) → Program σ ε Unit
  | [], _ => Program.pure ()
  | head :: tail, body => Program.bind (body head) fun _ => forEach tail body

/-- Thread an accumulator through the body, element by element. -/
def foldEach : List α → β → (β → α → Program σ ε β) → Program σ ε β
  | [], seed, _ => Program.pure seed
  | head :: tail, seed, body => Program.bind (body seed head) fun next => foldEach tail next body

/-! ### Runs -/

section Runs

variable {state after : σ} {next : α → Program σ ε β}

theorem bind_assoc {γ : Type} (first : Program σ ε α) (next : α → Program σ ε β)
    (last : β → Program σ ε γ) :
    first >>= next >>= last = first >>= fun value => next value >>= last := by
  funext start
  show Program.bind (Program.bind first next) last start =
    Program.bind first (fun value => Program.bind (next value) last) start
  unfold Program.bind
  rcases first start with ⟨value | cause | site, middle⟩ <;> rfl

theorem bind_ok {first : Program σ ε α} {value : α} (ran : first state = (.ok value, after)) :
    (first >>= next) state = next value after := by
  show Program.bind first next state = _
  rw [Program.bind, ran]

theorem bind_error {first : Program σ ε α} {cause : ε}
    (ran : first state = (.error cause, after)) :
    (first >>= next) state = (.error cause, after) := by
  show Program.bind first next state = _
  rw [Program.bind, ran]

theorem bind_panic {first : Program σ ε α} {site : String}
    (ran : first state = (.panic site, after)) :
    (first >>= next) state = (.panic site, after) := by
  show Program.bind first next state = _
  rw [Program.bind, ran]

theorem unwrap_some {site : String} {found : Option α} {value : α} (present : found = some value) :
    (unwrap site found : Program σ ε α) state = (.ok value, state) := by
  rw [present]
  rfl

end Runs

/-! ### Weakest preconditions -/

/-- Running `program` from `state` ends in an outcome and a state that satisfy
`post`. -/
def wp (program : Program σ ε α) (post : Outcome ε α → σ → Prop) (state : σ) : Prop :=
  post (program state).1 (program state).2

variable {post : Outcome ε β → σ → Prop} {state : σ}

theorem wp_iff (program : Program σ ε α) (post : Outcome ε α → σ → Prop) (state : σ) :
    wp program post state ↔ post (program state).1 (program state).2 := Iff.rfl

/-- Consequence: a stronger postcondition may replace a weaker one. -/
theorem wp_returns {program : Program σ ε Unit} {post : σ → Prop} {state : σ}
    (holds : wp program (fun outcome after => outcome = .ok () ∧ post after) state) :
    ∃ after, program state = (.ok (), after) ∧ post after :=
  ⟨(program state).2, Prod.ext holds.1 rfl, holds.2⟩

theorem wp_mono {program : Program σ ε α} {strong weak : Outcome ε α → σ → Prop}
    (holds : wp program strong state)
    (implies : ∀ outcome after, strong outcome after → weak outcome after) :
    wp program weak state :=
  implies _ _ holds

theorem wp_and {program : Program σ ε α} {left right : Outcome ε α → σ → Prop}
    (holdsLeft : wp program left state) (holdsRight : wp program right state) :
    wp program (fun outcome after => left outcome after ∧ right outcome after) state :=
  ⟨holdsLeft, holdsRight⟩

/-- A run ends in its outcome. -/
theorem wp_self (program : Program σ ε α) (state : σ) :
    wp program (fun outcome _ => outcome = (program state).1) state := rfl

@[simp] theorem wp_pure (value : β) : wp (pure value) post state ↔ post (.ok value) state :=
  Iff.rfl

@[simp] theorem wp_fail (cause : ε) : wp (fail cause) post state ↔ post (.error cause) state :=
  Iff.rfl

@[simp] theorem wp_panic (site : String) :
    wp (panic site) post state ↔ post (.panic site) state := Iff.rfl

@[simp] theorem wp_get {post : Outcome ε σ → σ → Prop} :
    wp get post state ↔ post (.ok state) state := Iff.rfl

@[simp] theorem wp_modify {post : Outcome ε Unit → σ → Prop} (change : σ → σ) :
    wp (modify change) post state ↔ post (.ok ()) (change state) := Iff.rfl

/-- The postcondition a first program owes to the rest of a sequence. -/
def andThen (next : α → Program σ ε β) (post : Outcome ε β → σ → Prop) :
    Outcome ε α → σ → Prop
  | .ok value, after => wp (next value) post after
  | .error cause, after => post (.error cause) after
  | .panic site, after => post (.panic site) after

@[simp] theorem andThen_ok (next : α → Program σ ε β) (value : α) :
    andThen next post (.ok value) state ↔ wp (next value) post state := Iff.rfl

@[simp] theorem andThen_error (next : α → Program σ ε β) (cause : ε) :
    andThen next post (.error cause) state ↔ post (.error cause) state := Iff.rfl

@[simp] theorem andThen_panic (next : α → Program σ ε β) (site : String) :
    andThen next post (.panic site) state ↔ post (.panic site) state := Iff.rfl

@[simp] theorem wp_bind (first : Program σ ε α) (next : α → Program σ ε β) :
    wp (first >>= next) post state ↔ wp first (andThen next post) state := by
  show post (Program.bind first next state).1 (Program.bind first next state).2 ↔
    andThen next post (first state).1 (first state).2
  unfold Program.bind
  rcases first state with ⟨value | cause | site, after⟩ <;> rfl

/-- Sequencing from a specification of the first program. -/
theorem wp_bind_of {first : Program σ ε α} {next : α → Program σ ε β}
    {middle : Outcome ε α → σ → Prop} (holds : wp first middle state)
    (onOk : ∀ value after, middle (.ok value) after → wp (next value) post after)
    (onError : ∀ cause after, middle (.error cause) after → post (.error cause) after)
    (onPanic : ∀ site after, middle (.panic site) after → post (.panic site) after) :
    wp (first >>= next) post state := by
  refine (wp_bind first next).mpr (wp_mono holds ?_)
  rintro (value | cause | site) after held
  · exact onOk value after held
  · exact onError cause after held
  · exact onPanic site after held

/-- Sequencing after a program that always returns. -/
theorem wp_bind_returns {first : Program σ ε Unit} {next : Unit → Program σ ε β}
    {good : σ → Prop} (holds : wp first (fun outcome after => outcome = .ok () ∧ good after) state)
    (continues : ∀ after, good after → wp (next ()) post after) :
    wp (first >>= next) post state := by
  refine (wp_bind first next).mpr (wp_mono holds ?_)
  rintro outcome after ⟨rfl, held⟩
  exact continues after held

@[simp] theorem wp_ofExcept (result : Except ε β) :
    wp (ofExcept result) post state ↔
      match result with
      | .ok value => post (.ok value) state
      | .error cause => post (.error cause) state := by
  cases result <;> rfl

@[simp] theorem wp_monadLift (result : Except ε β) :
    wp (monadLift result : Program σ ε β) post state ↔
      match result with
      | .ok value => post (.ok value) state
      | .error cause => post (.error cause) state :=
  wp_ofExcept result

/-- A pure computation first, with its result as an equation. -/
theorem wp_bind_lift {result : Except ε α} {next : α → Program σ ε β}
    (onError : ∀ cause, result = .error cause → post (.error cause) state)
    (onOk : ∀ value, result = .ok value → wp (next value) post state) :
    wp (liftM result >>= next) post state := by
  cases result with
  | ok value => exact onOk value rfl
  | error cause => exact onError cause rfl

/-- A check first, with its verdict as an equation. -/
theorem wp_bind_ensure {condition : Bool} {cause : ε} {next : Unit → Program σ ε β}
    (onError : condition = false → post (.error cause) state)
    (onOk : condition = true → wp (next ()) post state) :
    wp (ensure condition cause >>= next) post state := by
  cases condition with
  | true => exact onOk rfl
  | false => exact onError rfl

/-- An unwrap first, with what it found as an equation. -/
theorem wp_bind_unwrap {site : String} {value : Option α} {next : α → Program σ ε β}
    (onNone : value = none → post (.panic site) state)
    (onSome : ∀ inner, value = some inner → wp (next inner) post state) :
    wp (unwrap site value >>= next) post state := by
  cases value with
  | some inner => exact onSome inner rfl
  | none => exact onNone rfl

@[simp] theorem wp_unwrap (site : String) (value : Option β) :
    wp (unwrap site value) post state ↔
      match value with
      | some inner => post (.ok inner) state
      | none => post (.panic site) state := by
  cases value <;> rfl

@[simp] theorem wp_ensure {post : Outcome ε Unit → σ → Prop} (condition : Bool) (cause : ε) :
    wp (ensure condition cause) post state ↔
      if condition then post (.ok ()) state else post (.error cause) state := by
  cases condition <;> rfl

@[simp] theorem wp_whenever {post : Outcome ε Unit → σ → Prop} (condition : Bool)
    (program : Program σ ε Unit) :
    wp (whenever condition program) post state ↔
      if condition then wp program post state else post (.ok ()) state := by
  cases condition <;> rfl

@[simp] theorem wp_attempt {post : Outcome ε (Except ε α) → σ → Prop}
    (program : Program σ ε α) :
    wp (attempt program) post state ↔
      wp program (fun outcome after =>
        match outcome with
        | .ok value => post (.ok (.ok value)) after
        | .error cause => post (.ok (.error cause)) after
        | .panic site => post (.panic site) after) state := by
  unfold wp attempt
  rcases program state with ⟨value | cause | site, after⟩ <;> rfl

/-- A program whose result is dropped. -/
theorem wp_attempt_drop {post : Outcome ε Unit → σ → Prop} {program : Program σ ε α}
    (holds : wp program (fun outcome after =>
      match outcome with
      | .panic site => post (.panic site) after
      | _ => post (.ok ()) after) state) :
    wp (attempt program >>= fun _ => Pure.pure ()) post state := by
  rw [wp_bind, wp_attempt]
  refine wp_mono holds ?_
  rintro (value | cause | site) after held
  · exact held
  · exact held
  · exact held

@[simp] theorem wp_ite {program other : Program σ ε β} (condition : Prop)
    [Decidable condition] :
    wp (if condition then program else other) post state ↔
      if condition then wp program post state else wp other post state := by
  split <;> rfl

@[simp] theorem wp_forEach_nil {post : Outcome ε Unit → σ → Prop}
    (body : α → Program σ ε Unit) :
    wp (forEach [] body) post state ↔ post (.ok ()) state := Iff.rfl

theorem wp_forEach_cons {post : Outcome ε Unit → σ → Prop} (body : α → Program σ ε Unit)
    (head : α) (tail : List α) :
    wp (forEach (head :: tail) body) post state ↔
      wp (body head) (andThen (fun _ => forEach tail body) post) state :=
  wp_bind (body head) fun _ => forEach tail body

/-- Loop rule. `invariant rest` holds whenever the elements `rest` are still to
be visited; a body that fails or panics ends the loop in `post`. -/
theorem wp_forEach {post : Outcome ε Unit → σ → Prop} {body : α → Program σ ε Unit}
    (invariant : List α → σ → Prop) (items : List α) (start : invariant items state)
    (iterate : ∀ head tail before, invariant (head :: tail) before →
      wp (body head) (fun outcome after =>
        match outcome with
        | .ok _ => invariant tail after
        | .error cause => post (.error cause) after
        | .panic site => post (.panic site) after) before)
    (finish : ∀ after, invariant [] after → post (.ok ()) after) :
    wp (forEach items body) post state := by
  induction items generalizing state with
  | nil => exact finish state start
  | cons head tail inductionHypothesis =>
      rw [wp_forEach_cons]
      refine wp_mono (iterate head tail state start) ?_
      rintro (value | cause | site) after holds
      · exact inductionHypothesis holds
      · exact holds
      · exact holds

@[simp] theorem wp_foldEach_nil (seed : β) (body : β → α → Program σ ε β) :
    wp (foldEach [] seed body) post state ↔ post (.ok seed) state := Iff.rfl

theorem wp_foldEach_cons (seed : β) (body : β → α → Program σ ε β) (head : α) (tail : List α) :
    wp (foldEach (head :: tail) seed body) post state ↔
      wp (body seed head) (andThen (fun next => foldEach tail next body) post) state :=
  wp_bind (body seed head) fun next => foldEach tail next body

/-- Loop rule with an accumulator. -/
theorem wp_foldEach {body : β → α → Program σ ε β} (invariant : List α → β → σ → Prop)
    (items : List α) (seed : β) (start : invariant items seed state)
    (iterate : ∀ head tail value before, invariant (head :: tail) value before →
      wp (body value head) (fun outcome after =>
        match outcome with
        | .ok next => invariant tail next after
        | .error cause => post (.error cause) after
        | .panic site => post (.panic site) after) before)
    (finish : ∀ value after, invariant [] value after → post (.ok value) after) :
    wp (foldEach items seed body) post state := by
  induction items generalizing seed state with
  | nil => exact finish seed state start
  | cons head tail inductionHypothesis =>
      rw [wp_foldEach_cons]
      refine wp_mono (iterate head tail seed state start) ?_
      rintro (next | cause | site) after holds
      · exact inductionHypothesis next holds
      · exact holds
      · exact holds

end Program

end Foundation
