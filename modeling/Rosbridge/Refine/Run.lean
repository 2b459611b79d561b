import Rosbridge.Protocol.Entities
import Rosbridge.Refine.Tick

/-!
Whole runs.

Owns: `Performed`, the effect of an operation that returns; when an operation can
panic; and the rule that carries an invariant over every run.
-/

set_option autoImplicit false

namespace Rosbridge

open Foundation Program

variable {env : Environment} {m after : Machine} {move : Move} {owner : Connection}

/-- What `shutdown` does. -/
def AllDropped (env : Environment) (origin after : Machine) : Prop :=
  ∃ middle connections, Follows (Transition env) Move.Reading origin middle ∧
    middle.bridge = origin.bridge ∧
    (∀ connection, connection ∈ origin.bridge.outputs → connection ∈ connections) ∧
    Drops env connections middle after

theorem shutdown_spec :
    wp (shutdown env) (fun outcome after => outcome = .ok () ∧ AllDropped env m after) m := by
  unfold shutdown
  have start : Follows (Transition env) Move.Reading m m := .refl m
  refine wp_bind_tables ?_
  refine wp_bind_visit env start (fun _ => trivial) fun outputs m₁ listed _ same reach => ?_
  refine wp_forEach_trail (fun entry => Dropped env entry.1) (fun entry _ before _ _ => ?_)
    fun after run => ⟨rfl, m₁, outputs.map Prod.fst, reach, same, ?_, ?_⟩
  · refine wp_mono disconnect_spec ?_
    rintro outcome after ⟨rfl, dropped⟩
    exact dropped
  · intro connection present
    obtain ⟨output, found⟩ := (AList.mem_iff_lookup _ _).mp present
    exact List.mem_map.mpr ⟨(connection, output), (listed _ _).mpr found, rfl⟩
  · exact Trail.map Prod.fst (fun _ _ _ dropped => dropped) run

/-- The effect of an operation that returns. -/
def Performed (env : Environment) : Operation → Machine → Machine → Prop
  | .connect connection, before, after => Transition env (.connected connection) before after
  | .command owner _, before, after => Follows (Transition env) (Move.By owner) before after
  | .tick, before, after =>
      (∃ cause, after = { before with log := before.log ++ [.poll (.error cause)] }) ∨
        ∃ events, Ticked env events before after
  | .disconnect owner, before, after => Dropped env owner before after
  | .shutdown, before, after => AllDropped env before after

/-- What an operation that panics ran into. -/
def Hits (env : Environment) : Operation → Machine → Machine → Prop
  | .command _ v, before, after =>
      ∃ duration, Timed before.bridge (.obj v) duration ∧ Overflows env duration before after
  | .tick, before, after =>
      ∃ events, env.poll before.log = .ok events ∧
        ((∃ event ∈ events, event.Hidden) ∨ Overflows env before.bridge.timeout before after)
  | _, _, _ => False

theorem Shaped.serves (shaped : Shaped m) : m.bridge.Served := fun key goal found => by
  obtain ⟨server, serves, -⟩ := shaped.served key goal found
  exact (AList.mem_iff_lookup _ _).mpr ⟨server, serves⟩

theorem perform_spec (op : Operation) (shaped : Shaped m) :
    wp (perform env op)
      (fun outcome after =>
        match outcome with
        | .panic _ => Hits env op m after
        | _ => Performed env op m after) m := by
  cases op with
  | connect connection =>
      exact Move.transition (.connected connection) rfl trivial
  | command owner v =>
      refine wp_mono (command_ends shaped.serves) ?_
      rintro (value | cause | site) after ends
      · exact Follows.mono ends fun _ => Move.Under.by
      · exact Follows.mono ends fun _ => Move.Under.by
      · exact ends
  | tick =>
      refine wp_mono tick_spec ?_
      rintro (value | cause | site) after ends
      · exact .inr ends
      · exact .inl ⟨cause, ends⟩
      · exact ends
  | disconnect owner =>
      refine wp_mono disconnect_spec ?_
      rintro outcome after ⟨rfl, dropped⟩
      exact dropped
  | shutdown =>
      refine wp_mono shutdown_spec ?_
      rintro outcome after ⟨rfl, dropped⟩
      exact dropped

/-- An operation that panics ran into a deadline or a response out of range. -/
theorem panicked (op : Operation) (shaped : Shaped m) (panics : (perform env op m).1.IsPanic) :
    Hits env op m (perform env op m).2 := by
  have spec : wp (perform env op) _ m := perform_spec op shaped
  rw [wp_iff] at spec
  rcases run : perform env op m with ⟨value | cause | site, last⟩
  · rw [run] at panics
    exact panics.elim
  · rw [run] at panics
    exact panics.elim
  · rw [run] at spec
    exact spec

/-! ### Moves inside an operation -/

theorem Move.Inner.keeps_outputs (inner : move.Inner) (b : Bridge) :
    (move.effect b).outputs = b.outputs := by
  cases move <;> first | rfl | exact inner.elim

theorem Move.Inner.keeps_failed (inner : move.Inner) (b : Bridge) :
    (move.effect b).failed = b.failed := by
  cases move <;> first | rfl | exact inner.elim

theorem Move.By.inner (by' : move.By owner) : move.Inner := by
  cases move <;> trivial

theorem Move.Reading.inner (reading : move.Reading) : move.Inner := by
  cases move <;> trivial

theorem Move.OnTime.inner (onTime : move.OnTime) : move.Inner := by
  cases move <;> trivial

theorem Move.Releasing.inner (releasing : move.Releasing owner) : move.Inner := by
  rcases releasing with pass | pass | pass | pass | pass | pass | rfl
  all_goals try (cases move <;> trivial)
  trivial

/-! ### Operations as runs of moves -/

/-- The moves an operation may take. Those of commands need a command of their owner. -/
def Move.During : Operation → Move → Prop
  | .connect connection, move => move = .connected connection
  | .command owner _, move => move.By owner
  | .tick, move => ¬ move.Commanded
  | .disconnect owner, move => move = .left owner ∨ move.Releasing owner
  | .shutdown, move => move.Reading ∨ ∃ owner, move = .left owner ∨ move.Releasing owner

theorem Move.Reading.free (reading : move.Reading) : ¬ move.Commanded := by
  cases move <;> first | exact id | exact reading.elim

theorem Move.OnTime.free (onTime : move.OnTime) : ¬ move.Commanded := by
  cases move <;> first | exact id | exact onTime.elim

theorem Move.Releasing.free (releasing : move.Releasing owner) : ¬ move.Commanded := by
  rcases releasing with pass | pass | pass | pass | pass | pass | rfl
  all_goals try (cases move <;> first | exact id | exact pass.elim)
  exact id

theorem Dropped.during (dropped : Dropped env owner m after) :
    Follows (Transition env) (Move.During (.disconnect owner)) m after := by
  obtain ⟨gone, left, reach, -, -⟩ := dropped
  exact (Follows.single left (.inl rfl)).trans (reach.mono fun _ => .inr)

theorem Move.During.free (during : move.During (.disconnect owner)) : ¬ move.Commanded := by
  rcases during with rfl | releasing
  · exact id
  · exact releasing.free

/-- Only commands take the moves of commands. -/
theorem Move.During.uncommanded {op : Operation} (during : move.During op)
    (other : ∀ owner v, op ≠ .command owner v) : ¬ move.Commanded := by
  cases op with
  | connect connection =>
      obtain rfl : move = .connected connection := during
      exact id
  | command owner v => exact absurd rfl (other owner v)
  | tick => exact during
  | disconnect owner => exact Move.During.free during
  | shutdown =>
      rcases during with reading | ⟨owner, pass⟩
      · exact reading.free
      · exact Move.During.free pass

theorem Drops.during {connections : List Connection} (drops : Drops env connections m after) :
    Follows (Transition env) (fun move => ∃ owner, move.During (.disconnect owner)) m after := by
  induction drops with
  | nil => exact .refl _
  | cons dropped _ inductionHypothesis =>
      exact (dropped.during.mono fun _ pass => ⟨_, pass⟩).trans inductionHypothesis

/-- Moves of a tick after its events. -/
def Move.AfterEvents (move : Move) : Prop :=
  move.OnTime ∨ move.Reading ∨ move = .failuresTaken ∨ (∃ readings, move = .probed readings) ∨
    ∃ owner, move.During (.disconnect owner)

theorem Move.AfterEvents.free (pass : move.AfterEvents) : ¬ move.Commanded := by
  rcases pass with onTime | reading | rfl | ⟨readings, rfl⟩ | ⟨owner, during⟩
  · exact onTime.free
  · exact reading.free
  · exact id
  · exact id
  · exact during.free

/-- A tick polls, handles the events, and then drops what is overdue. -/
theorem Ticked.phases {events : List Event} (ticked : Ticked env events m after) :
    ∃ polled handled, Transition env (.polled events) m polled ∧
      Batch env events polled handled ∧
      Follows (Transition env) Move.AfterEvents handled after := by
  obtain ⟨polled, handled, timed, cleaned, taken, batch, waited, failed, closed⟩ := ticked
  obtain ⟨m₁, m₂, connections, looked, -, emptied, -, drops⟩ := failed
  obtain ⟨m₃, readings, m₄, others, looked', -, asked, -, -, drops'⟩ := closed
  have dropAll {connections : List Connection} {before last : Machine}
      (drops : Drops env connections before last) :
      Follows (Transition env) Move.AfterEvents before last :=
    drops.during.mono fun _ pass => .inr (.inr (.inr (.inr pass)))
  refine ⟨polled, handled, taken, batch, ?_⟩
  refine (waited.mono fun _ => .inl).trans ?_
  refine (looked.mono fun _ => .inr ∘ .inl).trans ?_
  refine (Follows.single emptied (.inr (.inr (.inl rfl)))).trans ((dropAll drops).trans ?_)
  refine (looked'.mono fun _ => .inr ∘ .inl).trans ?_
  exact (Follows.single asked (.inr (.inr (.inr (.inl ⟨readings, rfl⟩))))).trans (dropAll drops')

theorem Performed.during {op : Operation} (performed : Performed env op m after) :
    Follows (Transition env) (Move.During op) m after := by
  cases op with
  | connect connection => exact .single performed rfl
  | command owner v => exact performed
  | tick =>
      rcases performed with ⟨cause, rfl⟩ | ⟨events, ticked⟩
      · exact Move.observe (.refl m) id (by simp [Entry.Inert])
      · obtain ⟨polled, handled, taken, batch, rest⟩ := ticked.phases
        exact (Follows.single taken id).trans <| (batch.follows.mono fun _ => And.right).trans
          (rest.mono fun _ => Move.AfterEvents.free)
  | disconnect owner => exact Dropped.during performed
  | shutdown =>
      obtain ⟨middle, connections, looked, -, -, drops⟩ := performed
      exact (looked.mono fun _ => .inl).trans (drops.during.mono fun _ => .inr)

theorem Performed.follows {op : Operation} (performed : Performed env op m after) :
    Follows (Transition env) (fun _ => True) m after :=
  performed.during.mono fun _ _ => trivial

theorem Follows.shaped {passes : Move → Prop} (reach : Follows (Transition env) passes m after)
    (shaped : Shaped m) : Shaped after := by
  obtain ⟨labels, run, -⟩ := reach
  induction run with
  | nil => exact shaped
  | cons taken _ inductionHypothesis => exact inductionHypothesis (taken.shaped shaped)

/-- Carry an invariant over one operation. A connection is dropped in one piece. -/
theorem Performed.invariant {op : Operation} (inv : Machine → Prop)
    (performed : Performed env op m after) (shaped : Shaped m)
    (inner : ∀ move before after, Shaped before → Move.Inner move →
      Transition env move before after → inv before → inv after)
    (connected : ∀ connection before after, op = .connect connection → Shaped before →
      Transition env (.connected connection) before after → inv before → inv after)
    (emptied : ∀ before after, Shaped before → Transition env .failuresTaken before after →
      inv before → inv after)
    (probed : ∀ readings before after, Shaped before →
      Transition env (.probed readings) before after → inv before → inv after)
    (dropped : ∀ owner before after, Shaped before → Dropped env owner before after →
      inv before → inv after)
    (held : inv m) : inv after := by
  have through {before last : Machine} (run : Follows (Transition env) Move.Inner before last)
      (held : Shaped before ∧ inv before) : Shaped last ∧ inv last :=
    run.invariant (fun machine => Shaped machine ∧ inv machine)
      (fun move before after pass taken held =>
        ⟨taken.shaped held.1, inner move before after held.1 pass taken held.2⟩) held
  have drop {owner : Connection} {before last : Machine} (gone : Dropped env owner before last)
      (held : Shaped before ∧ inv before) : Shaped last ∧ inv last :=
    ⟨Follows.shaped gone.during held.1, dropped owner before last held.1 gone held.2⟩
  have dropAll {connections : List Connection} {before last : Machine}
      (gone : Drops env connections before last) :
      Shaped before ∧ inv before → Shaped last ∧ inv last := by
    induction gone with
    | nil => exact id
    | cons head _ inductionHypothesis => exact fun held => inductionHypothesis (drop head held)
  suffices Shaped after ∧ inv after from this.2
  have start : Shaped m ∧ inv m := ⟨shaped, held⟩
  cases op with
  | connect connection =>
      exact ⟨Transition.shaped performed shaped, connected _ _ _ rfl shaped performed held⟩
  | command owner v => exact through (performed.mono fun _ => Move.By.inner) start
  | tick =>
      rcases performed with ⟨cause, rfl⟩ |
        ⟨events, polled, handled, timed, cleaned, taken, batch, waited, failed, closed⟩
      · have noted : Follows (Transition env) Move.Inner m
            { m with log := m.log ++ [.poll (.error cause)] } :=
          Move.observe (.refl m) trivial (by simp [Entry.Inert])
        exact through noted start
      · obtain ⟨m₁, m₂, connections, looked, -, taken₂, -, drops⟩ := failed
        obtain ⟨m₃, readings, m₄, others, looked', -, asked, -, -, drops'⟩ := closed
        have atPoll := through (.single taken trivial) start
        have atBatch := through (batch.follows.mono fun _ => And.left) atPoll
        have atTime := through (waited.mono fun _ => Move.OnTime.inner) atBatch
        have atLook := through (looked.mono fun _ => Move.Reading.inner) atTime
        have atTaken : Shaped m₂ ∧ inv m₂ :=
          ⟨taken₂.shaped atLook.1, emptied _ _ atLook.1 taken₂ atLook.2⟩
        have atClean := dropAll drops atTaken
        have atLook' := through (looked'.mono fun _ => Move.Reading.inner) atClean
        have atAsked : Shaped m₄ ∧ inv m₄ :=
          ⟨asked.shaped atLook'.1, probed _ _ _ atLook'.1 asked atLook'.2⟩
        exact dropAll drops' atAsked
  | disconnect owner => exact drop performed start
  | shutdown =>
      obtain ⟨middle, connections, looked, -, -, drops⟩ := performed
      exact dropAll drops (through (looked.mono fun _ => Move.Reading.inner) start)

/-- Carry an invariant of single moves over a run with fresh identifiers. -/
theorem Follows.carry {passes : Move → Prop} {inv : Machine → Prop}
    (reach : Follows (Transition env) passes m after)
    (preserves : ∀ move before after, Transition env move before after → Shaped before →
      Fresh after.log → inv before → inv after)
    (shaped : Shaped m) (fresh : Fresh after.log) (held : inv m) : inv after := by
  obtain ⟨labels, run, -⟩ := reach
  refine (Trail.invariant (fun m => Fresh m.log) (fun m => Shaped m ∧ inv m) ?_ ?_ run fresh
    ⟨shaped, held⟩).2
  · exact fun _ _ _ taken fresh => fresh.inherit taken.log_grows
  · exact fun move before after taken fresh held =>
      ⟨taken.shaped held.1, preserves move before after taken held.1 fresh held.2⟩

/-- Carry an invariant over the moves of one operation with fresh identifiers. -/
theorem Performed.carry {op : Operation} (inv : Machine → Prop)
    (performed : Performed env op m after)
    (preserves : ∀ move before after, move.During op → Transition env move before after →
      Shaped before → m.log <+: before.log → Fresh after.log → inv before → inv after)
    (shaped : Shaped m) (fresh : Fresh after.log) (held : inv m) : inv after := by
  refine (Foundation.Follows.inherited (fun m => Fresh m.log)
    (fun middle => Shaped middle ∧ m.log <+: middle.log ∧ inv middle) performed.during ?_ ?_ fresh
    ⟨shaped, List.prefix_rfl, held⟩).2.2
  · exact fun _ _ _ taken fresh => fresh.inherit taken.log_grows
  · rintro move before last pass taken fresh ⟨shaped, grown, held⟩
    exact ⟨taken.shaped shaped, grown.trans taken.log_grows,
      preserves move before last pass taken shaped grown fresh held⟩

/-! ### Runs -/

section Runs

variable {admits : Operation → Machine → Prop} {start : Machine}

/-- The step from one state of a run to the next. -/
theorem performed_next (op : Operation) (shaped : Shaped m)
    (returns : ¬ (perform env op m).1.IsPanic) : Performed env op m (m.next env op) := by
  have spec : wp (perform env op) _ m := perform_spec op shaped
  rw [wp_iff] at spec
  unfold Machine.next
  rcases run : perform env op m with ⟨value | cause | site, last⟩
  · rw [run] at spec
    exact spec
  · rw [run] at spec
    exact spec
  · rw [run] at returns
    exact absurd trivial returns

/-- The moves of a command that returns. -/
theorem command_next {v : Object} (shaped : Shaped m)
    (returns : ¬ (perform env (.command owner v) m).1.IsPanic) :
    Follows (Transition env) (Move.Under owner (.obj v)) m (m.next env (.command owner v)) := by
  have spec : wp (perform env (.command owner v)) _ m := command_ends shaped.serves
  rw [wp_iff] at spec
  unfold Machine.next
  rcases run : perform env (.command owner v) m with ⟨value | cause | site, last⟩
  · rw [run] at spec
    exact spec
  · rw [run] at spec
    exact spec
  · rw [run] at returns
    exact absurd trivial returns

theorem Onward.shaped (reached : Onward env admits start m) (shaped : Shaped start) : Shaped m := by
  induction reached with
  | here => exact shaped
  | step op _ returns _ inductionHypothesis =>
      exact Follows.shaped (performed_next op inductionHypothesis returns).follows
        inductionHypothesis

/-- Carry an invariant over every run. `allowed` is a condition that every earlier
state of a run inherits. -/
theorem Onward.invariant (allowed inv : Machine → Prop) (reached : Onward env admits start m)
    (last : allowed m)
    (inherits : ∀ before after, before.log <+: after.log → allowed after → allowed before)
    (step : ∀ op before after, admits op before → Shaped before → allowed after →
      Performed env op before after → inv before → inv after)
    (shaped : Shaped start) (held : inv start) : inv m := by
  induction reached with
  | here => exact held
  | @step before op reached returns admitted inductionHypothesis =>
      have performed := performed_next op (reached.shaped shaped) returns
      have grown := reach_log_grows performed.follows
      exact step op before _ admitted (reached.shaped shaped) last performed
        (inductionHypothesis (inherits _ _ grown last))

/-- Carry an invariant that needs no condition. -/
theorem Onward.always (inv : Machine → Prop) (reached : Onward env admits start m)
    (step : ∀ op before after, admits op before → Shaped before →
      Performed env op before after → inv before → inv after)
    (shaped : Shaped start) (held : inv start) : inv m :=
  reached.invariant (fun _ => True) inv trivial (fun _ _ _ => id)
    (fun op before after admitted shaped _ => step op before after admitted shaped) shaped held

/-- Carry an invariant of single moves over every run with fresh identifiers. -/
theorem Onward.carry {inv : Machine → Prop} (reached : Onward env admits start m)
    (fresh : Fresh m.log)
    (preserves : ∀ move before after, Transition env move before after → Shaped before →
      Fresh after.log → inv before → inv after)
    (shaped : Shaped start) (held : inv start) : inv m :=
  reached.invariant (fun m => Fresh m.log) inv fresh (fun _ _ grown fresh => fresh.inherit grown)
    (fun _ _ _ _ shaped fresh performed held =>
      Follows.carry performed.follows preserves shaped fresh held)
    shaped held

/-- The runs that continue from a machine. -/
abbrev Continues (env : Environment) : Machine → Machine → Prop := Onward env fun _ _ => True

theorem Continues.trans {last : Machine} (first : Continues env start m)
    (rest : Continues env m last) : Continues env start last := by
  induction rest with
  | here => exact first
  | step op _ returns admitted inductionHypothesis =>
      exact .step op inductionHypothesis returns admitted

variable {access : Access} {timeout : Duration}

theorem ReachableBy.balanced (reached : ReachableBy env admits access timeout m)
    (fresh : Fresh m.log) : Balanced m :=
  Onward.carry reached fresh (fun _ _ _ taken => taken.balanced) (shaped_new access timeout)
    (balanced_new access timeout)

end Runs

end Rosbridge
