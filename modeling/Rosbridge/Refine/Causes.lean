import Rosbridge.Refine.Run

/-!
Why a bridge takes its moves.

Owns: `Cause`, the occasion of a move; what each cause allows; and that every operation is a
run of moves with their causes, the events of a tick in the order of the poll.
-/

set_option autoImplicit false

namespace Rosbridge

open Foundation Program

/-! ### Causes -/

/-- The occasion of a move. -/
inductive Cause where
  | connect (connection : Connection)
  | command (owner : Connection) (v : Json)
  | poll
  | event (event : Event)
  | time (now : Instant)
  | upkeep
  | disconnect (owner : Connection)

/-- What the history since `base` says of a cause. -/
def Cause.Noted (base log : History) : Cause → Prop
  | .event occurrence => ∃ entries events, log = base ++ entries ∧ .poll (.ok events) ∈ entries ∧
      occurrence ∈ events
  | .time now => ∃ entries, log = base ++ entries ∧ .instant now ∈ entries
  | _ => True

/-- The moves that a cause allows in a state. -/
def Cause.Allows (m : Machine) (move : Move) : Cause → Prop
  | connect connection => move = .connected connection
  | command owner v => move.Under owner v
  | poll => move.Reading ∨ ∃ events, move = .polled events
  | event (.message entity sample) => move.Carries entity sample
  | event (.response entity sequence values) =>
      (∃ call shown, m.bridge.calls.lookup (entity, sequence) = some call ∧
        visibleValues m.bridge.access call values = some shown ∧
        move = .replied (entity, sequence) call shown) ∨
      ∃ call, m.bridge.actionCalls.lookup (entity, sequence) = some call ∧
        move.Replies (entity, sequence) values call
  | event (.request entity request _) =>
      move.Unsettling ∨ move.settles = some (entity, request) ∨ move = .discarded entity request
  | time now => move.Due now
  | upkeep => move.Reading ∨ move = .failuresTaken ∨ ∃ readings, move = .probed readings
  | disconnect owner => move = .left owner ∨ move.Releasing owner

/-- A move with its cause, in an operation that began with the history `base`. -/
structure Caused (env : Environment) (base : History) (label : Cause × Move)
    (before after : Machine) : Prop where
  noted : label.1.Noted base before.log
  allowed : label.1.Allows before label.2
  taken : Transition env label.2 before after

/-- The causes within an operation. -/
def Cause.Within : Operation → Cause → Prop
  | .connect connection, cause => cause = .connect connection
  | .command owner v, cause => cause = .command owner (.obj v)
  | .tick, cause =>
      match cause with
      | connect _ | command _ _ => False
      | _ => True
  | .disconnect owner, cause => cause = .disconnect owner
  | .shutdown, cause => cause = .upkeep ∨ ∃ owner, cause = .disconnect owner

/-- Causes that neither connect a client nor poll nor bring a response. -/
def Cause.Calm : Cause → Prop
  | connect _ | poll | event (.response _ _ _) => False
  | _ => True

/-- Moves that connect, poll, answer a call or end what is overdue. -/
def Move.Rare : Move → Prop
  | connected _ | polled _ | replied _ _ _ | expired _ _ _ | requestExpired _ _ => True
  | _ => False

variable {env : Environment} {base : History} {m origin after : Machine} {cause : Cause}
  {passes : Move → Prop}

theorem Cause.Noted.grow {before after : History} (noted : cause.Noted base before)
    (grown : before <+: after) : cause.Noted base after := by
  obtain ⟨more, rfl⟩ := grown
  cases cause with
  | event event =>
      obtain ⟨entries, events, rfl, polled, member⟩ := noted
      exact ⟨entries ++ more, events, List.append_assoc _ _ _, List.mem_append_left _ polled,
        member⟩
  | time now =>
      obtain ⟨entries, rfl, read⟩ := noted
      exact ⟨entries ++ more, List.append_assoc _ _ _, List.mem_append_left _ read⟩
  | connect _ => trivial
  | command _ _ => trivial
  | poll => trivial
  | upkeep => trivial
  | disconnect _ => trivial

/-- Calm causes leave such moves to the clock. -/
theorem Cause.Allows.timed {move : Move} (allowed : cause.Allows m move) (calm : cause.Calm)
    (rare : move.Rare) : ∃ now, cause = .time now ∧ move.Due now := by
  cases cause with
  | connect connection => exact calm.elim
  | command owner v =>
      have own := allowed.by
      cases move <;> first | exact rare.elim | exact own.elim
  | poll => exact calm.elim
  | event event =>
      cases event with
      | message entity sample => cases move <;> first | exact rare.elim | exact allowed.elim
      | response entity sequence values => exact calm.elim
      | request entity number args =>
          rcases allowed with unsettling | settles | rfl
          · cases move <;> first | exact rare.elim | exact unsettling.elim
          · cases move <;> first | exact rare.elim | cases settles
          · exact rare.elim
  | time now => exact ⟨now, rfl, allowed⟩
  | upkeep =>
      rcases allowed with reading | rfl | ⟨readings, rfl⟩
      · cases move <;> first | exact rare.elim | exact reading.elim
      · exact rare.elim
      · exact rare.elim
  | disconnect owner =>
      rcases allowed with rfl | pass | pass | pass | pass | pass | pass | rfl
      · exact rare.elim
      all_goals first | exact rare.elim | (cases move <;> first | exact rare.elim | exact pass.elim)

/-- Only the failed command itself is answered. -/
theorem Cause.Allows.refused {owner : Connection} {v : Json} {failure : Error}
    (allowed : cause.Allows m (.refused owner v failure)) : cause = .command owner v := by
  cases cause with
  | connect connection => cases allowed
  | command other request =>
      rcases allowed with beside | ⟨cause, ⟨⟩⟩ | ⟨-, pass⟩ | ⟨-, pass⟩ | ⟨-, pass⟩
      · exact beside.elim
      · rfl
      all_goals exact pass.elim
  | poll =>
      rcases allowed with reading | ⟨events, ⟨⟩⟩
      exact reading.elim
  | event event =>
      cases event with
      | message entity sample => exact allowed.elim
      | response entity sequence values =>
          rcases allowed with ⟨call, shown, -, -, ⟨⟩⟩ | ⟨call, -, replies⟩
          cases replies
      | request entity number args =>
          rcases allowed with unsettling | ⟨⟨⟩⟩ | ⟨⟨⟩⟩
          exact unsettling.elim
  | time now => exact allowed.elim
  | upkeep =>
      rcases allowed with reading | ⟨⟨⟩⟩ | ⟨readings, ⟨⟩⟩
      exact reading.elim
  | disconnect other =>
      rcases allowed with ⟨⟨⟩⟩ | pass | pass | pass | pass | pass | pass | ⟨⟨⟩⟩
      all_goals exact pass.elim

/-- A run whose moves a cause allows in every state. -/
theorem Follows.because (cause : Cause) (run : Follows (Transition env) passes m after)
    (noted : cause.Noted base m.log)
    (allows : ∀ move before, passes move → cause.Allows before move) :
    Follows (Caused env base) (fun label => label.1 = cause) m after := by
  obtain ⟨labels, run, pass⟩ := run
  induction run with
  | nil => exact .refl _
  | @cons label _ start middle finish taken _ inductionHypothesis =>
      have first : Caused env base (cause, label) start middle :=
        ⟨noted, allows label start (pass label List.mem_cons_self), taken⟩
      have rest := inductionHypothesis (noted.grow taken.log_grows) fun other member =>
        pass other (List.mem_cons_of_mem _ member)
      exact Follows.trans (.single first rfl) rest

/-- Without their causes the moves are a run. -/
theorem Follows.moves {allowed : Cause × Move → Prop}
    (run : Follows (Caused env base) allowed m after) :
    Follows (Transition env) (fun _ => True) m after := by
  obtain ⟨labels, run, -⟩ := run
  exact ⟨labels.map Prod.snd, run.map Prod.snd fun _ _ _ caused => caused.taken,
    fun _ _ => trivial⟩

/-- The entries of a move follow those of its message. -/
theorem Transition.adds {move : Move} (taken : Transition env move m after) :
    ∃ said, after.log = m.log ++ (said ++ move.entries) ∧ ∀ entry ∈ said, ¬ entry.Silent := by
  obtain ⟨middle, sent, -, rfl⟩ := taken
  generalize move.message = handed at sent
  cases sent with
  | silent => exact ⟨[], rfl, by simp⟩
  | @muted message _ failed =>
      exact ⟨[message.entry], List.append_assoc _ _ _, by simp [Message.entry, Entry.Silent]⟩
  | @unrouted message _ absent =>
      exact ⟨[message.entry], List.append_assoc _ _ _, by simp [Message.entry, Entry.Silent]⟩
  | @queued message _ output found operation topic queue request =>
      refine ⟨[message.entry, .sendRequest output operation topic queue request (.ok ())], ?_,
        by simp [Message.entry, Entry.Silent]⟩
      simp only [List.append_assoc, List.cons_append, List.nil_append]
  | @rejected message _ output found operation topic queue request cause =>
      refine ⟨[message.entry, .sendRequest output operation topic queue request (.error cause)],
        ?_, by simp [Message.entry, Entry.Silent]⟩
      simp only [List.append_assoc, List.cons_append, List.nil_append]

/-! ### Events -/

section Events

variable {entity : Entity} {sequence : Int} {values : Json}

/-- One event, as a run of the moves it causes. -/
abbrev EventCaused (env : Environment) (base : History) (event : Event) :
    Machine → Machine → Prop :=
  Follows (Caused env base) fun label => label.1 = .event event

theorem response_caused (noted : (Cause.event (.response entity sequence values)).Noted base m.log) :
    wp (response env entity sequence values)
      (fun outcome after =>
        match outcome with
        | .panic _ => True
        | _ => EventCaused env base (.response entity sequence values) m after) m := by
  have once {move : Move} {after : Machine}
      (allowed : (Cause.event (.response entity sequence values)).Allows m move)
      (taken : Transition env move m after) :
      EventCaused env base (.response entity sequence values) m after :=
    have caused : Caused env base (.event (.response entity sequence values), move) m after :=
      ⟨noted, allowed, taken⟩
    .single caused rfl
  unfold response
  refine wp_bind_tables ?_
  cases found : m.bridge.calls.lookup (entity, sequence) with
  | some call =>
      refine wp_mono (callResponse_spec found) ?_
      rintro (value | cause | site) after spec
      · obtain ⟨shown, visible, taken⟩ := spec
        exact once (.inl ⟨call, shown, found, visible, rfl⟩) taken
      · exact spec.elim
      · trivial
  | none =>
      refine wp_bind_tables ?_
      cases pending : m.bridge.actionCalls.lookup (entity, sequence) with
      | none => exact .refl m
      | some call =>
          refine wp_mono (actionResponse_replied pending) ?_
          rintro (value | cause | site) after replied
          · obtain ⟨move, replies, taken⟩ := replied
            exact once (.inr ⟨call, pending, replies⟩) taken
          · obtain ⟨move, replies, taken⟩ := replied
            exact once (.inr ⟨call, pending, replies⟩) taken
          · trivial

theorem Processed.caused {request : Nat} {args : Json}
    (processed : Processed env (entity, request) m after)
    (noted : (Cause.event (.request entity request args)).Noted base m.log) :
    EventCaused env base (.request entity request args) m after := by
  have unsettling {before last : Machine} (grown : m.log <+: before.log)
      (run : Follows (Transition env) Move.Unsettling before last) :
      EventCaused env base (.request entity request args) before last :=
    Follows.because _ run (noted.grow grown) fun _ _ => .inl
  have settled {last : Machine} (settles : Settles env (entity, request) m last) :
      EventCaused env base (.request entity request args) m last := by
    obtain ⟨middle, next, move, first, taken, about, rest⟩ := settles
    have grown := reach_log_grows first
    have grown' := grown.trans taken.log_grows
    refine ((unsettling List.prefix_rfl first).trans (Follows.because _
      (Follows.single taken about) (noted.grow grown) fun _ _ settles =>
        .inr (.inl settles))).trans ?_
    exact unsettling grown' rest
  rcases processed with settles | ⟨run, -⟩ | ⟨middle, run | answers, taken⟩
  · exact settled settles
  · exact unsettling List.prefix_rfl run
  · refine (unsettling List.prefix_rfl run).trans (Follows.because _
      (Follows.single taken rfl) (noted.grow (reach_log_grows run)) fun _ _ same =>
        .inr (.inr same.symm))
  · have before := settled answers.settles
    refine before.trans (Follows.because _ (Follows.single taken rfl)
      (noted.grow (reach_log_grows (Follows.moves before))) fun _ _ same => .inr (.inr same.symm))

/-- The moves that handling an event takes. -/
theorem handleEvent_caused {event : Event} (noted : (Cause.event event).Noted base m.log) :
    wp (handleEvent env event)
      (fun outcome after =>
        match outcome with
        | .ok _ => EventCaused env base event m after
        | .error _ => False
        | .panic _ => True) m := by
  cases event with
  | message entity sample =>
      show wp (attempt (topicMessage env entity sample) >>= fun _ => pure ()) _ m
      rw [wp_bind, wp_attempt]
      refine wp_mono (topicMessage_ends (.refl m)) ?_
      rintro (value | cause | site) after ends
      · exact Follows.because _ ends noted fun _ _ => id
      · exact Follows.because _ ends noted fun _ _ => id
      · trivial
  | response entity sequence values =>
      show wp (attempt (response env entity sequence values) >>= fun _ => pure ()) _ m
      rw [wp_bind, wp_attempt]
      refine wp_mono (response_caused noted) ?_
      rintro (value | cause | site) after ends
      · exact ends
      · exact ends
      · trivial
  | request entity request args =>
      refine wp_mono requestEvent_processed ?_
      rintro (value | cause | site) after ends
      · exact ends.caused noted
      · exact ends
      · trivial

end Events

/-! ### Operations -/

/-- One event: the moves it causes, and what it does. -/
structure EventTaken (env : Environment) (base : History) (event : Event) (before after : Machine) :
    Prop where
  caused : EventCaused env base event before after
  done : EventDone env before after event

/-- The events of a poll, one after the other. -/
abbrev BatchCaused (env : Environment) (base : History) : List Event → Machine → Machine → Prop :=
  Trail (EventTaken env base)

theorem BatchCaused.caused {events : List Event} (batch : BatchCaused env base events m after) :
    Follows (Caused env base) (fun label => ∃ event ∈ events, label.1 = .event event) m after := by
  induction batch with
  | nil => exact .refl _
  | cons taken _ inductionHypothesis =>
      refine (taken.caused.mono fun _ same => ⟨_, List.mem_cons_self, same⟩).trans
        (inductionHypothesis.mono ?_)
      rintro label ⟨event, member, same⟩
      exact ⟨event, List.mem_cons_of_mem _ member, same⟩

/-- A tick whose poll succeeded, with the causes of its moves. -/
structure TickCaused (env : Environment) (now : Instant) (events : List Event)
    (origin polled handled timed after : Machine) : Prop where
  poll : polled = { origin with log := origin.log ++ [.poll (.ok events)] }
  batch : BatchCaused env origin.log events polled handled
  waited : Follows (Caused env origin.log)
    (fun label => label.1 = .upkeep ∨ label.1 = .time now) handled timed
  dropped : Follows (Caused env origin.log)
    (fun label => label.1 = .upkeep ∨ ∃ owner, label.1 = .disconnect owner) timed after

theorem Dropped.caused {owner : Connection} (dropped : Dropped env owner m after) :
    Follows (Caused env base) (fun label => label.1 = .disconnect owner) m after := by
  obtain ⟨gone, left, reach, -, -⟩ := dropped
  exact (Follows.because (.disconnect owner) (Follows.single left rfl) trivial
    fun _ _ same => .inl same.symm).trans
      (Follows.because (.disconnect owner) reach trivial fun _ _ => .inr)

theorem Drops.caused {connections : List Connection} (drops : Drops env connections m after) :
    Follows (Caused env base) (fun label => ∃ owner, label.1 = .disconnect owner) m after := by
  induction drops with
  | nil => exact .refl _
  | cons dropped _ inductionHypothesis =>
      exact (dropped.caused.mono fun _ same => ⟨_, same⟩).trans inductionHypothesis

theorem TickSettled.caused (settled : TickSettled env m after) (grown : base <+: m.log) :
    ∃ now timed,
      Follows (Caused env base) (fun label => label.1 = .upkeep ∨ label.1 = .time now) m timed ∧
      Follows (Caused env base)
        (fun label => label.1 = .upkeep ∨ ∃ owner, label.1 = .disconnect owner) timed after := by
  obtain ⟨now, looked, timed, cleaned, rfl, waited, failed, closed⟩ := settled
  obtain ⟨m₁, m₂, connections, asked, -, emptied, -, drops⟩ := failed
  obtain ⟨m₃, readings, m₄, others, asked', -, probed, -, -, drops'⟩ := closed
  have upkeep {passes : Move → Prop} {before last : Machine}
      (run : Follows (Transition env) passes before last)
      (allows : ∀ move before, passes move → Cause.upkeep.Allows before move) :
      Follows (Caused env base) (fun label => label.1 = .upkeep) before last :=
    Follows.because .upkeep run trivial allows
  have dropping {before last : Machine}
      (run : Follows (Caused env base) (fun label => label.1 = .upkeep) before last) :
      Follows (Caused env base)
        (fun label => label.1 = .upkeep ∨ ∃ owner, label.1 = .disconnect owner) before last :=
    run.mono fun _ => .inl
  have read : Follows (Transition env) Move.Reading m
      { m with log := m.log ++ [.instant now] } :=
    Move.observe (.refl m) trivial (by simp [Entry.Inert])
  have noted : (Cause.time now).Noted base (m.log ++ [.instant now]) := by
    obtain ⟨entries, same⟩ := grown
    exact ⟨entries ++ [.instant now], by rw [← same, List.append_assoc], by simp⟩
  refine ⟨now, timed, ?_, ?_⟩
  · exact ((upkeep read fun _ _ => .inl).mono fun _ => .inl).trans
      ((Follows.because (.time now) waited noted fun _ _ => id).mono fun _ => .inr)
  · refine (dropping (upkeep asked fun _ _ => .inl)).trans ?_
    refine (dropping (upkeep (Follows.single emptied rfl) fun _ _ same =>
      .inr (.inl same.symm))).trans ?_
    refine (drops.caused.mono fun _ => .inr).trans ?_
    refine (dropping (upkeep asked' fun _ _ => .inl)).trans ?_
    refine (dropping (upkeep (Follows.single probed rfl) fun _ _ same =>
      .inr (.inr ⟨readings, same.symm⟩))).trans ?_
    exact drops'.caused.mono fun _ => .inr

theorem tick_caused :
    wp (tick env)
      (fun outcome after =>
        match outcome with
        | .ok _ => ∃ now events polled handled timed,
            TickCaused env now events m polled handled timed after
        | .error cause => after = { m with log := m.log ++ [.poll (.error cause)] }
        | .panic _ => True) m := by
  unfold tick Backend.poll
  refine wp_bind_call (fun _ _ => rfl) fun events answered => ?_
  generalize poll : ({ m with log := m.log ++ [.poll (.ok events)] } : Machine) = polled
  have noted (event : Event) (member : event ∈ events) :
      (Cause.event event).Noted m.log polled.log :=
    ⟨[.poll (.ok events)], events, by rw [← poll], List.mem_singleton_self _, member⟩
  rw [wp_bind]
  refine wp_forEach_trail (EventTaken env m.log) (fun event member before done run => ?_)
    fun handled batch => ?_
  · have grown := reach_log_grows (Follows.moves (BatchCaused.caused run))
    refine wp_mono (wp_and (handleEvent_caused ((noted event member).grow grown))
      handleEvent_spec) ?_
    rintro (value | cause | site) after ends
    · exact ⟨ends.1, ends.2⟩
    · exact ends.1.elim
    · trivial
  rw [andThen_ok]
  refine wp_mono settleTick_spec ?_
  rintro outcome after ⟨rfl, settled⟩
  have grown : m.log <+: handled.log :=
    (by rw [← poll]; exact List.prefix_append _ _ : m.log <+: polled.log).trans
      (reach_log_grows (Follows.moves (BatchCaused.caused batch)))
  obtain ⟨now, timed, waited, dropped⟩ := settled.caused grown
  exact ⟨now, events, polled, handled, timed, poll.symm, batch, waited, dropped⟩

/-- The moves of a tick that returns. -/
theorem tick_next (returns : ¬ (perform env .tick m).1.IsPanic) :
    (∃ cause, m.next env .tick = { m with log := m.log ++ [.poll (.error cause)] }) ∨
      ∃ now events polled handled timed,
        TickCaused env now events m polled handled timed (m.next env .tick) := by
  have spec : wp (perform env .tick) _ m := tick_caused
  rw [wp_iff] at spec
  unfold Machine.next
  rcases run : perform env .tick m with ⟨value | cause | site, last⟩
  · rw [run] at spec
    exact .inr spec
  · rw [run] at spec
    exact .inl ⟨cause, spec⟩
  · rw [run] at returns
    exact absurd trivial returns

/-- Every operation that returns is a run of moves, each with its cause. -/
theorem operation_caused (op : Operation) (shaped : Shaped m)
    (returns : ¬ (perform env op m).1.IsPanic) :
    Follows (Caused env m.log) (fun label => label.1.Within op) m (m.next env op) := by
  cases op with
  | connect connection =>
      have performed : Transition env (.connected connection) m _ :=
        performed_next (.connect connection) shaped returns
      exact Follows.because (.connect connection) (Follows.single performed rfl) trivial
        fun _ _ same => same.symm
  | command owner v =>
      exact Follows.because (.command owner (.obj v)) (command_next shaped returns) trivial
        fun _ _ => id
  | tick =>
      rcases tick_next returns with ⟨cause, same⟩ |
        ⟨now, events, polled, handled, timed, ticked⟩
      · rw [same]
        have noted : Follows (Transition env) Move.Reading m
            { m with log := m.log ++ [.poll (.error cause)] } :=
          Move.observe (.refl m) trivial (by simp [Entry.Inert])
        refine (Follows.because .upkeep noted trivial fun _ _ => .inl).mono ?_
        rintro label same
        rw [same]
        trivial
      · have poll : Transition env (.polled events) m polled :=
          Move.transition_of (.polled events) rfl (by rw [ticked.poll]; rfl)
            (by rw [ticked.poll]; rfl) trivial
        refine ((Follows.because .poll (Follows.single poll rfl) trivial
          fun _ _ same => .inr ⟨events, same.symm⟩).mono ?_).trans
            ((ticked.batch.caused.mono ?_).trans ((ticked.waited.mono ?_).trans
              (ticked.dropped.mono ?_)))
        · rintro label same
          rw [same]
          trivial
        · rintro label ⟨event, -, same⟩
          rw [same]
          trivial
        · rintro label (same | same)
          all_goals
            rw [same]
            trivial
        · rintro label (same | ⟨owner, same⟩)
          all_goals
            rw [same]
            trivial
  | disconnect owner =>
      have performed : Dropped env owner m _ := performed_next (.disconnect owner) shaped returns
      exact performed.caused
  | shutdown =>
      have performed : AllDropped env m _ := performed_next .shutdown shaped returns
      obtain ⟨middle, connections, looked, -, -, drops⟩ := performed
      refine ((Follows.because .upkeep looked trivial fun _ _ => .inl).mono ?_).trans
        (drops.caused.mono fun _ => .inr)
      exact fun _ => .inl

/-! ### Runs -/

/-- An operation of a run. -/
def Continues.Takes (env : Environment) (start last : Machine) (op : Operation) : Prop :=
  ∃ middle, Continues env start middle ∧ Continues env (middle.next env op) last

/-- The operation is a command that asks for this kind of operation. -/
def Operation.Asks (op : Operation) (kind : String) (owner : Connection) (v : Json) : Prop :=
  ∃ fields, op = .command owner fields ∧ v = .obj fields ∧ required v "op" = .ok kind

/-- A command of a run asked for this kind of operation. -/
def Requested (env : Environment) (start last : Machine) (kind : String) (owner : Connection)
    (v : Json) : Prop :=
  ∃ op, Continues.Takes env start last op ∧ op.Asks kind owner v

theorem Cause.Within.asks {op : Operation} {owner : Connection} {v : Json} {kind : String}
    (within : (Cause.command owner v).Within op) (named : required v "op" = .ok kind) :
    op.Asks kind owner v := by
  cases op with
  | connect connection => cases within
  | command other fields =>
      cases within
      exact ⟨fields, rfl, rfl, named⟩
  | tick => exact within.elim
  | disconnect other => cases within
  | shutdown => rcases within with ⟨⟨⟩⟩ | ⟨other, ⟨⟩⟩

theorem Cause.Noted.earlier {further log : History} (noted : cause.Noted further log)
    (grown : base <+: further) : cause.Noted base log := by
  obtain ⟨more, rfl⟩ := grown
  cases cause with
  | event event =>
      obtain ⟨entries, events, rfl, polled, member⟩ := noted
      exact ⟨more ++ entries, events, List.append_assoc _ _ _, List.mem_append_right _ polled,
        member⟩
  | time now =>
      obtain ⟨entries, rfl, read⟩ := noted
      exact ⟨more ++ entries, List.append_assoc _ _ _, List.mem_append_right _ read⟩
  | connect _ => trivial
  | command _ _ => trivial
  | poll => trivial
  | upkeep => trivial
  | disconnect _ => trivial

/-- A run is a run of moves, each with a cause within one of its operations. -/
theorem Continues.caused {last : Machine} (run : Continues env m last) (shaped : Shaped m) :
    Follows (Caused env m.log)
      (fun label => ∃ op, Continues.Takes env m last op ∧ label.1.Within op) m last := by
  induction run with
  | here => exact .refl m
  | @step middle op run returns admitted inductionHypothesis =>
      have next : Continues env middle (middle.next env op) := .step op .here returns trivial
      have earlier := inductionHypothesis
      refine (earlier.mono ?_).trans ?_
      · rintro label ⟨other, ⟨moment, before, rest⟩, within⟩
        exact ⟨other, ⟨moment, before, rest.trans next⟩, within⟩
      · obtain ⟨labels, trail, within⟩ := operation_caused op (run.shaped shaped) returns
        have grown := reach_log_grows (Follows.moves earlier)
        refine ⟨labels, ?_, fun label member => ⟨op, ⟨middle, run, .here⟩, within label member⟩⟩
        have renamed := trail.map id fun label before after caused =>
          (⟨caused.noted.earlier grown, caused.allowed, caused.taken⟩ :
            Caused env m.log label before after)
        rwa [List.map_id] at renamed

end Rosbridge
