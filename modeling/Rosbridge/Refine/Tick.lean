import Rosbridge.Refine.Release

/-!
Ticks and whole operations.

Owns: what a tick does, phase by phase; what `shutdown` does; and `Performed`, the
effect of an operation that returns.
-/

set_option autoImplicit false

namespace Rosbridge

open Foundation Program

variable {env : Environment} {m origin : Machine}

/-! ### Deadlines -/

/-- Moves that the timed part of a tick may take at a time: what they end is overdue. -/
def Move.Due (now : Instant) : Move → Prop
  | observed _ | sampled _ _ _ | goalForgotten _ _ => True
  | told message => message.op = some "publish"
  | goalFinished _ goal values status success =>
      goal.accepted = false ∧ goal.acceptanceDeadline ≤ now ∧ values = .obj [] ∧ status = 6 ∧
        success = false
  | expired _ call reading => call.expires ≤ now ∧ reading = now
  | requestExpired _ request => request.expires ≤ now
  | _ => False

theorem Move.Due.onTime {now : Instant} {move : Move} (due : move.Due now) : move.OnTime := by
  cases move <;> first | exact trivial | exact due.elim

section Deadlines

variable {now : Instant}

theorem expireGoals_spec :
    wp (expireGoals env now)
      (fun outcome after => outcome = .ok () ∧ Follows (Transition env) (Move.Due now) m after)
      m := by
  unfold expireGoals
  refine wp_bind_tables ?_
  refine wp_mono (wp_clear Bridge.goals
    (fun goal => !goal.accepted && decide (goal.acceptanceDeadline ≤ now))
    (fun entry => finishGoal env entry.1 (.obj []) 6 false) (.refl m) (fun _ => trivial) ?_)
    fun _ _ held => ⟨held.1, held.2.1⟩
  intro entry before reach found overdue
  rw [Bool.and_eq_true, Bool.not_eq_true', decide_eq_true_eq] at overdue
  refine wp_mono finishGoal_spec ?_
  rintro outcome after ⟨rfl, ⟨absent, -⟩ | ⟨goal, found', taken⟩⟩
  · rw [found] at absent
    cases absent
  · cases found.symm.trans found'
    obtain ⟨next, failed, tables⟩ := taken.bridge
    refine ⟨rfl, reach.trans (.single taken ⟨overdue.1, overdue.2, rfl, rfl, rfl⟩),
      fun value left => ?_, fun other apart => ?_⟩
    · rw [tables, Move.effect, AList.lookup_erase] at left
      cases left
    · rw [tables]
      exact AList.lookup_erase_ne apart

theorem popPending_returns {topic : String} (deliveries : List Delivery)
    (entry : Connection × ClientSubscription)
    (reach : Follows (Transition env) (Move.Due now) origin m) :
    wp (popPending now topic deliveries entry) (Returns env (Move.Due now) origin) m := by
  obtain ⟨owner, client⟩ := entry
  unfold popPending
  dsimp only
  generalize (if (client.last.all fun last =>
    decide (Instant.since now last ≥ client.options.throttle)) = true then client.pending
    else []) = queued
  cases queued with
  | nil => exact reach
  | cons sample rest =>
      exact Move.change (.sampled topic owner fun client =>
        { client with pending := rest, last := some now }) reach trivial rfl (fun _ => rfl) rfl

theorem popTopic_returns (deliveries : List Delivery) (entry : String × Subscription)
    (reach : Follows (Transition env) (Move.Due now) origin m) :
    wp (popTopic env now deliveries entry) (Returns env (Move.Due now) origin) m := by
  unfold popTopic
  refine wp_bind_visit env reach (fun _ => trivial) fun clients m₁ _ _ _ reach => ?_
  exact foldEach_returns reach fun client deliveries _ reach =>
    popPending_returns deliveries client reach

theorem deliverPending_returns (reach : Follows (Transition env) (Move.Due now) origin m) :
    wp (deliverPending env now) (Returns env (Move.Due now) origin) m := by
  unfold deliverPending
  refine wp_bind_tables ?_
  refine wp_bind_visit env reach (fun _ => trivial) fun subscriptions m₁ _ _ _ reach => ?_
  refine Returns.bind ?_ fun deliveries after reach =>
    deliverAll_returns deliveries reach fun _ published => published
  exact foldEach_returns reach fun entry deliveries _ reach =>
    popTopic_returns deliveries entry reach

/-- End one call that was not answered in time. -/
def expireCall (env : Environment) (entry : (Entity × Int) × Call) : Step Unit := do
  let call ← Program.unwrap "calls" ((← tables).calls.lookup entry.1)
  update fun b => { b with calls := b.calls.erase entry.1 }
  send env call.owner (timeoutMessage call) call.id call.options none
  Backend.destroy entry.1.1

theorem expireCall_spec {entry : (Entity × Int) × Call}
    (found : m.bridge.calls.lookup entry.1 = some entry.2) (due : entry.2.expires ≤ now)
    (noted : .instant now ∈ m.log) :
    wp (expireCall env entry)
      (fun outcome after =>
        outcome = .ok () ∧ Transition env (.expired entry.1 entry.2 now) m after) m := by
  unfold expireCall
  refine wp_bind_tables ?_
  refine wp_bind_unwrap (fun absent => ?_) fun call found' => ?_
  · rw [found] at absent
    cases absent
  cases found.symm.trans found'
  refine wp_bind_update ?_
  rw [wp_bind]
  refine wp_send env fun after sent => ?_
  obtain ⟨middle, handed, rfl⟩ := Sent.commute m
    (fun b => { b with calls := b.calls.erase entry.1 })
    (fun _ => rfl) (fun _ => rfl) (fun _ => rfl) (fun _ _ _ => rfl) sent
  obtain ⟨next, failed, tables⟩ := handed.tables
  exact ⟨rfl, middle, handed,
    ⟨by rw [tables]; exact found, due, handed.log_grows.subset noted⟩, rfl⟩

theorem expireCalls_spec (noted : .instant now ∈ m.log) :
    wp (expireCalls env now)
      (fun outcome after => outcome = .ok () ∧ Follows (Transition env) (Move.Due now) m after)
      m := by
  unfold expireCalls
  refine wp_bind_tables ?_
  refine wp_mono (wp_clear Bridge.calls (fun call => decide (call.expires ≤ now)) (expireCall env)
    (.refl m) (fun _ => trivial) ?_) fun _ _ held => ⟨held.1, held.2.1⟩
  intro entry before reach found due
  refine wp_mono (expireCall_spec found (of_decide_eq_true due)
    ((reach_log_grows reach).subset noted)) ?_
  rintro outcome after ⟨rfl, taken⟩
  obtain ⟨next, failed, tables⟩ := taken.bridge
  refine ⟨rfl, reach.trans (.single taken ⟨of_decide_eq_true due, rfl⟩), fun value left => ?_,
    fun other apart => ?_⟩
  · rw [tables] at left
    have gone := (AList.lookup_erase entry.1 before.bridge.calls).symm.trans left
    cases gone
  · rw [tables]
    exact AList.lookup_erase_ne apart

/-- Drop one native request that was not answered in time. -/
def expireRequest (entry : String × ExternalRequest) : Step Unit := do
  let request ← Program.unwrap "external" ((← tables).external.lookup entry.1)
  update fun b => { b with external := b.external.erase entry.1 }
  Backend.discardRequest request.entity request.request

theorem expireRequest_spec (env : Environment) {entry : String × ExternalRequest}
    (found : m.bridge.external.lookup entry.1 = some entry.2) :
    wp (expireRequest entry)
      (fun outcome after =>
        outcome = .ok () ∧ Transition env (.requestExpired entry.1 entry.2) m after) m := by
  unfold expireRequest
  refine wp_bind_tables ?_
  refine wp_bind_unwrap (fun absent => ?_) fun request found' => ?_
  · rw [found] at absent
    cases absent
  cases found.symm.trans found'
  exact wp_bind_update ⟨rfl, Move.transition (.requestExpired entry.1 entry.2) rfl found⟩

theorem expireExternal_spec :
    wp (expireExternal env now)
      (fun outcome after => outcome = .ok () ∧ Follows (Transition env) (Move.Due now) m after)
      m := by
  unfold expireExternal
  refine wp_bind_tables ?_
  refine wp_mono (wp_clear Bridge.external (fun request => decide (request.expires ≤ now))
    expireRequest (.refl m) (fun _ => trivial) ?_) fun _ _ held => ⟨held.1, held.2.1⟩
  intro entry before reach found due
  refine wp_mono (expireRequest_spec env found) ?_
  rintro outcome after ⟨rfl, taken⟩
  obtain ⟨next, failed, tables⟩ := taken.bridge
  have overdue : entry.2.expires ≤ now := of_decide_eq_true due
  refine ⟨rfl, reach.trans (.single taken overdue), fun value left => ?_,
    fun other apart => ?_⟩
  · rw [tables] at left
    have gone := (AList.lookup_erase entry.1 before.bridge.external).symm.trans left
    cases gone
  · rw [tables]
    exact AList.lookup_erase_ne apart

/-- Moves that forget the goals of action servers. -/
def Move.Forgetting : Move → Prop
  | observed _ | goalForgotten _ _ => True
  | _ => False

theorem forgetGoals_spec :
    wp (forgetGoals env)
      (fun outcome after => outcome = .ok () ∧ Follows (Transition env) Move.Forgetting m after)
      m := by
  unfold forgetGoals
  refine wp_bind_tables ?_
  have start : Follows (Transition env) Move.Forgetting m m := .refl m
  refine wp_bind_visit env start (fun _ => trivial) fun goals m₁ listed distinct same reach => ?_
  refine wp_sweep (fun machine => machine.bridge.serverGoals)
    (Follows (Transition env) Move.Forgetting m) (fun _ => True) goals distinct ?_ reach ?_
    fun after reach _ _ => ⟨rfl, reach⟩
  · intro entry member
    rw [same]
    exact (listed _ _).mp member
  rintro entry member before reach found
  cases completed : entry.2.completed with
  | none => exact ⟨reach, trivial, fun _ _ => rfl⟩
  | some moment =>
      dsimp only
      refine wp_bind_instant env reach (fun _ => trivial) fun now middle _ same reach => ?_
      rw [wp_ite]
      split
      · refine ⟨reach, trivial, fun other _ => ?_⟩
        show middle.bridge.serverGoals.lookup other = _
        rw [same]
      · refine ⟨Move.change (.goalForgotten entry.1 entry.2) reach trivial rfl
          ⟨by rw [same]; exact found, by rw [completed]; exact Option.some_ne_none moment⟩ rfl,
          trivial, fun other apart => ?_⟩
        refine (AList.lookup_erase_ne apart).trans ?_
        rw [same]

end Deadlines

/-! ### Dropping connections -/

theorem closedOutputs_spec (outputs : List (Connection × Output)) :
    wp (closedOutputs env outputs)
      (fun outcome after => ∃ closed readings, outcome = .ok closed ∧
        after = { m with log := m.log ++ (Move.probed readings).entries } ∧
        readings.map Prod.fst = outputs.map Prod.snd ∧
        ∀ output, (output, true) ∈ readings →
          ∃ connection ∈ closed, (connection, output) ∈ outputs) m := by
  induction outputs generalizing m with
  | nil =>
      show ∃ closed readings, (Outcome.ok [] : Outcome Error (List Connection)) = .ok closed ∧
        m = _ ∧ _
      exact ⟨[], [], rfl, by simp [Move.entries], rfl, by simp⟩
  | cons item rest inductionHypothesis =>
      unfold closedOutputs
      rw [wp_bind, wp_ask, andThen_ok]
      generalize env.isClosed m.log item.2 = reply
      refine wp_bind_of inductionHypothesis ?_ ?_ ?_
      · rintro others after ⟨closed, readings, same, rfl, asked, reported⟩
        cases same
        refine ⟨_, (item.2, reply) :: readings, rfl, ?_, by simp [asked], ?_⟩
        · show (⟨_, _⟩ : Machine) = ⟨_, _⟩
          simp [Move.entries]
        · intro output noted
          rcases List.mem_cons.mp noted with here | there
          · cases here
            exact ⟨item.1, by simp, by simp⟩
          · obtain ⟨connection, dropped, listed⟩ := reported output there
            refine ⟨connection, ?_, List.mem_cons_of_mem _ listed⟩
            cases reply
            · exact dropped
            · exact List.mem_cons_of_mem _ dropped
      · rintro cause after ⟨closed, entries, ⟨⟩, -⟩
      · rintro site after ⟨closed, entries, ⟨⟩, -⟩

/-- Connections are dropped one after the other. -/
abbrev Drops (env : Environment) : List Connection → Machine → Machine → Prop :=
  Trail (Dropped env)

theorem drops_all (connections : List Connection) :
    wp (forEach connections (disconnect env))
      (fun outcome after => outcome = .ok () ∧ Drops env connections m after) m := by
  refine wp_forEach_trail (Dropped env) (fun owner _ before _ _ => ?_) fun after run => ⟨rfl, run⟩
  refine wp_mono disconnect_spec ?_
  rintro outcome after ⟨rfl, dropped⟩
  exact dropped

/-- What `dropFailed` does. -/
def FailedDropped (env : Environment) (origin after : Machine) : Prop :=
  ∃ middle taken failed, Follows (Transition env) Move.Reading origin middle ∧
    middle.bridge = origin.bridge ∧ Transition env .failuresTaken middle taken ∧
    (∀ connection, connection ∈ failed ↔ connection ∈ origin.bridge.failed) ∧
    Drops env failed taken after

theorem dropFailed_spec :
    wp (dropFailed env) (fun outcome after => outcome = .ok () ∧ FailedDropped env m after) m := by
  unfold dropFailed
  rw [wp_bind, wp_ask, andThen_ok]
  have start : Follows (Transition env) Move.Reading m m := .refl m
  refine wp_bind_tables (wp_bind_update ?_)
  refine wp_mono (drops_all _) ?_
  rintro outcome after ⟨rfl, drops⟩
  exact ⟨rfl, _, _, _, Move.observe start trivial (by simp [Entry.Inert]), rfl,
    Move.transition_change .failuresTaken rfl trivial rfl, fun _ => mem_permute, drops⟩

/-- What `dropClosed` does. Every queue is asked. -/
def ClosedDropped (env : Environment) (origin after : Machine) : Prop :=
  ∃ middle readings asked closed, Follows (Transition env) Move.Reading origin middle ∧
    middle.bridge = origin.bridge ∧ Transition env (.probed readings) middle asked ∧
    (∀ connection output, origin.bridge.outputs.lookup connection = some output →
      ∃ reply, (output, reply) ∈ readings) ∧
    (∀ output, (output, true) ∈ readings →
      ∃ connection ∈ closed, origin.bridge.outputs.lookup connection = some output) ∧
    Drops env closed asked after

theorem dropClosed_spec :
    wp (dropClosed env) (fun outcome after => outcome = .ok () ∧ ClosedDropped env m after) m := by
  unfold dropClosed
  have start : Follows (Transition env) Move.Reading m m := .refl m
  refine wp_bind_tables ?_
  refine wp_bind_visit env start (fun _ => trivial) fun outputs m₁ listed _ same reach => ?_
  refine wp_bind_of (closedOutputs_spec outputs) ?_ ?_ ?_
  · rintro others after ⟨closed, readings, same', rfl, asked, reported⟩
    cases same'
    refine wp_mono (drops_all _) ?_
    rintro outcome after ⟨rfl, drops⟩
    refine ⟨rfl, m₁, readings, _, others, reach, same,
      Move.transition (.probed readings) rfl trivial, ?_, ?_, drops⟩
    · intro connection output found
      have member : output ∈ readings.map Prod.fst := by
        rw [asked]
        exact List.mem_map.mpr ⟨(connection, output), (listed _ _).mpr found, rfl⟩
      obtain ⟨⟨_, reply⟩, noted, rfl⟩ := List.mem_map.mp member
      exact ⟨reply, noted⟩
    · intro output noted
      obtain ⟨connection, dropped, member⟩ := reported output noted
      exact ⟨connection, dropped, (listed _ _).mp member⟩
  · rintro cause after ⟨closed, entries, ⟨⟩, -⟩
  · rintro site after ⟨closed, entries, ⟨⟩, -⟩

/-! ### Ticks -/

/-- Events are handled one after the other. -/
abbrev Batch (env : Environment) : List Event → Machine → Machine → Prop :=
  Trail fun event before after => EventDone env before after event

/-- The phases of a tick whose poll succeeded. -/
def Ticked (env : Environment) (events : List Event) (origin after : Machine) : Prop :=
  ∃ polled handled timed cleaned, Transition env (.polled events) origin polled ∧
    Batch env events polled handled ∧ Follows (Transition env) Move.OnTime handled timed ∧
    FailedDropped env timed cleaned ∧ ClosedDropped env cleaned after

/-- Moves that an event may cause. -/
def Move.Ambient (move : Move) : Prop := move.Inner ∧ ¬ move.Commanded

theorem Move.Unsettling.ambient {move : Move} (pass : move.Unsettling) : move.Ambient := by
  cases move <;> first | exact pass.elim | exact ⟨trivial, id⟩

theorem Move.OnSample.ambient {move : Move} (pass : move.OnSample) : move.Ambient := by
  cases move <;> first | exact pass.elim | exact ⟨trivial, id⟩

theorem Move.OnReply.ambient {move : Move} (pass : move.OnReply) : move.Ambient := by
  cases move <;> first | exact pass.elim | exact ⟨trivial, id⟩

theorem timeout_effect (move : Move) (b : Bridge) : (move.effect b).timeout = b.timeout := by
  cases move <;> rfl

theorem Follows.keeps_timeout {passes : Move → Prop}
    (reach : Follows (Transition env) passes origin m) :
    m.bridge.timeout = origin.bridge.timeout :=
  Follows.keeps Bridge.timeout (fun _ _ _ => rfl) (fun move _ => timeout_effect move) reach

/-- Every effect of an event is a run of moves that no command takes. -/
theorem EventDone.follows {event : Event} {after : Machine} (done : EventDone env m after event) :
    Follows (Transition env) Move.Ambient m after := by
  have settled {pair : Entity × Nat} {before last : Machine}
      (run : Settles env pair before last) : Follows (Transition env) Move.Ambient before last := by
    obtain ⟨middle, next, move, first, taken, settles, rest⟩ := run
    refine ((first.mono fun _ => Move.Unsettling.ambient).trans (.single taken ?_)).trans
      (rest.mono fun _ => Move.Unsettling.ambient)
    cases move <;> first | exact ⟨trivial, id⟩ | cases settles
  cases event with
  | message entity sample => exact done.mono fun _ => Move.OnSample.ambient
  | response entity sequence values =>
      rcases done with ⟨call, shown, -, -, taken⟩ | ⟨-, run⟩
      · exact .single taken ⟨trivial, id⟩
      · exact run.mono fun _ => Move.OnReply.ambient
  | request entity request args =>
      rcases done with run | ⟨run, -⟩ | ⟨middle, run | run, taken⟩
      · exact settled run
      · exact run.mono fun _ => Move.Unsettling.ambient
      · exact (run.mono fun _ => Move.Unsettling.ambient).trans (.single taken ⟨trivial, id⟩)
      · exact (settled run.settles).trans (.single taken ⟨trivial, id⟩)

theorem Batch.follows {events : List Event} {after : Machine} (batch : Batch env events m after) :
    Follows (Transition env) Move.Ambient m after := by
  induction batch with
  | nil => exact .refl _
  | cons done _ inductionHypothesis => exact done.follows.trans inductionHypothesis

/-- The part of a tick after its events. -/
def settleTick (env : Environment) : Step Unit := do
  let now ← instant env
  expireGoals env now
  deliverPending env now
  expireCalls env now
  expireExternal env now
  forgetGoals env
  dropFailed env
  dropClosed env

/-- What is overdue ends, and then connections are dropped. -/
def TickSettled (env : Environment) (origin after : Machine) : Prop :=
  ∃ now looked timed cleaned, looked = { origin with log := origin.log ++ [.instant now] } ∧
    Follows (Transition env) (Move.Due now) looked timed ∧
    FailedDropped env timed cleaned ∧ ClosedDropped env cleaned after

theorem settleTick_spec :
    wp (settleTick env) (fun outcome after => outcome = .ok () ∧ TickSettled env m after) m := by
  unfold settleTick instant
  rw [wp_bind, wp_ask, andThen_ok]
  generalize env.instant m.log = now
  generalize read : ({ m with log := m.log ++ [.instant now] } : Machine) = m₁
  have noted : .instant now ∈ m₁.log := by
    rw [← read]
    exact List.mem_append_right _ (List.mem_singleton_self _)
  refine wp_bind_returns expireGoals_spec fun m₂ reach₂ => ?_
  refine Returns.bind (deliverPending_returns reach₂) fun _ m₃ reach₃ => ?_
  refine wp_bind_returns (expireCalls_spec ((reach_log_grows reach₃).subset noted))
    fun m₄ reach₄ => ?_
  refine wp_bind_returns expireExternal_spec fun m₅ reach₅ => ?_
  refine wp_bind_returns forgetGoals_spec fun timed reach₆ => ?_
  have forgotten : Follows (Transition env) (Move.Due now) m₅ timed := by
    refine reach₆.mono fun move pass => ?_
    cases move <;> first | exact trivial | exact pass.elim
  have waited := reach₃.trans (reach₄.trans (reach₅.trans forgotten))
  refine wp_bind_returns dropFailed_spec fun cleaned dropped => ?_
  refine wp_mono dropClosed_spec ?_
  rintro outcome after ⟨rfl, closed⟩
  exact ⟨rfl, now, m₁, timed, cleaned, read.symm, waited, dropped, closed⟩

theorem TickSettled.ticked {events : List Event} {polled handled after : Machine}
    (taken : Transition env (.polled events) m polled) (batch : Batch env events polled handled)
    (settled : TickSettled env handled after) : Ticked env events m after := by
  obtain ⟨now, looked, timed, cleaned, rfl, waited, failed, closed⟩ := settled
  have reading : Follows (Transition env) Move.OnTime handled
      { handled with log := handled.log ++ [.instant now] } :=
    Move.observe (.refl handled) trivial (by simp [Entry.Inert])
  exact ⟨polled, handled, timed, cleaned, taken, batch,
    reading.trans (waited.mono fun _ => Move.Due.onTime), failed, closed⟩

theorem tick_spec :
    wp (tick env)
      (fun outcome after =>
        match outcome with
        | .ok _ => ∃ events, Ticked env events m after
        | .error cause => after = { m with log := m.log ++ [.poll (.error cause)] }
        | .panic _ =>
            ∃ events, env.poll m.log = .ok events ∧
              ((∃ event ∈ events, event.Hidden) ∨ Overflows env m.bridge.timeout m after)) m := by
  unfold tick Backend.poll
  refine wp_bind_call (fun _ _ => rfl) fun events answered => ?_
  have polled : Transition env (.polled events) m
      { m with log := m.log ++ [.poll (.ok events)] } :=
    Move.transition (.polled events) rfl trivial
  generalize startEq : ({ m with log := m.log ++ [.poll (.ok events)] } : Machine) = start
    at polled ⊢
  have step : Follows (Transition env) Move.Ambient m start := .single polled ⟨trivial, id⟩
  rw [wp_bind]
  refine wp_forEach_trail (fun event before after => EventDone env before after event)
    (fun event member before done run => ?_) fun handled batch => ?_
  · refine wp_mono handleEvent_spec ?_
    rintro (value | cause | site) after ends
    · exact ends
    · exact ends.elim
    · have reach := step.trans (Batch.follows run)
      refine ⟨events, answered, ends.imp (fun hidden => ⟨event, member, hidden⟩) fun past => ?_⟩
      rw [Follows.keeps_timeout reach] at past
      exact past.prepend (reach_log_grows reach)
  rw [andThen_ok]
  refine wp_mono settleTick_spec ?_
  rintro outcome after ⟨rfl, settled⟩
  exact ⟨events, settled.ticked polled batch⟩

end Rosbridge
