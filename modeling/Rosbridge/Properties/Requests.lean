import Rosbridge.Protocol.Requests
import Rosbridge.Properties.ServerGoals

/-!
Conservation of native requests over whole runs.

Owns: `Conserved`, the account of open requests in the middle of a batch of events;
and that between operations the open requests are those the tables keep, each in one
place, and that none is answered twice.
-/

set_option autoImplicit false

namespace Rosbridge

open Foundation

/-- The open requests are those the tables keep and those of `pending` events, which are
for services that still exist. -/
structure Conserved (pending : Multiset (Entity × Nat)) (m : Machine) : Prop where
  pool : Pool 0 m.log.changes (m.bridge.waiting + pending)
  offered : ∀ entity ∈ m.log.services, entity ∈ m.log.destroyed ∨ m.bridge.Offers entity
  served : ∀ pair ∈ pending, m.bridge.Offers pair.1

/-- What is carried along: the tables fit together, and entities and requests are accounted for. -/
structure Accounted (pending : Multiset (Entity × Nat)) (m : Machine) : Prop where
  shaped : Shaped m
  balanced : Balanced m
  conserved : Conserved pending m

/-- What comes from outside is new. -/
structure Novel (m : Machine) : Prop where
  fresh : Fresh m.log
  asked : Asked m.log

section Step

variable {env : Environment} {move : Move} {m before after : Machine}
  {pending : Multiset (Entity × Nat)} {pair : Entity × Nat}

theorem Novel.inherit (grown : before.log <+: after.log) (novel : Novel after) : Novel before :=
  ⟨novel.fresh.inherit grown, novel.asked.inherit grown⟩

theorem Conserved.nodup (conserved : Conserved pending m) (asked : Asked m.log) :
    m.log.answered.Nodup ∧ (m.bridge.waiting + pending).Nodup ∧
      ∀ pair ∈ m.log.answered, pair ∉ m.bridge.waiting + pending :=
  conserved.pool.nodup asked.once

theorem History.changes_append (log entries : History) :
    History.changes (log ++ entries) = log.changes ++ History.changes entries :=
  List.filterMap_append

/-- Handing a message over does nothing to a request. -/
theorem Sent.conserved {message : Option Message} (sent : Sent message before after)
    (conserved : Conserved pending before) : Conserved pending after := by
  have same : after.log.changes = before.log.changes ∧ after.log.services = before.log.services ∧
      after.log.destroyed = before.log.destroyed := by
    unfold History.changes History.services History.destroyed
    cases sent <;> simp [Message.entry, Entry.change?, Entry.service?, Entry.destroyed?]
  obtain ⟨next, failed, tables⟩ := sent.tables
  constructor
  · rw [same.1, tables]
    exact conserved.pool
  · rw [same.2.1, same.2.2, tables]
    exact conserved.offered
  · rw [tables]
    exact conserved.served

/-- A service that is created is on offer until it is destroyed. -/
theorem Move.keeps_offered (enabled : move.Enabled env m)
    (offered : ∀ entity ∈ m.log.services, entity ∈ m.log.destroyed ∨ m.bridge.Offers entity) :
    ∀ entity ∈ History.services (m.log ++ move.entries),
      entity ∈ History.destroyed (m.log ++ move.entries) ∨ (move.effect m.bridge).Offers entity := by
  intro entity created
  unfold History.services at created
  unfold History.destroyed
  rw [List.filterMap_append] at created ⊢
  rcases List.mem_append.mp created with earlier | now
  · rcases offered entity earlier with gone | offers
    · exact .inl (List.mem_append_left _ gone)
    · exact (move.keeps_offers enabled offers).symm.imp_left (List.mem_append_right _)
  · exact (move.offers_created enabled now).symm.imp_left (List.mem_append_right _)

theorem Transition.accounted (taken : Transition env move before after) (keeping : move.Keeping)
    (novel : Novel after) (served : ∀ pair ∈ pending, after.bridge.Offers pair.1)
    (accounted : Accounted ((move.settles.toList : Multiset _) + pending) before) :
    Accounted pending after := by
  have shaped := taken.shaped accounted.shaped
  have balanced := taken.balanced accounted.shaped novel.fresh accounted.balanced
  refine ⟨shaped, balanced, ?_⟩
  have exact := (balanced.lifecycle novel.fresh).1
  obtain ⟨middle, sent, enabled, rfl⟩ := taken
  have conserved := sent.conserved accounted.conserved
  have asked : Asked middle.log := novel.asked.inherit (List.prefix_append _ _)
  have apart : ∀ pair ∈ (move.effect middle.bridge).waiting + pending,
      pair.1 ∉ History.destroyed move.entries := by
    intro pair member gone
    have offers : (move.effect middle.bridge).Offers pair.1 := by
      rcases Multiset.mem_add.mp member with waits | isPending
      · exact shaped.offers_of_waiting waits
      · exact served pair isPending
    refine ((exact pair.1).mp offers.held).2 ?_
    unfold History.destroyed
    rw [List.filterMap_append]
    exact List.mem_append_right _ gone
  refine ⟨?_, move.keeps_offered enabled conserved.offered, served⟩
  rw [History.changes_append]
  exact conserved.pool.append (Move.conserves (sent.shaped accounted.shaped) enabled keeping
    (conserved.nodup asked).2.1 apart)

/-- A poll opens the requests it brings. -/
theorem polled_accounted {events : List Event} (taken : Transition env (.polled events) before after)
    (novel : Novel after) (accounted : Accounted 0 before) :
    Accounted (events.filterMap Event.asked? : List (Entity × Nat)) after := by
  have shaped := taken.shaped accounted.shaped
  have balanced := taken.balanced accounted.shaped novel.fresh accounted.balanced
  refine ⟨shaped, balanced, ?_⟩
  obtain ⟨middle, sent, enabled, rfl⟩ := taken
  have conserved := sent.conserved accounted.conserved
  refine ⟨?_, Move.keeps_offered enabled conserved.offered, fun pair member => ?_⟩
  · rw [History.changes_append]
    refine conserved.pool.append (.issue (Pool.same ?_))
    rw [add_zero]
    rfl
  · -- The request came to a service that was not destroyed before the poll.
    obtain ⟨created, alive⟩ := novel.asked.last (Multiset.mem_coe.mp member)
    exact (conserved.offered pair.1 created).resolve_left alive

/-- A discarded request is the one whose handler failed, or it has been answered. -/
theorem discarded_accounted (pair : Entity × Nat)
    (taken : Transition env (.discarded pair.1 pair.2) before after)
    (novel : Novel after)
    (accounted : Accounted (pair ::ₘ pending) before ∨
      (Accounted pending before ∧ pair ∈ before.log.answered)) :
    Accounted pending after := by
  have withdraws {dropped : Multiset (Entity × Nat)} (gone : ∀ other ∈ dropped, other = pair)
      (absent : pair ∉ before.bridge.waiting + pending) :
      Pool (dropped + (before.bridge.waiting + pending))
        [.withdraw fun other => decide (other = pair)] (before.bridge.waiting + pending) := by
    refine Pool.withdraws [_] dropped _ (fun other member => ?_) fun other member about listed => ?_
    · exact ⟨_, List.mem_singleton_self _, decide_eq_true (gone other member)⟩
    · rw [List.mem_singleton.mp listed]
      exact decide_eq_false fun same => absent (same ▸ member)
  have asked := (novel.inherit taken.log_grows).asked
  obtain ⟨live, held, withdrawn, within⟩ : ∃ live, Accounted live before ∧
      Pool (before.bridge.waiting + live)
        [.withdraw fun other => decide (other = pair)] (before.bridge.waiting + pending) ∧
      ∀ other ∈ pending, other ∈ live := by
    rcases accounted with held | ⟨held, answered⟩
    · refine ⟨_, held, ?_, fun other => Multiset.mem_cons_of_mem⟩
      have distinct := (held.conserved.nodup asked).2.1
      rw [Multiset.add_cons] at distinct ⊢
      rw [← Multiset.singleton_add]
      exact withdraws (fun other => Multiset.mem_singleton.mp) (Multiset.nodup_cons.mp distinct).1
    · have absent := (held.conserved.nodup asked).2.2 pair answered
      refine ⟨pending, held, ?_, fun _ => id⟩
      have nothing := withdraws (show ∀ other ∈ (0 : Multiset (Entity × Nat)), other = pair by simp)
        absent
      rwa [zero_add] at nothing
  have shaped := taken.shaped held.shaped
  have balanced := taken.balanced held.shaped novel.fresh held.balanced
  refine ⟨shaped, balanced, ?_⟩
  obtain ⟨middle, sent, enabled, rfl⟩ := taken
  cases sent
  refine ⟨?_, Move.keeps_offered enabled held.conserved.offered,
    fun other member => held.conserved.served other (within other member)⟩
  rw [History.changes_append]
  exact held.conserved.pool.append withdrawn

/-- Moves that only look at requests, and stop no service. -/
def Move.Calm (move : Move) : Prop :=
  move.Keeping ∧ move.Lasting ∧ move.settles = none

theorem Move.Lasting.keeps_served (lasting : move.Lasting) (taken : Transition env move before after)
    (served : ∀ pair ∈ pending, before.bridge.Offers pair.1) :
    ∀ pair ∈ pending, after.bridge.Offers pair.1 := by
  obtain ⟨middle, sent, enabled, rfl⟩ := taken
  obtain ⟨next, failed, tables⟩ := sent.tables
  intro pair member
  refine lasting.keeps_offers enabled ?_
  rw [tables]
  exact served pair member

theorem Follows.accounted_calm (reach : Follows (Transition env) Move.Calm before after)
    (novel : Novel after) (accounted : Accounted pending before) : Accounted pending after := by
  refine Foundation.Follows.inherited Novel (Accounted pending) reach
    (fun _ _ _ taken => Novel.inherit taken.log_grows) ?_ novel accounted
  rintro move before after ⟨keeping, lasting, unsettled⟩ taken novel accounted
  refine taken.accounted keeping novel
    (lasting.keeps_served taken accounted.conserved.served) ?_
  rw [unsettled, Option.toList_none, Multiset.coe_nil, zero_add]
  exact accounted

theorem Move.Unsettling.calm (pass : move.Unsettling) : move.Calm := by
  cases move <;> first | exact pass.elim | exact ⟨trivial, trivial, rfl⟩

theorem Move.OnSample.calm (pass : move.OnSample) : move.Calm := by
  cases move <;> first | exact pass.elim | exact ⟨trivial, trivial, rfl⟩

theorem Move.OnReply.calm (pass : move.OnReply) : move.Calm := by
  cases move <;> first | exact pass.elim | exact ⟨trivial, trivial, rfl⟩

theorem Move.settles_lasting (settles : move.settles = some pair) :
    move.Keeping ∧ move.Lasting := by
  cases move <;> first | exact ⟨trivial, trivial⟩ | cases settles

theorem Transition.answered (taken : Transition env move before after)
    (answers : move.answers = some pair) : pair ∈ after.log.answered := by
  obtain ⟨middle, -, -, rfl⟩ := taken
  unfold History.answered
  rw [History.changes_append, List.filterMap_append]
  refine List.mem_append_right _ ?_
  cases move <;> first | (cases answers; exact List.mem_singleton_self _) | cases answers

theorem answered_mono (grown : before.log <+: after.log) (answered : pair ∈ before.log.answered) :
    pair ∈ after.log.answered := by
  obtain ⟨entries, same⟩ := grown
  unfold History.answered
  rw [← same, History.changes_append, List.filterMap_append]
  exact List.mem_append_left _ answered

/-- A request that is settled is open no longer, or it is in a table. -/
theorem Settles.accounted (settled : Settles env pair before after) (novel : Novel after)
    (accounted : Accounted (pair ::ₘ pending) before) : Accounted pending after := by
  obtain ⟨middle, next, move, first, taken, settles, rest⟩ := settled
  have novelNext := novel.inherit (reach_log_grows rest)
  have held := Follows.accounted_calm (first.mono fun _ => Move.Unsettling.calm)
    (novelNext.inherit taken.log_grows) accounted
  have here : (move.settles.toList : Multiset (Entity × Nat)) + pending = pair ::ₘ pending := by
    rw [settles, Option.toList_some, Multiset.coe_singleton, Multiset.singleton_add]
  obtain ⟨keeping, lasting⟩ := Move.settles_lasting settles
  refine Follows.accounted_calm (rest.mono fun _ => Move.Unsettling.calm) novel ?_
  refine taken.accounted keeping novelNext
    (lasting.keeps_served taken fun other member => ?_) (by rw [here]; exact held)
  exact held.conserved.served other (Multiset.mem_cons_of_mem member)

theorem Answers.answered (run : Answers env pair before after) : pair ∈ after.log.answered := by
  obtain ⟨middle, next, move, -, taken, answers, rest⟩ := run
  exact answered_mono (reach_log_grows rest) (taken.answered answers)

/-- The request of an event that is over is no longer due. -/
theorem EventDone.accounted {event : Event} (done : EventDone env before after event)
    (novel : Novel after)
    (accounted : Accounted ((event.asked?.toList : Multiset _) + pending) before) :
    Accounted pending after := by
  have calm (run : Follows (Transition env) Move.Calm before after)
      (accounted : Accounted (0 + pending) before) : Accounted pending after :=
    Follows.accounted_calm run novel (by rwa [zero_add] at accounted)
  cases event with
  | message entity sample => exact calm (done.mono fun _ => Move.OnSample.calm) accounted
  | response entity sequence values =>
      rcases done with ⟨call, shown, -, -, taken⟩ | ⟨-, run⟩
      · exact calm (.single taken ⟨trivial, trivial, rfl⟩) accounted
      · exact calm (run.mono fun _ => Move.OnReply.calm) accounted
  | request entity number args =>
      have due : Accounted ((entity, number) ::ₘ pending) before := by
        rwa [← Multiset.singleton_add]
      rcases done with settled | ⟨-, unserved⟩ | ⟨middle, run, taken⟩
      · exact settled.accounted novel due
      · -- The request came to a service of some client.
        rcases due.conserved.served _ (Multiset.mem_cons_self _ _) with
          ⟨action, server, found, member⟩ | ⟨name, service, found, same⟩
        · exact absurd member (unserved.1 action server found)
        · exact absurd same (unserved.2 name service found)
      · have novelMiddle := novel.inherit taken.log_grows
        refine discarded_accounted (entity, number) taken novel ?_
        rcases run with calmly | answers
        · exact .inl (Follows.accounted_calm (calmly.mono fun _ => Move.Unsettling.calm)
            novelMiddle due)
        · exact .inr ⟨answers.settles.accounted novelMiddle due, answers.answered⟩

theorem Batch.accounted {events : List Event} (batch : Batch env events before after)
    (novel : Novel after)
    (accounted : Accounted (events.filterMap Event.asked? : List (Entity × Nat)) before) :
    Accounted 0 after := by
  induction batch with
  | nil => exact accounted
  | @cons event events start middle finish done rest inductionHypothesis =>
      refine inductionHypothesis novel (done.accounted ?_ ?_)
      · exact novel.inherit (reach_log_grows (Batch.follows rest))
      · have split : (event.asked?.toList : Multiset (Entity × Nat)) +
            (events.filterMap Event.asked? : List (Entity × Nat)) =
              ((event :: events).filterMap Event.asked? : List (Entity × Nat)) := by
          rw [Multiset.coe_add, List.filterMap_cons]
          cases event.asked? <;> rfl
        rw [split]
        exact accounted

/-- Moves that leave native requests to events. -/
def Move.Aside (move : Move) : Prop := move.Keeping ∧ move.settles = none

theorem Follows.accounted_aside (reach : Follows (Transition env) Move.Aside before after)
    (novel : Novel after) (accounted : Accounted 0 before) : Accounted 0 after := by
  refine Foundation.Follows.inherited Novel (Accounted 0) reach
    (fun _ _ _ taken => Novel.inherit taken.log_grows) ?_ novel accounted
  rintro move before after ⟨keeping, unsettled⟩ taken novel accounted
  refine taken.accounted keeping novel (by simp) ?_
  rw [unsettled, Option.toList_none, Multiset.coe_nil, zero_add]
  exact accounted

theorem Move.By.aside {owner : Connection} (pass : move.By owner) : move.Aside := by
  cases move <;> first | exact pass.elim | exact ⟨trivial, rfl⟩

theorem Move.OnTime.aside (pass : move.OnTime) : move.Aside := by
  cases move <;> first | exact pass.elim | exact ⟨trivial, rfl⟩

theorem Move.Reading.aside (pass : move.Reading) : move.Aside := by
  cases move <;> first | exact pass.elim | exact ⟨trivial, rfl⟩

theorem Move.During.aside {owner : Connection} (pass : move.During (.disconnect owner)) :
    move.Aside := by
  rcases pass with rfl | pass | pass | pass | pass | pass | pass | rfl
  · exact ⟨trivial, rfl⟩
  all_goals try (cases move <;> first | exact pass.elim | exact ⟨trivial, rfl⟩)
  exact ⟨trivial, rfl⟩

theorem Move.AfterEvents.aside (pass : move.AfterEvents) : move.Aside := by
  rcases pass with onTime | reading | rfl | ⟨readings, rfl⟩ | ⟨owner, during⟩
  · exact onTime.aside
  · exact reading.aside
  · exact ⟨trivial, rfl⟩
  · exact ⟨trivial, rfl⟩
  · exact during.aside

theorem Performed.accounted {op : Operation} (performed : Performed env op before after)
    (novel : Novel after) (accounted : Accounted 0 before) : Accounted 0 after := by
  cases op with
  | connect connection =>
      exact Follows.accounted_aside (.single performed ⟨trivial, rfl⟩) novel accounted
  | command owner v =>
      exact Follows.accounted_aside (performed.mono fun _ => Move.By.aside) novel accounted
  | tick =>
      rcases performed with ⟨cause, rfl⟩ | ⟨events, ticked⟩
      · have noted : Follows (Transition env) Move.Aside before
            { before with log := before.log ++ [.poll (.error cause)] } :=
          Move.observe (.refl before) ⟨trivial, rfl⟩ (by simp [Entry.Inert])
        exact Follows.accounted_aside noted novel accounted
      · obtain ⟨polled, handled, taken, batch, rest⟩ := ticked.phases
        have novelHandled := novel.inherit (reach_log_grows rest)
        have novelPolled := novelHandled.inherit (reach_log_grows batch.follows)
        refine Follows.accounted_aside (rest.mono fun _ => Move.AfterEvents.aside) novel ?_
        exact batch.accounted novelHandled (polled_accounted taken novelPolled accounted)
  | disconnect owner =>
      exact Follows.accounted_aside ((Dropped.during performed).mono fun _ => Move.During.aside)
        novel accounted
  | shutdown =>
      have during : Follows (Transition env) (Move.During .shutdown) before after :=
        Performed.during performed
      refine Follows.accounted_aside (during.mono ?_) novel accounted
      rintro move (reading | ⟨owner, pass⟩)
      · exact reading.aside
      · exact Move.During.aside pass

end Step

theorem Reachable.accounted {env : Environment} {access : Access} {timeout : Duration}
    {m : Machine} (reached : Reachable env access timeout m) (novel : Novel m) :
    Accounted 0 m := by
  have start : Accounted 0 (Machine.new access timeout) :=
    ⟨shaped_new access timeout, balanced_new access timeout,
      ⟨.nil 0, fun _ created => (List.not_mem_nil created).elim, by simp⟩⟩
  exact Onward.invariant Novel (Accounted 0) reached novel (fun _ _ => Novel.inherit)
    (fun _ _ _ _ _ novel performed => performed.accounted novel) start.shaped start

/-- If requests arrive once and on services that exist, then in every state between
operations the requests that are neither answered nor dropped are those of the tables,
each in one place, and none has been answered twice. -/
theorem requests_conserved {env : Environment} {access : Access} {timeout : Duration}
    {m : Machine} (reached : Reachable env access timeout m) (fresh : Fresh m.log)
    (asked : Asked m.log) :
    m.log.outstanding = m.bridge.waiting ∧ m.bridge.waiting.Nodup ∧ m.log.answered.Nodup := by
  have accounted := Reachable.accounted reached ⟨fresh, asked⟩
  obtain ⟨answered, waiting, -⟩ := accounted.conserved.nodup asked
  have pool := accounted.conserved.pool
  rw [add_zero] at waiting pool
  exact ⟨pool.eq_foldl.symm, waiting, answered⟩

/-- After the first tick the request for the result waits; the other was answered. -/
theorem requests_conserved_asking :
    let m := (((Machine.new {} 5).next .asking (.connect 0)).next .asking fibonacciServer).next
      .asking .tick
    m.log.arrived = [(1, 6), (2, 7)] ∧ m.log.answered = [(1, 6)] ∧
      m.log.outstanding = m.bridge.waiting := by
  intro m
  have reached : Reachable .asking {} 5 m :=
    .step _ (.step _ (.step _ .here (by decide +kernel) trivial) (by decide +kernel) trivial)
      (by decide +kernel) trivial
  have fresh : Fresh m.log := ⟨by decide +kernel, by decide +kernel, by decide +kernel⟩
  have asked : Asked m.log := ⟨by decide +kernel, by decide +kernel⟩
  exact ⟨by decide +kernel, by decide +kernel, (requests_conserved reached fresh asked).1⟩

end Rosbridge
