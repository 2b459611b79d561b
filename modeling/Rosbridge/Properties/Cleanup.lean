import Rosbridge.Properties.Lifecycle
import Rosbridge.Protocol.Ownership

/-!
Ownership and cleanup.

Owns: that only registered connections own anything, and that nothing is left of a
connection that disconnects, fails a send or closes its queue.
-/

set_option autoImplicit false

namespace Rosbridge

open Foundation Program

variable {env : Environment} {m after : Machine} {move : Move} {owner : Connection}

/-! ### Owners are registered -/

/-- Only registered connections own anything. -/
def OwnersRegistered (m : Machine) : Prop :=
  ∀ owner, m.bridge.Mentions owner → owner ∈ m.bridge.outputs

theorem Bridge.Mentions.unsent {b : Bridge} {next : Nat} {failed : List Connection}
    (mention : { b with next := next, failed := failed }.Mentions owner) : b.Mentions owner := by
  cases mention with
  | publisher found owns => exact .publisher found owns
  | subscription found owns => exact .subscription found owns
  | service found owns => exact .service found owns
  | call found owns => exact .call found owns
  | external found owns => exact .external found owns
  | goal found owns => exact .goal found owns
  | server found owns => exact .server found owns
  | serverGoal found owns => exact .serverGoal found owns

theorem Transition.mentions (taken : Transition env move m after)
    (mention : after.bridge.Mentions owner) :
    m.bridge.Mentions owner ∨ owner ∈ m.bridge.outputs := by
  obtain ⟨middle, sent, enabled, rfl⟩ := taken
  obtain ⟨next, failed, tables⟩ := sent.tables
  have before := Move.mentions enabled mention
  rw [tables] at before
  exact before.imp_left Bridge.Mentions.unsent

theorem Follows.mentions (reach : Follows (Transition env) Move.Inner m after)
    (mention : after.bridge.Mentions owner) :
    m.bridge.Mentions owner ∨ owner ∈ m.bridge.outputs := by
  obtain ⟨labels, run, pass⟩ := reach
  induction run with
  | nil => exact .inl mention
  | cons taken _ inductionHypothesis =>
      have outputs := taken.keeps Bridge.outputs (fun _ _ _ => rfl)
        (pass _ List.mem_cons_self).keeps_outputs
      rcases inductionHypothesis mention
        (fun label member => pass label (List.mem_cons_of_mem _ member)) with before | member
      · exact taken.mentions before
      · exact .inr (outputs ▸ member)

theorem Transition.keeps_registered (taken : Transition env move m after)
    (kept : ∀ b, (move.effect b).outputs = b.outputs) (registered : OwnersRegistered m) :
    OwnersRegistered after := by
  intro owner mention
  have outputs : after.bridge.outputs = m.bridge.outputs :=
    taken.keeps Bridge.outputs (fun _ _ _ => rfl) kept
  rw [outputs]
  exact (taken.mentions mention).elim (registered owner) id

theorem Follows.keeps_registered (reach : Follows (Transition env) Move.Inner m after)
    (registered : OwnersRegistered m) : OwnersRegistered after :=
  reach.invariant OwnersRegistered (fun _ _ _ inner taken => taken.keeps_registered inner.keeps_outputs) registered

/-- Nothing is left of a connection that is dropped, and nobody else is affected. -/
theorem Dropped.leaves (dropped : Dropped env owner m after) (shaped : Shaped m)
    (registered : OwnersRegistered m) :
    OwnersRegistered after ∧ ¬ after.bridge.Mentions owner ∧
      after.bridge.outputs = m.bridge.outputs.erase owner ∧
      after.bridge.failed = m.bridge.failed := by
  obtain ⟨gone, left, reach, unserved, leftOver⟩ := dropped
  have shapedAfter := Follows.shaped reach (left.shaped shaped)
  have unmentioned : ¬ after.bridge.Mentions owner := fun mention => by
    obtain ⟨key, goal, found, owns⟩ := leftOver mention
    obtain ⟨server, serves, same, -⟩ := shapedAfter.served key goal found
    exact unserved _ server serves (same.trans owns)
  obtain ⟨next, failed, tables⟩ := left.bridge
  have outputsGone : gone.bridge.outputs = m.bridge.outputs.erase owner := by
    rw [tables]
    rfl
  have outputs : after.bridge.outputs = gone.bridge.outputs :=
    Follows.keeps Bridge.outputs (fun _ _ _ => rfl)
      (fun _ releasing => releasing.keeps_outputs) reach
  have failedGone : gone.bridge.failed = m.bridge.failed := by
    obtain ⟨middle, sent, -, rfl⟩ := left
    cases sent
    rfl
  have absent : owner ∉ gone.bridge.outputs := by
    rw [outputsGone]
    exact AList.mem_erase.not.mpr fun held => held.1 rfl
  refine ⟨fun other mention => ?_, unmentioned, outputs.trans outputsGone,
    (releasing_keeps_failed absent reach).trans failedGone⟩
  have apart : other ≠ owner := fun same => unmentioned (same ▸ mention)
  have before : m.bridge.Mentions other ∨ other ∈ m.bridge.outputs := by
    rcases Follows.mentions (reach.mono fun _ => Move.Releasing.inner) mention with
      mention | member
    · exact left.mentions mention
    · rw [outputsGone] at member
      exact .inr (AList.mem_erase.mp member).2
  rw [outputs, outputsGone]
  exact AList.mem_erase.mpr ⟨apart, before.elim (registered other) id⟩

theorem OwnersRegistered.performed {op : Operation} (performed : Performed env op m after)
    (shaped : Shaped m) (registered : OwnersRegistered m) : OwnersRegistered after := by
  refine performed.invariant OwnersRegistered shaped ?_ ?_ ?_ ?_ ?_ registered
  · exact fun _ _ _ _ inner taken => taken.keeps_registered inner.keeps_outputs
  · intro connection before after _ _ taken registered owner mention
    obtain ⟨next, failed, tables⟩ := taken.bridge
    have member := (taken.mentions mention).elim (registered owner) id
    rw [tables]
    exact (AList.mem_insert _).mpr (.inr member)
  · exact fun _ _ _ taken => taken.keeps_registered fun _ => rfl
  · exact fun _ _ _ _ taken => taken.keeps_registered fun _ => rfl
  · exact fun _ _ _ shaped dropped registered => (dropped.leaves shaped registered).1

/-! ### Lost connections are noticed -/

/-- The connection whose queue refused a message or turned out to be closed. -/
def Entry.lost? : Entry → Option Connection
  | sendRequest output _ _ _ _ (.error _) => some output.connection
  | isClosed output true => some output.connection
  | _ => none

/-- The connections that a send failed for, or whose queue was found closed. -/
def History.lost (log : History) : List Connection := log.filterMap Entry.lost?

/-- A lost connection is to be dropped: it is marked as failed, or about to be
closed, unless it is gone already. -/
def Noticed (closing : Connection → Prop) (m : Machine) : Prop :=
  ∀ owner ∈ m.log.lost, .connected owner ∈ m.log ∧
    (owner ∈ m.bridge.failed ∨ owner ∉ m.bridge.outputs ∨ closing owner)

theorem Entry.Silent.lost? {entry : Entry} (silent : entry.Silent) : entry.lost? = none := by
  cases entry <;> first | rfl | exact silent.elim

theorem Move.Inner.lost (inner : move.Inner) (enabled : move.Enabled env m) :
    History.lost move.entries = [] :=
  List.filterMap_eq_nil_iff.mpr fun entry member => (inner.silent enabled entry member).lost?

theorem History.lost_append (log entries : History) :
    History.lost (log ++ entries) = log.lost ++ History.lost entries := List.filterMap_append

theorem History.lost_append_silent {log entries : History} (silent : History.lost entries = []) :
    History.lost (log ++ entries) = log.lost := by
  rw [History.lost_append, silent, List.append_nil]

/-- Nothing that was noticed is forgotten. -/
theorem Noticed.grow {closing : Connection → Prop} {before : Machine}
    (noticed : Noticed closing before) (grown : before.log <+: after.log)
    (failed : ∀ owner ∈ before.bridge.failed, owner ∈ after.bridge.failed)
    (outputs : ∀ owner, .connected owner ∈ before.log → owner ∈ after.bridge.outputs →
      owner ∈ before.bridge.outputs)
    (added : ∀ owner ∈ after.log.lost, owner ∈ before.log.lost ∨
      (.connected owner ∈ after.log ∧ owner ∈ after.bridge.failed)) :
    Noticed closing after := by
  intro owner member
  rcases added owner member with old | ⟨connected, new⟩
  · obtain ⟨connected, known⟩ := noticed owner old
    refine ⟨grown.subset connected, known.imp (failed owner) (Or.imp_left fun absent => ?_)⟩
    exact fun present => absent (outputs owner connected present)
  · exact ⟨connected, .inl new⟩

theorem Sent.noticed {closing : Connection → Prop} {message : Option Message}
    (sent : Sent message m after) (shaped : Shaped m) (noticed : Noticed closing m) :
    Noticed closing after := by
  have grown := sent.log_grows
  cases sent with
  | silent => exact noticed
  | muted _ =>
      refine noticed.grow grown (fun _ => id) (fun _ _ => id) fun owner member => .inl ?_
      rwa [History.lost_append_silent rfl] at member
  | unrouted _ =>
      refine noticed.grow grown (fun _ => id) (fun _ _ => id) fun owner member => .inl ?_
      rwa [History.lost_append_silent rfl] at member
  | queued _ _ _ _ _ =>
      refine noticed.grow grown (fun _ => id) (fun _ _ => id) fun owner member => .inl ?_
      rwa [History.lost_append_silent rfl, History.lost_append_silent rfl] at member
  | rejected found _ _ _ _ _ =>
      obtain ⟨filed, connected⟩ := shaped.outputs _ _ found
      refine noticed.grow grown (fun _ => List.mem_insert_of_mem) (fun _ _ => id)
        fun owner member => ?_
      rw [History.lost_append, History.lost_append_silent rfl] at member
      rcases List.mem_append.mp member with old | new
      · exact .inl old
      · have same : owner = _ := List.mem_singleton.mp new
        rw [same, filed]
        exact .inr ⟨grown.subset connected, List.mem_insert_self⟩

theorem Transition.noticed {closing : Connection → Prop} (taken : Transition env move m after)
    (inner : move.Inner) (shaped : Shaped m) (noticed : Noticed closing m) :
    Noticed closing after := by
  obtain ⟨middle, sent, enabled, rfl⟩ := taken
  refine (sent.noticed shaped noticed).grow (List.prefix_append _ _) ?_ ?_ fun owner member => .inl ?_
  · rw [inner.keeps_failed]
    exact fun _ => id
  · rw [inner.keeps_outputs]
    exact fun _ _ => id
  · rwa [History.lost_append_silent (inner.lost enabled)] at member

theorem Follows.noticed {closing : Connection → Prop}
    (reach : Follows (Transition env) Move.Inner m after) (shaped : Shaped m)
    (noticed : Noticed closing m) : Noticed closing after :=
  (reach.invariant (fun machine => Shaped machine ∧ Noticed closing machine)
    (fun _ _ _ inner taken held => ⟨taken.shaped held.1, taken.noticed inner held.1 held.2⟩)
    ⟨shaped, noticed⟩).2

/-- What was about to be closed is closed. -/
theorem Dropped.noticed {closing : Connection → Prop} (dropped : Dropped env owner m after)
    (shaped : Shaped m) (registered : OwnersRegistered m)
    (noticed : Noticed (fun other => other = owner ∨ closing other) m) :
    Noticed closing after := by
  obtain ⟨-, -, outputs, -⟩ := dropped.leaves shaped registered
  obtain ⟨gone, left, reach, -⟩ := dropped
  have noticedGone : Noticed (fun other => other = owner ∨ closing other) gone := by
    obtain ⟨middle, sent, -, rfl⟩ := left
    cases sent
    refine noticed.grow (List.prefix_append _ _) (fun _ => id)
      (fun _ _ present => (AList.mem_erase.mp present).2) fun other member => .inl ?_
    rwa [History.lost_append_silent rfl] at member
  have noticedAfter := Follows.noticed (reach.mono fun _ => Move.Releasing.inner)
    (left.shaped shaped) noticedGone
  intro other member
  obtain ⟨connected, known⟩ := noticedAfter other member
  refine ⟨connected, known.imp_right fun known => ?_⟩
  rcases known with absent | rfl | closed
  · exact .inl absent
  · rw [outputs]
    exact .inl (AList.mem_erase.not.mpr fun held => held.1 rfl)
  · exact .inr closed

theorem Drops.noticed {connections : List Connection} (drops : Drops env connections m after)
    (shaped : Shaped m) (registered : OwnersRegistered m)
    (noticed : Noticed (fun other => other ∈ connections) m) :
    Noticed (fun _ => False) after := by
  induction drops with
  | nil => exact fun owner member => (noticed owner member).imp_right (Or.imp_right (Or.imp_right (by simp)))
  | cons dropped _ inductionHypothesis =>
      refine inductionHypothesis (Follows.shaped dropped.during shaped)
        (dropped.leaves shaped registered).1 (dropped.noticed shaped registered ?_)
      exact fun owner member =>
        (noticed owner member).imp_right (Or.imp_right (Or.imp_right List.mem_cons.mp))

theorem Drops.leaves {connections : List Connection} (drops : Drops env connections m after)
    (shaped : Shaped m) (registered : OwnersRegistered m) :
    Shaped after ∧ OwnersRegistered after ∧ after.bridge.failed = m.bridge.failed ∧
      ∀ other, other ∈ after.bridge.outputs →
        other ∈ m.bridge.outputs ∧ other ∉ connections := by
  induction drops with
  | nil => exact ⟨shaped, registered, rfl, by simp⟩
  | cons dropped _ inductionHypothesis =>
      obtain ⟨registered', -, outputs, failed⟩ := dropped.leaves shaped registered
      obtain ⟨shapedLast, registeredLast, failedLast, kept⟩ :=
        inductionHypothesis (Follows.shaped dropped.during shaped) registered'
      refine ⟨shapedLast, registeredLast, failedLast.trans failed, fun other present => ?_⟩
      obtain ⟨member, unlisted⟩ := kept other present
      rw [outputs] at member
      obtain ⟨apart, before⟩ := AList.mem_erase.mp member
      exact ⟨before, fun listed => (List.mem_cons.mp listed).elim apart unlisted⟩

/-- After the failed connections are dropped, none is left. -/
theorem FailedDropped.noticed (dropped : FailedDropped env m after) (shaped : Shaped m)
    (registered : OwnersRegistered m) (noticed : Noticed (fun _ => False) m) :
    Shaped after ∧ OwnersRegistered after ∧ after.bridge.failed = [] ∧
      Noticed (fun _ => False) after := by
  obtain ⟨looked, taken, failed, reach, same, emptied, listed, drops⟩ := dropped
  have inner := reach.mono fun _ => Move.Reading.inner
  have shapedLook := Follows.shaped reach shaped
  have registeredLook := Follows.keeps_registered inner registered
  have registeredTaken : OwnersRegistered taken :=
    emptied.keeps_registered (fun _ => rfl) registeredLook
  have noticedLook := Follows.noticed inner shaped noticed
  have shapedTaken := emptied.shaped shapedLook
  obtain ⟨middle, sent, -, rfl⟩ := emptied
  cases sent
  have noticedTaken : Noticed (fun other => other ∈ failed)
      { bridge := Move.effect .failuresTaken looked.bridge
        log := looked.log ++ (Move.entries .failuresTaken) } := by
    intro owner member
    rw [History.lost_append_silent rfl] at member
    obtain ⟨connected, known⟩ := noticedLook owner member
    refine ⟨List.mem_append_left _ connected, .inr ?_⟩
    rcases known with marked | absent | none
    · rw [same] at marked
      exact .inr ((listed owner).mpr marked)
    · exact .inl absent
    · exact none.elim
  obtain ⟨shapedAfter, registeredAfter, failedAfter, -⟩ := Drops.leaves drops shapedTaken registeredTaken
  exact ⟨shapedAfter, registeredAfter, failedAfter,
    Drops.noticed drops shapedTaken registeredTaken noticedTaken⟩

/-- After the closed connections are dropped, none is left. -/
theorem ClosedDropped.noticed (dropped : ClosedDropped env m after) (shaped : Shaped m)
    (registered : OwnersRegistered m) (noticed : Noticed (fun _ => False) m) :
    after.bridge.failed = m.bridge.failed ∧ OwnersRegistered after ∧
      Noticed (fun _ => False) after := by
  obtain ⟨looked, readings, asked, closed, reach, same, probed, -, listed, drops⟩ := dropped
  have inner := reach.mono fun _ => Move.Reading.inner
  have shapedLook := Follows.shaped reach shaped
  have registeredLook := Follows.keeps_registered inner registered
  have registeredAsked : OwnersRegistered asked :=
    probed.keeps_registered (fun _ => rfl) registeredLook
  have noticedLook := Follows.noticed inner shaped noticed
  have shapedAsked := probed.shaped shapedLook
  obtain ⟨middle, sent, -, rfl⟩ := probed
  cases sent
  have noticedAsked : Noticed (fun other => other ∈ closed)
      { bridge := Move.effect (.probed readings) looked.bridge
        log := looked.log ++ (Move.entries (.probed readings)) } := by
    intro owner member
    rw [History.lost_append] at member
    rcases List.mem_append.mp member with old | new
    · obtain ⟨connected, known⟩ := noticedLook owner old
      refine ⟨List.mem_append_left _ connected, known.imp_right (Or.imp_right False.elim)⟩
    · obtain ⟨entry, noted, lost⟩ := List.mem_filterMap.mp new
      obtain ⟨⟨output, reply⟩, answered, rfl⟩ := List.mem_map.mp noted
      cases reply with
      | false => cases lost
      | true =>
          cases lost
          obtain ⟨connection, dropped, found⟩ := listed output answered
          rw [← same] at found
          obtain ⟨filed, connected⟩ := shapedLook.outputs _ _ found
          rw [filed]
          exact ⟨List.mem_append_left _ connected, .inr (.inr dropped)⟩
  obtain ⟨-, registeredAfter, failedAfter, -⟩ := Drops.leaves drops shapedAsked registeredAsked
  refine ⟨failedAfter.trans ?_, registeredAfter,
    Drops.noticed drops shapedAsked registeredAsked noticedAsked⟩
  show looked.bridge.failed = m.bridge.failed
  rw [same]

/-- A connection that registered before does not register again. -/
theorem Transition.noticed_connected {connection : Connection} {closing : Connection → Prop}
    (taken : Transition env (.connected connection) m after) (once : after.log.ConnectsOnce)
    (noticed : Noticed closing m) : Noticed closing after := by
  obtain ⟨middle, sent, -, rfl⟩ := taken
  cases sent
  refine noticed.grow (List.prefix_append _ _) (fun _ => id) (fun owner connected present => ?_)
    fun owner member => .inl ?_
  · rcases (AList.mem_insert _).mp present with rfl | before
    · unfold History.ConnectsOnce at once
      rw [List.filterMap_append, List.nodup_append] at once
      exact absurd rfl (once.2.2 owner (List.mem_filterMap.mpr ⟨_, connected, rfl⟩) owner
        (List.mem_singleton_self owner))
    · exact before
  · rwa [History.lost_append_silent rfl] at member

theorem Noticed.performed {op : Operation} (performed : Performed env op m after)
    (shaped : Shaped m) (registered : OwnersRegistered m) (once : after.log.ConnectsOnce)
    (noticed : Noticed (fun _ => False) m) : Noticed (fun _ => False) after := by
  cases op with
  | connect connection => exact Transition.noticed_connected performed once noticed
  | command owner v => exact Follows.noticed (performed.mono fun _ => Move.By.inner) shaped noticed
  | tick =>
      rcases performed with ⟨cause, rfl⟩ |
        ⟨events, polled, handled, timed, cleaned, taken, batch, waited, failed, closed⟩
      · have noted : Follows (Transition env) Move.Inner m
            { m with log := m.log ++ [.poll (.error cause)] } :=
          Move.observe (.refl m) trivial (by simp [Entry.Inert])
        exact Follows.noticed noted shaped noticed
      · have inner : Follows (Transition env) Move.Inner m timed :=
          ((Follows.single taken trivial).trans (batch.follows.mono fun _ => And.left)).trans
            (waited.mono fun _ => Move.OnTime.inner)
        obtain ⟨shapedClean, registeredClean, -, noticedClean⟩ :=
          failed.noticed (Follows.shaped inner shaped) (Follows.keeps_registered inner registered)
            (Follows.noticed inner shaped noticed)
        exact (closed.noticed shapedClean registeredClean noticedClean).2.2
  | disconnect owner =>
      exact Dropped.noticed performed shaped registered fun other member =>
        (noticed other member).imp_right (Or.imp_right (Or.imp_right False.elim))
  | shutdown =>
      obtain ⟨middle, connections, looked, -, -, drops⟩ := performed
      have inner := looked.mono fun _ => Move.Reading.inner
      refine Drops.noticed drops (Follows.shaped inner shaped)
        (Follows.keeps_registered inner registered) fun other member => ?_
      exact (Follows.noticed inner shaped noticed other member).imp_right
        (Or.imp_right (Or.imp_right False.elim))

/-! ### Runs -/

section Runs

variable {access : Access} {timeout : Duration}

theorem Bridge.not_mentions_new (owner : Connection) :
    ¬ (Bridge.new access timeout).Mentions owner := by
  rintro (⟨found, -⟩ | ⟨found, -⟩ | ⟨found, -⟩ | ⟨found, -⟩ | ⟨found, -⟩ | ⟨found, -⟩ |
    ⟨found, -⟩ | ⟨found, -⟩) <;> cases found

theorem Reachable.registered (reached : Reachable env access timeout m) : OwnersRegistered m :=
  reached.always OwnersRegistered
    (fun _ _ _ _ shaped performed held => held.performed performed shaped)
    (shaped_new access timeout) fun _ mention => absurd mention (Bridge.not_mentions_new _)

theorem Reachable.used (reached : Reachable env access timeout m) : m.bridge.Used := by
  refine reached.always (fun m => m.bridge.Used) (fun _ _ _ _ _ performed held => ?_)
    (shaped_new access timeout) ⟨by rintro _ _ ⟨⟩, by rintro _ _ ⟨⟩⟩
  refine performed.follows.invariant (fun m => m.bridge.Used) (fun _ before after _ taken used => ?_)
    held
  obtain ⟨middle, sent, enabled, rfl⟩ := taken
  obtain ⟨next, failed, tables⟩ := sent.tables
  refine Move.keeps_used enabled ?_
  rw [tables]
  exact ⟨used.publishers, used.subscriptions⟩

theorem Reachable.noticed (reached : Reachable env access timeout m)
    (once : m.log.ConnectsOnce) : Noticed (fun _ => False) m :=
  (reached.invariant (fun m => m.log.ConnectsOnce)
    (fun m => OwnersRegistered m ∧ Noticed (fun _ => False) m) once
    (fun _ _ grown once => once.inherit grown)
    (fun _ _ _ _ shaped once performed held =>
      ⟨held.1.performed performed shaped, held.2.performed performed shaped held.1 once⟩)
    (shaped_new access timeout)
    ⟨fun _ mention => absurd mention (Bridge.not_mentions_new _), by rintro _ ⟨⟩⟩).2

/-- Nobody is registered but by `connect`. -/
theorem Performed.absent {op : Operation} (performed : Performed env op m after)
    (shaped : Shaped m) (other : op ≠ .connect owner) (absent : owner ∉ m.bridge.outputs) :
    owner ∉ after.bridge.outputs := by
  have kept {move : Move} {before after : Machine} (taken : Transition env move before after)
      (same : ∀ b, (move.effect b).outputs = b.outputs) (absent : owner ∉ before.bridge.outputs) :
      owner ∉ after.bridge.outputs := by
    rwa [taken.keeps Bridge.outputs (fun _ _ _ => rfl) same]
  refine performed.invariant (fun m => owner ∉ m.bridge.outputs) shaped ?_ ?_ ?_ ?_ ?_ absent
  · exact fun _ _ _ _ inner taken => kept taken inner.keeps_outputs
  · intro connection before after same _ taken absent
    obtain ⟨next, failed, tables⟩ := taken.bridge
    have apart : owner ≠ connection := fun equal => other (equal ▸ same)
    rw [tables]
    exact (AList.mem_insert _).not.mpr (not_or.mpr ⟨apart, absent⟩)
  · exact fun _ _ _ taken => kept taken fun _ => rfl
  · exact fun _ _ _ _ taken => kept taken fun _ => rfl
  · intro gone before after _ dropped absent present
    obtain ⟨left, taken, reach, -⟩ := dropped
    obtain ⟨next, failed, tables⟩ := taken.bridge
    have outputs := Follows.keeps Bridge.outputs (fun _ _ _ => rfl)
      (fun _ releasing => releasing.keeps_outputs) reach
    rw [outputs, tables] at present
    exact absent (AList.mem_erase.mp present).2

/-- A command of a connection that is not registered does nothing. -/
theorem command_of_absent {v : Object} (absent : owner ∉ m.bridge.outputs) :
    perform env (.command owner v) m = (.ok (), m) := by
  show command env owner (.obj v) m = _
  unfold command
  show Program.bind tables _ m = _
  unfold Program.bind tables
  dsimp only
  rw [if_neg absent]
  rfl

/-- Tables without owners are empty. -/
theorem Bridge.Used.empty {b : Bridge} (used : b.Used) (unowned : ∀ owner, ¬ b.Mentions owner) :
    b.publishers = ∅ ∧ b.subscriptions = ∅ ∧ b.services = ∅ ∧ b.calls = ∅ ∧ b.external = ∅ ∧
      b.goals = ∅ ∧ b.actionServers = ∅ ∧ b.serverGoals = ∅ := by
  have vacant {κ ν : Type} [DecidableEq κ] {table : Table κ ν}
      (owned : ∀ key value, table.lookup key = some value → ∃ owner, b.Mentions owner) :
      table = ∅ := by
    refine (AList.eq_empty_iff table).mpr fun key => ?_
    cases found : table.lookup key with
    | none => rfl
    | some value => 
        obtain ⟨owner, mention⟩ := owned key value found
        exact absurd mention (unowned owner)
  have member {ν : Type} {table : Table Connection ν} (some : table ≠ ∅) :
      ∃ owner, owner ∈ table := by
    by_contra none
    refine some ((AList.eq_empty_iff table).mpr fun key => AList.lookup_eq_none.mpr ?_)
    exact fun present => none ⟨key, present⟩
  refine ⟨vacant fun topic publisher found => ?_, vacant fun topic subscription found => ?_,
    vacant fun _ _ found => ⟨_, .service found rfl⟩, vacant fun _ _ found => ⟨_, .call found rfl⟩,
    vacant fun _ _ found => ⟨_, .external found rfl⟩, vacant fun _ _ found => ⟨_, .goal found rfl⟩,
    vacant fun _ _ found => ⟨_, .server found rfl⟩,
    vacant fun _ _ found => ⟨_, .serverGoal found rfl⟩⟩
  · obtain ⟨owner, owns⟩ := member (used.publishers topic publisher found).owners
    exact ⟨owner, .publisher found owns⟩
  · obtain ⟨owner, owns⟩ := member (used.subscriptions topic subscription found).clients
    exact ⟨owner, .subscription found owns⟩

end Runs

end Rosbridge
