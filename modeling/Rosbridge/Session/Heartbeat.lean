import Rosbridge.Session.Traffic

/-!
The heartbeat of a session.

Owns: what a step means to it; and that it takes a ping for unanswered only when its pong was not
heard.
-/

set_option autoImplicit false

namespace Rosbridge.Session

open Foundation

variable {settings : Settings} {s after : Session} {occurrences : List Occurrence}
  {occurrence : Occurrence} {now : Instant}

/-! ### Steps -/

def Occurrence.time : Occurrence → Duration
  | .elapsed time => time
  | _ => 0

/-- How much time passed. -/
def clock (occurrences : List Occurrence) : Duration := (occurrences.map Occurrence.time).sum

theorem clock_append (first second : List Occurrence) :
    clock (first ++ second) = clock first + clock second := by
  unfold clock
  rw [List.map_append, List.sum_append]

/-- What a step of a running session means to the heartbeat. -/
inductive Beat (settings : Settings) (s : Session) : Occurrence → Session → Prop where
  | aside {occurrence : Occurrence} {after : Session} (stage : after.stage = s.stage)
      (now : after.now = s.now + occurrence.time) (pending : after.pending = s.pending)
      (permit : after.permit = s.permit) (sequence : after.sequence = s.sequence)
      (probe : after.probe = s.probe)
      (busy : (after.jobs .heartbeat).isSome = true → (s.jobs .heartbeat).isSome = true)
      (wakes : occurrence.wakes = false)
      (unmatched : ∀ payload reply, occurrence = .heard (.pong payload) reply →
        s.pending ≠ some payload) : Beat settings s occurrence after
  | answered {payload : List UInt8} {reply : Reply} (matched : s.pending = some payload) :
      Beat settings s (.heard (.pong payload) reply) { s with pending := none, permit := true }
  | woke {wake : Instant} {after : Session} (slept : s.probe = .sleeping wake)
      (due : wake ≤ s.now) (stage : after.stage = s.stage) (now : after.now = s.now)
      (pending : after.pending = some (payload after.sequence))
      (probe : after.probe = .pinging) : Beat settings s .woke after
  | pinged {after : Session} (busy : (s.jobs .heartbeat).isSome = true)
      (stage : after.stage = s.stage) (now : after.now = s.now) (pending : after.pending = s.pending)
      (permit : after.permit = s.permit) (sequence : after.sequence = s.sequence)
      (idle : after.jobs .heartbeat = none)
      (probe : after.probe = .awaiting (s.now + settings.timing.pingTimeout) false) :
      Beat settings s (.flushed .heartbeat) after
  | acknowledged {deadline : Instant} (awaits : s.probe = .awaiting deadline false)
      (answered : s.pending = none) : Beat settings s .looked
        { s with probe := .sleeping (s.now + settings.timing.pingInterval) }
  | parked {deadline : Instant} (awaits : s.probe = .awaiting deadline false)
      (unanswered : s.pending ≠ none) :
      Beat settings s .looked { s with probe := .awaiting deadline true }
  | notified {deadline : Instant} (awaits : s.probe = .awaiting deadline true)
      (permit : s.permit = true) : Beat settings s .notified
        { s with permit := false, probe := .awaiting deadline false }
  | expired {deadline : Instant} (awaits : s.probe = .awaiting deadline true)
      (due : deadline ≤ s.now) (permit : s.permit = false) :
      Beat settings s .expired (s.finish (.ok .heartbeatTimeout))
  | final {occurrence : Occurrence} {result : Result} {after : Session}
      (stage : after.stage = .ended result) (other : result ≠ .ok .heartbeatTimeout) :
      Beat settings s occurrence after

theorem after?_beat (steps : s.after? settings occurrence = some after) :
    Beat settings s occurrence after := by
  unfold after? at steps
  cases occurrence with
  | elapsed time =>
      cases steps
      exact .aside rfl rfl rfl rfl rfl rfl (fun busy => busy) rfl nofun
  | heard heard reply =>
      dsimp only at steps
      split at steps
      · cases heard with
        | data arrival =>
            unfold hear at steps
            dsimp only at steps
            split at steps
            · split at steps <;> cases steps
              · exact .aside rfl rfl rfl rfl rfl rfl (fun busy => busy) rfl nofun
              · exact .final rfl nofun
              · exact .final rfl nofun
            · cases steps
              exact .aside rfl rfl rfl rfl rfl rfl (fun busy => busy) rfl nofun
            · cases steps
              exact .aside rfl rfl rfl rfl rfl rfl (fun busy => busy) rfl nofun
            · cases steps
        | close =>
            cases steps
            exact .final rfl nofun
        | ping =>
            cases steps
            exact .aside rfl rfl rfl rfl rfl rfl (fun busy => busy) rfl nofun
        | pong payload =>
            unfold hear at steps
            dsimp only at steps
            split at steps
            · next matched =>
                cases steps
                exact .answered matched
            · next other =>
                cases steps
                refine .aside rfl rfl rfl rfl rfl rfl (fun busy => busy) rfl ?_
                intro payload reply same
                cases same
                exact other
      · cases steps
  | lost failed =>
      dsimp only at steps
      split at steps
      · cases steps
        refine .final rfl ?_
        split <;> exact nofun
      · cases steps
  | received frames =>
      dsimp only at steps
      split at steps
      · cases steps
        exact .aside rfl rfl rfl rfl rfl rfl (fun busy => busy) rfl nofun
      · cases steps
  | drained reason =>
      dsimp only at steps
      split at steps
      · cases steps
        exact .final rfl nofun
      · cases steps
  | woke =>
      dsimp only at steps
      split at steps
      · next slept =>
          split at steps
          · next holds =>
              cases steps
              exact .woke slept holds.1 rfl rfl rfl rfl
          · cases steps
      · cases steps
  | locked party =>
      dsimp only at steps
      split at steps
      · cases steps
        exact .aside rfl rfl rfl rfl rfl rfl (fun busy => busy) rfl nofun
      · cases steps
  | fed party =>
      dsimp only at steps
      split at steps
      · next job found =>
          split at steps
          · cases steps
            unfold feed
            split
            · exact .aside rfl rfl rfl rfl rfl rfl (fun busy => busy) rfl nofun
            · refine .aside rfl rfl rfl rfl rfl rfl (fun busy => ?_) rfl nofun
              by_cases own : party = .heartbeat
              · rw [← own, found]
                rfl
              · have still : (Function.update s.jobs party (some _) .heartbeat).isSome = true := busy
                rwa [Function.update_of_ne fun same => own same.symm] at still
          · cases steps
      · cases steps
  | flushed party =>
      dsimp only at steps
      split at steps
      · next job found =>
          split at steps
          · cases steps
            cases party with
            | heartbeat =>
                have idle : Function.update s.jobs .heartbeat none .heartbeat = none :=
                  Function.update_self ..
                exact .pinged (by rw [found]; rfl) rfl rfl rfl rfl rfl idle rfl
            | reader | writer =>
                exact .aside rfl rfl rfl rfl rfl rfl (fun busy => busy) rfl nofun
          · cases steps
      · cases steps
  | broke party | overran party =>
      dsimp only at steps
      split at steps
      · split at steps
        · cases steps
          exact .final rfl nofun
        · cases steps
      · cases steps
  | looked =>
      dsimp only at steps
      split at steps
      · next awaits =>
          split at steps
          · next answered =>
              cases steps
              exact .acknowledged awaits answered
          · next unanswered =>
              cases steps
              exact .parked awaits unanswered
      · cases steps
  | notified =>
      dsimp only at steps
      split at steps
      · next awaits =>
          split at steps
          · next permit =>
              cases steps
              exact .notified awaits permit
          · cases steps
      · cases steps
  | expired =>
      dsimp only at steps
      split at steps
      · next awaits =>
          split at steps
          · next holds =>
              cases steps
              exact .expired awaits holds.1 holds.2
          · cases steps
      · cases steps
  | closes | closed => cases steps

section Own

variable {deadline : Instant}

/-- The heartbeat looks at its ping, which is not answered. -/
theorem looks (running : s.stage = .running) (awaits : s.probe = .awaiting deadline false)
    (unanswered : s.pending ≠ none) :
    Steps settings .looked s { s with probe := .awaiting deadline true } := by
  unfold Steps
  rw [next?_running running]
  unfold after?
  dsimp only
  rw [awaits]
  exact if_neg unanswered

/-- The heartbeat is notified. -/
theorem notices (running : s.stage = .running) (awaits : s.probe = .awaiting deadline true)
    (permit : s.permit = true) : Steps settings .notified s
      { s with permit := false, probe := .awaiting deadline false } := by
  unfold Steps
  rw [next?_running running]
  unfold after?
  dsimp only
  rw [awaits]
  exact if_pos permit

/-- The heartbeat gives up. -/
theorem expires (running : s.stage = .running) (awaits : s.probe = .awaiting deadline true)
    (due : deadline ≤ s.now) (permit : s.permit = false) :
    Steps settings .expired s (s.finish (.ok .heartbeatTimeout)) := by
  unfold Steps
  rw [next?_running running]
  unfold after?
  dsimp only
  rw [awaits]
  exact if_pos ⟨due, permit⟩

/-- By steps of its own the heartbeat ends a session whose ping is not answered in time. -/
theorem gives_up {parked : Bool} (running : s.stage = .running)
    (awaits : s.probe = .awaiting deadline parked) (due : deadline ≤ s.now)
    (unanswered : s.pending ≠ none) :
    ∃ own last, own.length ≤ 4 ∧
      (∀ occurrence ∈ own, occurrence = .looked ∨ occurrence = .notified ∨ occurrence = .expired) ∧
      Trail (Steps settings) own s last ∧ last.stage = .ended (.ok .heartbeatTimeout) := by
  -- Without a permit, it gives up once it is parked.
  have free (s : Session) (running : s.stage = .running)
      (awaits : s.probe = .awaiting deadline false) (due : deadline ≤ s.now)
      (unanswered : s.pending ≠ none) (permit : s.permit = false) : ∃ last,
      Trail (Steps settings) [.looked, .expired] s last ∧
        last.stage = .ended (.ok .heartbeatTimeout) := by
    have parked : Steps settings .looked s { s with probe := .awaiting deadline true } :=
      looks running awaits unanswered
    exact ⟨_, .cons parked (.single (expires running rfl due permit)), rfl⟩
  -- A permit that is left over makes it look once more.
  have stale (s : Session) (running : s.stage = .running)
      (awaits : s.probe = .awaiting deadline true) (due : deadline ≤ s.now)
      (unanswered : s.pending ≠ none) (permit : s.permit = true) : ∃ last,
      Trail (Steps settings) [.notified, .looked, .expired] s last ∧
        last.stage = .ended (.ok .heartbeatTimeout) := by
    have noticed : Steps settings .notified s
        { s with permit := false, probe := .awaiting deadline false } :=
      notices running awaits permit
    obtain ⟨last, rest, ended⟩ := free { s with permit := false, probe := .awaiting deadline false }
      running rfl due unanswered rfl
    exact ⟨last, .cons noticed rest, ended⟩
  cases parked with
  | true =>
      cases permit : s.permit with
      | true =>
          obtain ⟨last, run, ended⟩ := stale s running awaits due unanswered permit
          exact ⟨[.notified, .looked, .expired], last, Nat.le_succ 3, by simp, run, ended⟩
      | false =>
          exact ⟨[.expired], _, Nat.le_add_left 1 3, by simp,
            .single (expires running awaits due permit), rfl⟩
  | false =>
      cases permit : s.permit with
      | true =>
          have looked : Steps settings .looked s { s with probe := .awaiting deadline true } :=
            looks running awaits unanswered
          obtain ⟨last, run, ended⟩ := stale { s with probe := .awaiting deadline true } running rfl
            due unanswered permit
          exact ⟨[.looked, .notified, .looked, .expired], last, Nat.le_refl 4, by simp, .cons looked run,
            ended⟩
      | false =>
          obtain ⟨last, run, ended⟩ := free s running awaits due unanswered permit
          exact ⟨[.looked, .expired], last, Nat.le_add_left 2 2, by simp, run, ended⟩

end Own

/-! ### Rounds -/

/-- The heartbeat did not wake again, and the pong it waits for was not heard. -/
structure Calm (s : Session) (later : List Occurrence) : Prop where
  asleep : ∀ occurrence ∈ later, occurrence.wakes = false
  unheard : ∀ payload reply, s.pending = some payload → .heard (.pong payload) reply ∉ later

theorem Calm.nil (s : Session) : Calm s [] := ⟨by simp, by simp⟩

theorem Calm.snoc {later : List Occurrence} (calm : Calm s later) (wakes : occurrence.wakes = false)
    (pending : ∀ payload, after.pending = some payload → s.pending = some payload)
    (unmatched : ∀ payload reply, occurrence = .heard (.pong payload) reply →
      after.pending ≠ some payload) : Calm after (later ++ [occurrence]) := by
  refine ⟨fun other member => ?_, fun payload reply waits member => ?_⟩
  · rcases List.mem_append.mp member with old | new
    · exact calm.asleep other old
    · rw [List.mem_singleton.mp new]
      exact wakes
  · rcases List.mem_append.mp member with old | new
    · exact calm.unheard payload reply (pending payload waits) old
    · exact unmatched payload reply (List.mem_singleton.mp new).symm waits

/-- What the heartbeat knows, in a session that began at `start`. -/
structure Probing (settings : Settings) (start : Instant) (occurrences : List Occurrence)
    (s : Session) : Prop where
  now : s.now = start + clock occurrences
  busy : (s.jobs .heartbeat).isSome = true → s.probe = .pinging
  pending : ∀ payload, s.pending = some payload → payload = Session.payload s.sequence
  pinging : s.probe = .pinging → ∃ earlier later, occurrences = earlier ++ .woke :: later ∧
    Calm s later
  noticed : ∀ deadline, s.probe = .awaiting deadline true → s.pending ≠ none ∨ s.permit = true
  timed : ∀ deadline parked, s.probe = .awaiting deadline parked → ∃ earlier sent later,
    occurrences = earlier ++ .woke :: (sent ++ .flushed .heartbeat :: later) ∧
    Calm s (sent ++ .flushed .heartbeat :: later) ∧
    deadline + clock later = s.now + settings.timing.pingTimeout

theorem clock_snoc (occurrences : List Occurrence) (occurrence : Occurrence) :
    clock (occurrences ++ [occurrence]) = clock occurrences + occurrence.time := by
  rw [clock_append]
  exact congrArg _ (Nat.add_zero _)

/-- The heartbeat stands where it stood. -/
theorem Probing.aside (probing : Probing settings now occurrences s)
    (time : after.now = s.now + occurrence.time)
    (pending : ∀ payload, after.pending = some payload → s.pending = some payload)
    (noticed : s.pending ≠ none ∨ s.permit = true → after.pending ≠ none ∨ after.permit = true)
    (sequence : after.sequence = s.sequence) (probe : after.probe = s.probe)
    (busy : (after.jobs .heartbeat).isSome = true → (s.jobs .heartbeat).isSome = true)
    (wakes : occurrence.wakes = false)
    (unmatched : ∀ payload reply, occurrence = .heard (.pong payload) reply →
      after.pending ≠ some payload) : Probing settings now (occurrences ++ [occurrence]) after where
  now := by rw [time, probing.now, clock_snoc, Nat.add_assoc]
  busy some := by rw [probe]; exact probing.busy (busy some)
  pending payload waits := by rw [sequence]; exact probing.pending payload (pending payload waits)
  pinging pings := by
    obtain ⟨earlier, later, whole, calm⟩ := probing.pinging (probe ▸ pings)
    refine ⟨earlier, later ++ [occurrence], ?_, calm.snoc wakes pending unmatched⟩
    rw [whole, List.append_assoc]
    rfl
  noticed deadline awaits := noticed (probing.noticed deadline (probe ▸ awaits))
  timed deadline parked awaits := by
    obtain ⟨earlier, sent, later, whole, calm, due⟩ := probing.timed deadline parked (probe ▸ awaits)
    refine ⟨earlier, sent, later ++ [occurrence], ?_, ?_, ?_⟩
    · rw [whole]
      simp
    · have grown := calm.snoc wakes pending unmatched
      rwa [List.append_assoc, List.cons_append] at grown
    · rw [clock_snoc, time, ← Nat.add_assoc, due]
      exact Nat.add_right_comm ..

/-- The heartbeat looks at its ping. -/
theorem Probing.looks (probing : Probing settings now occurrences s) (occurrence : Occurrence)
    {deadline : Instant} {parked : Bool} (awaits : s.probe = .awaiting deadline parked) (wakes : occurrence.wakes = false)
    (silent : occurrence.time = 0)
    (other : ∀ payload reply, occurrence ≠ .heard (.pong payload) reply) :
    (s.jobs .heartbeat).isSome = false ∧ ∃ earlier sent later,
      occurrences ++ [occurrence] = earlier ++ .woke :: (sent ++ .flushed .heartbeat :: later) ∧
      Calm s (sent ++ .flushed .heartbeat :: later) ∧
      deadline + clock later = s.now + settings.timing.pingTimeout := by
  refine ⟨Bool.eq_false_iff.mpr fun some => ?_, ?_⟩
  · have pings := probing.busy some
    rw [awaits] at pings
    cases pings
  · obtain ⟨earlier, sent, later, whole, calm, due⟩ := probing.timed deadline parked awaits
    refine ⟨earlier, sent, later ++ [occurrence], ?_, ?_, ?_⟩
    · rw [whole]
      simp
    · have grown : Calm s ((sent ++ .flushed .heartbeat :: later) ++ [occurrence]) :=
        calm.snoc wakes (fun _ waits => waits) fun payload reply same =>
          absurd same (other payload reply)
      rwa [List.append_assoc, List.cons_append] at grown
    · rw [clock_snoc, silent]
      exact due

theorem Probing.step (probing : Probing settings now occurrences s)
    (beat : Beat settings s occurrence after) (running : after.stage = .running) :
    Probing settings now (occurrences ++ [occurrence]) after := by
  have still {middle : Session} (time : middle.now = s.now) (silent : occurrence.time = 0) :
      middle.now = now + clock (occurrences ++ [occurrence]) := by
    rw [time, probing.now, clock_snoc, silent]
    rfl
  cases beat with
  | aside stage time pending permit sequence probe busy wakes unmatched =>
      refine probing.aside time (fun _ waits => pending ▸ waits) ?_ sequence probe busy wakes ?_
      · rw [pending, permit]
        exact fun noticed => noticed
      · rw [pending]
        exact unmatched
  | answered matched =>
      exact probing.aside rfl nofun (fun _ => .inr rfl) rfl rfl (fun busy => busy) rfl nofun
  | woke slept due stage time pending probe =>
      refine ⟨still time rfl, fun _ => probe, fun payload waits => ?_, fun _ => ?_,
        fun deadline awaits => ?_, fun deadline parked awaits => ?_⟩
      · rw [pending] at waits
        exact (Option.some.inj waits).symm
      · exact ⟨occurrences, [], rfl, .nil after⟩
      · rw [probe] at awaits
        cases awaits
      · rw [probe] at awaits
        cases awaits
  | pinged busy stage time pending permit sequence idle probe =>
      refine ⟨still time rfl, fun some => ?_, fun payload waits => ?_, fun pings => ?_,
        fun deadline awaits => ?_, fun deadline parked awaits => ?_⟩
      · rw [idle] at some
        cases some
      · rw [sequence]
        exact probing.pending payload (pending ▸ waits)
      · rw [probe] at pings
        cases pings
      · rw [probe] at awaits
        cases awaits
      · rw [probe] at awaits
        cases awaits
        obtain ⟨earlier, sent, whole, calm⟩ := probing.pinging (probing.busy busy)
        refine ⟨earlier, sent, [], ?_, ?_, ?_⟩
        · rw [whole, List.append_assoc]
          rfl
        · exact calm.snoc rfl (fun _ waits => pending ▸ waits) nofun
        · rw [time]
          rfl
  | acknowledged awaits answered =>
      obtain ⟨idle, -⟩ := probing.looks .looked awaits rfl rfl nofun
      exact ⟨still rfl rfl, fun some => absurd (idle.symm.trans some) nofun, probing.pending, nofun,
        nofun, nofun⟩
  | @parked deadline awaits unanswered =>
      obtain ⟨idle, earlier, sent, later, whole, calm, due⟩ :=
        probing.looks .looked awaits rfl rfl nofun
      refine ⟨still rfl rfl, fun some => absurd (idle.symm.trans some) nofun, probing.pending, nofun,
        fun _ _ => .inl unanswered, fun other parked same => ?_⟩
      cases same
      exact ⟨earlier, sent, later, whole, ⟨calm.asleep, calm.unheard⟩, due⟩
  | @notified deadline awaits permit =>
      obtain ⟨idle, earlier, sent, later, whole, calm, due⟩ :=
        probing.looks .notified awaits rfl rfl nofun
      refine ⟨still rfl rfl, fun some => absurd (idle.symm.trans some) nofun, probing.pending, nofun,
        nofun, fun other parked same => ?_⟩
      cases same
      exact ⟨earlier, sent, later, whole, ⟨calm.asleep, calm.unheard⟩, due⟩
  | expired => cases running
  | final stage =>
      rw [stage] at running
      cases running

/-- A round that timed out: the ping went out, its pong was not heard, and the timeout passed
since. -/
def Overdue (settings : Settings) (occurrences : List Occurrence) : Prop :=
  ∃ earlier sent later rest, occurrences =
      earlier ++ .woke :: (sent ++ .flushed .heartbeat :: (later ++ .expired :: rest)) ∧
    (∀ payload reply, .ping payload ∈ pinging (probes earlier) →
      .heard (.pong payload) reply ∉ sent ++ later) ∧
    settings.timing.pingTimeout ≤ clock later

/-- What holds of every session: the heartbeat knows what it should, and it ended the session only
if a round of it timed out. -/
def Beating (settings : Settings) (start : Instant) (occurrences : List Occurrence) (s : Session) :
    Prop :=
  match s.stage with
  | .running => Probing settings start occurrences s ∧ Live settings occurrences s
  | .ended result | .closing result | .closed result =>
      result = .ok .heartbeatTimeout → Overdue settings occurrences

theorem Overdue.grow (overdue : Overdue settings occurrences) (occurrence : Occurrence) :
    Overdue settings (occurrences ++ [occurrence]) := by
  obtain ⟨earlier, sent, later, rest, rfl, unheard, passed⟩ := overdue
  exact ⟨earlier, sent, later, rest ++ [occurrence], by simp, unheard, passed⟩

/-- The heartbeat gives up only on a ping that was not answered in time. -/
theorem Probing.overdue (probing : Probing settings now occurrences s)
    (live : Live settings occurrences s) {deadline : Instant}
    (awaits : s.probe = .awaiting deadline true) (due : deadline ≤ s.now)
    (permit : s.permit = false) : Overdue settings (occurrences ++ [.expired]) := by
  obtain ⟨earlier, sent, later, whole, calm, timed⟩ := probing.timed deadline true awaits
  have waits : s.pending ≠ none :=
    (probing.noticed deadline awaits).resolve_right fun some => absurd (permit.symm.trans some) nofun
  obtain ⟨payload, waits⟩ := Option.ne_none_iff_exists'.mp waits
  refine ⟨earlier, sent, later, [], by rw [whole]; simp, ?_, ?_⟩
  · have rounds : probes occurrences = probes earlier + 1 := by
      have asleep : (sent ++ .flushed .heartbeat :: later).filter Occurrence.wakes = [] :=
        List.filter_eq_nil_iff.mpr fun occurrence member => by
          rw [calm.asleep occurrence member]
          exact Bool.false_ne_true
      rw [whole]
      unfold probes
      rw [List.filter_append, List.filter_cons_of_pos rfl, asleep, List.length_append]
      rfl
    intro other reply member heard
    have same : other = payload := by
      rw [probing.pending payload waits, live.sequence, rounds]
      exact Packet.ping.inj (List.mem_singleton.mp member)
    rw [same] at heard
    apply calm.unheard payload reply waits
    rcases List.mem_append.mp heard with early | late
    · exact List.mem_append_left _ early
    · exact List.mem_append_right _ (List.mem_cons_of_mem _ late)
  · have enough := Nat.add_le_add_right due (clock later)
    rw [timed] at enough
    exact Nat.le_of_add_le_add_left enough

theorem Beating.step (beating : Beating settings now occurrences s)
    (steps : Steps settings occurrence s after) :
    Beating settings now (occurrences ++ [occurrence]) after := by
  unfold Steps next? at steps
  unfold Beating at beating
  cases stage : s.stage with
  | running =>
      rw [stage] at steps beating
      obtain ⟨probing, live⟩ := beating
      obtain ⟨middle, live', still, goes⟩ := Live.step live steps
      have beat := after?_beat steps
      by_cases running : after.stage = .running
      · rcases goes with rfl | ⟨result, rfl⟩
        · unfold Beating
          rw [running]
          exact ⟨probing.step beat running, live'⟩
        · cases running
      · cases beat with
        | expired awaits due permit => exact fun _ => probing.overdue live awaits due permit
        | final ends other =>
            unfold Beating
            rw [ends]
            exact fun same => absurd same other
        | aside same | woke _ _ same | pinged _ same => exact absurd (same.trans stage) running
        | answered | acknowledged | parked | notified => exact absurd stage running
  | ended result =>
      rw [stage] at steps beating
      unfold afterEnd? at steps
      cases occurrence with
      | closes =>
          dsimp only at steps
          split at steps
          · cases steps
            exact fun same => Overdue.grow (beating same) _
          · cases steps
      | closed =>
          cases steps
          exact fun same => Overdue.grow (beating same) _
      | _ => cases steps
  | closing result =>
      rw [stage] at steps beating
      cases occurrence with
      | closed =>
          cases steps
          exact fun same => Overdue.grow (beating same) _
      | _ => cases steps
  | closed result =>
      rw [stage] at steps
      cases steps

end Rosbridge.Session
