import Rosbridge.Foundation.Weave
import Rosbridge.Session.Socket

/-!
What a session sends and hands over.

Owns: what each of its parties does by itself, whatever the others do; and that the sink carries
the writes of all of them one after the other.
-/

set_option autoImplicit false

namespace Rosbridge.Session

open Foundation

variable {settings : Settings} {s after : Session} {occurrences : List Occurrence}
  {occurrence : Occurrence}

/-! ### Each party by itself -/

/-- What the reader makes of what it hears: the values it hands over, and what it writes. -/
structure Ear where
  decoder : Decoder
  offered : List Json
  answers : List (List Packet)

def Ear.hear (settings : Settings) (ear : Ear) : Occurrence → Ear
  | .heard .ping _ => { ear with answers := ear.answers ++ [[]] }
  | .heard (.data arrival) _ =>
      match Decoder.decode settings.codec settings.max arrival ear.decoder with
      | (.ok (some value), decoder) => { ear with decoder, offered := ear.offered ++ [value] }
      | (.error cause, decoder) =>
          { ear with decoder, answers := ear.answers ++ [[status settings cause]] }
      | (_, decoder) => { ear with decoder }
  | _ => ear

def ear (settings : Settings) (occurrences : List Occurrence) : Ear :=
  occurrences.foldl (Ear.hear settings) ⟨.withTimeout settings.fragmentTimeout, [], []⟩

def Occurrence.batch? : Occurrence → Option (List Packet)
  | .received frames => some (frames.map .frame)
  | _ => none

def Occurrence.wakes : Occurrence → Bool
  | .woke => true
  | _ => false

/-- How often the heartbeat woke. -/
def probes (occurrences : List Occurrence) : Nat := (occurrences.filter Occurrence.wakes).length

/-- The ping of the heartbeat's `index`-th round, which counts from zero. -/
def pinging (index : Nat) : List Packet := [.ping (payload ((index + 1) % 2 ^ 64))]

/-- What each party writes, in order. -/
def asked (settings : Settings) (occurrences : List Occurrence) : Party → List (List Packet)
  | .reader => (ear settings occurrences).answers
  | .writer => occurrences.filterMap Occurrence.batch?
  | .heartbeat => (List.range (probes occurrences)).map pinging

/-- The write that an occurrence begins. -/
def begun (settings : Settings) (occurrences : List Occurrence) :
    Occurrence → Option (Party × List Packet)
  | .heard .ping _ => some (.reader, [])
  | .heard (.data arrival) _ =>
      match (Decoder.decode settings.codec settings.max arrival (ear settings occurrences).decoder).1
      with
      | .error cause => some (.reader, [status settings cause])
      | _ => none
  | .received frames => some (.writer, frames.map .frame)
  | .woke => some (.heartbeat, pinging (probes occurrences))
  | _ => none

theorem ear_snoc (settings : Settings) (occurrences : List Occurrence) (occurrence : Occurrence) :
    ear settings (occurrences ++ [occurrence]) = (ear settings occurrences).hear settings occurrence :=
  List.foldl_append

theorem probes_snoc (occurrences : List Occurrence) (occurrence : Occurrence) :
    probes (occurrences ++ [occurrence]) =
      probes occurrences + if occurrence.wakes then 1 else 0 := by
  unfold probes
  rw [List.filter_append, List.length_append]
  cases wakes : occurrence.wakes <;> simp [wakes]

theorem Ear.hear_answers (settings : Settings) (occurrences : List Occurrence)
    (occurrence : Occurrence) :
    ((ear settings occurrences).hear settings occurrence).answers =
      (ear settings occurrences).answers ++
        ((begun settings occurrences occurrence).filter fun write => write.1 = .reader).toList.map
          Prod.snd := by
  cases occurrence with
  | heard heard reply =>
      cases heard with
      | data arrival =>
          unfold Ear.hear begun
          dsimp only
          generalize Decoder.decode settings.codec settings.max arrival _ = decoded
          obtain ⟨outcome, decoder⟩ := decoded
          cases outcome with
          | ok value => cases value <;> exact (List.append_nil _).symm
          | error cause => rfl
          | panic site => exact (List.append_nil _).symm
      | ping => rfl
      | close | pong => exact (List.append_nil _).symm
  | _ => exact (List.append_nil _).symm

/-- Each party writes what it was asked before, and then what it begins. -/
theorem asked_snoc (settings : Settings) (occurrences : List Occurrence) (occurrence : Occurrence)
    (party : Party) :
    asked settings (occurrences ++ [occurrence]) party = asked settings occurrences party ++
      ((begun settings occurrences occurrence).filter fun write => write.1 = party).toList.map
        Prod.snd := by
  cases party with
  | reader =>
      unfold asked
      rw [ear_snoc]
      exact Ear.hear_answers settings occurrences occurrence
  | writer =>
      unfold asked
      rw [List.filterMap_append]
      cases occurrence with
      | heard heard reply =>
          cases heard with
          | data arrival =>
              unfold begun
              dsimp only
              split <;> rfl
          | _ => rfl
      | _ => rfl
  | heartbeat =>
      show (List.range (probes (occurrences ++ [occurrence]))).map pinging =
        (List.range (probes occurrences)).map pinging ++ _
      rw [probes_snoc]
      cases occurrence with
      | heard heard reply =>
          cases heard with
          | data arrival =>
              unfold begun
              dsimp only
              generalize (Decoder.decode settings.codec settings.max arrival _).1 = outcome
              cases outcome <;> exact (List.append_nil _).symm
          | _ => exact (List.append_nil _).symm
      | woke =>
          show (List.range (probes occurrences + 1)).map pinging = _
          rw [List.range_succ, List.map_append]
          rfl
      | _ => exact (List.append_nil _).symm

/-- Nobody begins a write. -/
theorem asked_quiet (quiet : begun settings occurrences occurrence = none) :
    asked settings (occurrences ++ [occurrence]) = asked settings occurrences := by
  funext party
  rw [asked_snoc, quiet]
  exact List.append_nil _

/-- A party begins a write. -/
theorem asked_begun {party : Party} {packets : List Packet}
    (begins : begun settings occurrences occurrence = some (party, packets)) :
    asked settings (occurrences ++ [occurrence]) = Function.update (asked settings occurrences) party
      (asked settings occurrences party ++ [packets]) := by
  funext other
  rw [asked_snoc, begins]
  by_cases own : other = party
  · subst own
    simp
  · rw [Function.update_of_ne own]
    have apart : party ≠ other := fun same => own same.symm
    simp [Option.filter_some, apart]

/-! ### Side by side -/

/-- What the parties sent of their writes, and what is left. -/
def views (s : Session) (party : Party) : Option (List Packet × List Packet) :=
  (s.jobs party).map fun job => (job.done, job.rest)

/-- A session while it is running. -/
structure Live (settings : Settings) (occurrences : List Occurrence) (s : Session) : Prop where
  decoder : s.decoder = (ear settings occurrences).decoder
  offered : s.offered = (ear settings occurrences).offered
  sequence : s.sequence = probes occurrences % 2 ^ 64
  weave : Weave (asked settings occurrences) s.views s.holder s.sent

theorem views_update (s : Session) (party : Party) (job : Option Job) :
    (fun other => ((Function.update s.jobs party job) other).map fun job => (job.done, job.rest)) =
      Function.update s.views party (job.map fun job => (job.done, job.rest)) := by
  funext other
  by_cases own : other = party
  · subst own
    rw [Function.update_self, Function.update_self]
  · rw [Function.update_of_ne own, Function.update_of_ne own]
    rfl

/-- Nobody begins a write. -/
theorem Live.keep (live : Live settings occurrences s)
    (quiet : begun settings occurrences occurrence = none)
    (ear : (ear settings occurrences).hear settings occurrence = ear settings occurrences)
    (wakes : occurrence.wakes = false) (decoder : after.decoder = s.decoder)
    (offered : after.offered = s.offered) (sequence : after.sequence = s.sequence)
    (weave : Weave (asked settings occurrences) after.views after.holder after.sent) :
    Live settings (occurrences ++ [occurrence]) after where
  decoder := by rw [ear_snoc, ear, decoder, live.decoder]
  offered := by rw [ear_snoc, ear, offered, live.offered]
  sequence := by
    rw [probes_snoc, wakes, sequence, live.sequence]
    rfl
  weave := by rwa [asked_quiet quiet]

/-- A party begins a write. -/
theorem Live.start {party : Party} {write : Write} {packets : List Packet} {middle : Session}
    (live : Live settings occurrences s) (idle : s.jobs party = none)
    (begins : begun settings occurrences occurrence = some (party, packets))
    (decoder : middle.decoder = ((ear settings occurrences).hear settings occurrence).decoder)
    (offered : middle.offered = ((ear settings occurrences).hear settings occurrence).offered)
    (sequence : middle.sequence = probes (occurrences ++ [occurrence]) % 2 ^ 64)
    (jobs : middle.jobs = s.jobs) (holder : middle.holder = s.holder)
    (sent : middle.sent = s.sent) :
    Live settings (occurrences ++ [occurrence]) (middle.begin settings party write packets) where
  decoder := by rw [ear_snoc, ← decoder]; rfl
  offered := by rw [ear_snoc, ← offered]; rfl
  sequence := sequence
  weave := by
    have free : s.views party = none := by
      unfold views
      rw [idle]
      rfl
    have views : (middle.begin settings party write packets).views =
        Function.update s.views party (some ([], packets)) := by
      show (fun other => ((Function.update middle.jobs party _) other).map fun job =>
        (job.done, job.rest)) = _
      rw [jobs]
      exact views_update s party _
    rw [asked_begun begins, views]
    show Weave _ _ middle.holder middle.sent
    rw [holder, sent]
    exact live.weave.start free packets

/-- The first party to return ends the session. Nothing else changes. -/
def Goes (s after : Session) : Prop :=
  after = s ∨ ∃ result, after = s.finish result

section Data

variable {arrival : Arrival} {reply : Reply} {decoder : Decoder}

theorem Ear.hear_some {ear : Ear} {value : Json}
    (decoded : Decoder.decode settings.codec settings.max arrival ear.decoder =
      (.ok (some value), decoder)) :
    ear.hear settings (.heard (.data arrival) reply) =
      ⟨decoder, ear.offered ++ [value], ear.answers⟩ := by
  unfold hear
  dsimp only
  rw [decoded]

theorem Ear.hear_none {ear : Ear}
    (decoded : Decoder.decode settings.codec settings.max arrival ear.decoder =
      (.ok none, decoder)) :
    ear.hear settings (.heard (.data arrival) reply) = ⟨decoder, ear.offered, ear.answers⟩ := by
  unfold hear
  dsimp only
  rw [decoded]

theorem Ear.hear_error {ear : Ear} {cause : Error}
    (decoded : Decoder.decode settings.codec settings.max arrival ear.decoder =
      (.error cause, decoder)) :
    ear.hear settings (.heard (.data arrival) reply) =
      ⟨decoder, ear.offered, ear.answers ++ [[status settings cause]]⟩ := by
  unfold hear
  dsimp only
  rw [decoded]

theorem Occurrence.begins_ok {value : Option Json}
    (decoded : Decoder.decode settings.codec settings.max arrival (ear settings occurrences).decoder =
      (.ok value, decoder)) : begun settings occurrences (.heard (.data arrival) reply) = none := by
  unfold begun
  dsimp only
  rw [decoded]

theorem Occurrence.begins_error {cause : Error}
    (decoded : Decoder.decode settings.codec settings.max arrival (ear settings occurrences).decoder =
      (.error cause, decoder)) :
    begun settings occurrences (.heard (.data arrival) reply) =
      some (.reader, [status settings cause]) := by
  unfold begun
  dsimp only
  rw [decoded]

/-- What the reader makes of a frame. -/
theorem Live.data (live : Live settings occurrences s)
    (idle : s.jobs .reader = none) (heard : s.hear settings reply (.data arrival) = some after) :
    ∃ middle, Live settings (occurrences ++ [.heard (.data arrival) reply]) middle ∧
      middle.stage = s.stage ∧ Goes middle after := by
  have wakes : probes (occurrences ++ [.heard (.data arrival) reply]) = probes occurrences := by
    rw [probes_snoc]
    rfl
  unfold hear at heard
  dsimp only at heard
  rcases decoded : Decoder.decode settings.codec settings.max arrival s.decoder with
    ⟨outcome, decoder⟩
  rw [decoded] at heard
  rw [live.decoder] at decoded
  cases outcome with
  | panic site => cases heard
  | error cause =>
      cases heard
      refine ⟨begin settings { s with decoder } .reader .status [status settings cause],
        live.start idle (Occurrence.begins_error decoded) ?_ ?_ ?_ rfl rfl rfl, rfl, .inl rfl⟩
      · rw [Ear.hear_error decoded]
      · rw [Ear.hear_error decoded]
        exact live.offered
      · rw [wakes]
        exact live.sequence
  | ok value =>
      have took (values : List Json) (same : ((ear settings occurrences).hear settings
          (.heard (.data arrival) reply)) = ⟨decoder, values, (ear settings occurrences).answers⟩) :
          Live settings (occurrences ++ [.heard (.data arrival) reply])
            { s with decoder, offered := values } := by
        refine ⟨by rw [ear_snoc, same], by rw [ear_snoc, same], ?_, ?_⟩
        · rw [wakes]
          exact live.sequence
        · rw [asked_quiet (Occurrence.begins_ok decoded)]
          exact live.weave
      cases value with
      | none =>
          cases heard
          have same : (ear settings occurrences).hear settings (.heard (.data arrival) reply) =
              ⟨decoder, s.offered, (ear settings occurrences).answers⟩ := by
            rw [Ear.hear_none decoded, live.offered]
          exact ⟨_, took _ same, rfl, .inl rfl⟩
      | some value =>
          have same : (ear settings occurrences).hear settings (.heard (.data arrival) reply) =
              ⟨decoder, s.offered ++ [value], (ear settings occurrences).answers⟩ := by
            rw [Ear.hear_some decoded, live.offered]
          cases reply <;> cases heard
          · exact ⟨_, took _ same, rfl, .inl rfl⟩
          · exact ⟨_, took _ same, rfl, .inr ⟨_, rfl⟩⟩
          · exact ⟨_, took _ same, rfl, .inr ⟨_, rfl⟩⟩

end Data

/-- The party that has the sink writes its next packet. -/
theorem Live.feeds {party : Party} {job : Job} (live : Live settings occurrences s)
    (found : s.jobs party = some job) (holds : s.holder = some party) (left : job.rest ≠ []) :
    Weave (asked settings occurrences) (s.feed party job).views (s.feed party job).holder
      (s.feed party job).sent := by
  obtain ⟨write, done, rest, deadline⟩ := job
  cases rest with
  | nil => exact absurd rfl left
  | cons packet rest =>
      have sees : s.views party = some (done, packet :: rest) := by
        rw [views, found]
        rfl
      have views : (s.feed party ⟨write, done, packet :: rest, deadline⟩).views =
          Function.update s.views party (some (done ++ [packet], rest)) :=
        views_update s party _
      have weave := live.weave
      rw [holds] at weave
      rw [views]
      show Weave _ _ s.holder _
      rw [holds]
      exact weave.feed sees

/-- The party that has the sink is done. -/
theorem Live.flushes {party : Party} {job : Job} (live : Live settings occurrences s)
    (found : s.jobs party = some job) (holds : s.holder = some party) (left : job.rest = []) :
    Weave (asked settings occurrences) (s.flush settings party).views
      (s.flush settings party).holder (s.flush settings party).sent := by
  have sees : s.views party = some (job.done, []) := by
    rw [views, found, ← left]
    rfl
  have views : (s.flush settings party).views = Function.update s.views party none := by
    cases party <;> exact views_update s _ none
  have rest : (s.flush settings party).holder = none ∧ (s.flush settings party).sent = s.sent := by
    cases party <;> exact ⟨rfl, rfl⟩
  have weave := live.weave
  rw [holds] at weave
  rw [views, rest.1, rest.2]
  exact weave.flush sees

/-- What one step of a running session does. -/
theorem Live.step (live : Live settings occurrences s)
    (steps : s.after? settings occurrence = some after) :
    ∃ middle, Live settings (occurrences ++ [occurrence]) middle ∧ middle.stage = s.stage ∧
      Goes middle after := by
  -- Nobody begins a write.
  have stays (quiet : begun settings occurrences occurrence = none)
      (ear : (ear settings occurrences).hear settings occurrence = ear settings occurrences)
      (wakes : occurrence.wakes = false) (decoder : after.decoder = s.decoder)
      (offered : after.offered = s.offered) (sequence : after.sequence = s.sequence)
      (weave : Weave (asked settings occurrences) after.views after.holder after.sent)
      (stage : after.stage = s.stage) :
      ∃ middle, Live settings (occurrences ++ [occurrence]) middle ∧ middle.stage = s.stage ∧
        Goes middle after :=
    ⟨after, live.keep quiet ear wakes decoder offered sequence weave, stage, .inl rfl⟩
  -- The session is over.
  have ends (quiet : begun settings occurrences occurrence = none)
      (ear : (ear settings occurrences).hear settings occurrence = ear settings occurrences)
      (wakes : occurrence.wakes = false) (done : ∃ result, after = s.finish result) :
      ∃ middle, Live settings (occurrences ++ [occurrence]) middle ∧ middle.stage = s.stage ∧
        Goes middle after :=
    ⟨s, live.keep quiet ear wakes rfl rfl rfl live.weave, rfl, .inr done⟩
  unfold after? at steps
  cases occurrence with
  | elapsed time =>
      cases steps
      exact stays rfl rfl rfl rfl rfl rfl live.weave rfl
  | heard heard reply =>
      dsimp only at steps
      split at steps
      · next idle =>
          cases heard with
          | data arrival => exact live.data idle steps
          | close =>
              cases steps
              exact ends rfl rfl rfl ⟨_, rfl⟩
          | ping =>
              cases steps
              exact ⟨_, live.start idle rfl live.decoder live.offered
                (by rw [probes_snoc]; exact live.sequence) rfl rfl rfl, rfl, .inl rfl⟩
          | pong payload =>
              unfold hear at steps
              dsimp only at steps
              split at steps <;> cases steps <;>
                exact stays rfl rfl rfl rfl rfl rfl live.weave rfl
      · cases steps
  | lost failed =>
      dsimp only at steps
      split at steps
      · cases steps
        exact ends rfl rfl rfl ⟨_, rfl⟩
      · cases steps
  | received frames =>
      dsimp only at steps
      split at steps
      · next idle =>
          cases steps
          exact ⟨_, live.start idle rfl live.decoder live.offered
            (by rw [probes_snoc]; exact live.sequence) rfl rfl rfl, rfl, .inl rfl⟩
      · cases steps
  | drained reason =>
      dsimp only at steps
      split at steps
      · cases steps
        exact ends rfl rfl rfl ⟨_, rfl⟩
      · cases steps
  | woke =>
      dsimp only at steps
      split at steps
      · split at steps
        · next holds =>
            cases steps
            have next : (s.sequence + 1) % 2 ^ 64 = (probes occurrences + 1) % 2 ^ 64 := by
              rw [live.sequence, Nat.mod_add_mod]
            have begins : begun settings occurrences .woke =
                some (.heartbeat, [.ping (payload ((s.sequence + 1) % 2 ^ 64))]) := by
              rw [next]
              rfl
            have sequence : (s.sequence + 1) % 2 ^ 64 = probes (occurrences ++ [.woke]) % 2 ^ 64 := by
              rw [next, probes_snoc]
              rfl
            have woken : Live settings (occurrences ++ [.woke]) (begin settings
                { s with
                  sequence := (s.sequence + 1) % 2 ^ 64
                  pending := some (payload ((s.sequence + 1) % 2 ^ 64))
                  probe := .pinging } .heartbeat .ping
                [.ping (payload ((s.sequence + 1) % 2 ^ 64))]) :=
              live.start holds.2 begins live.decoder live.offered sequence rfl rfl rfl
            exact ⟨_, woken, rfl, .inl rfl⟩
        · cases steps
      · cases steps
  | locked party =>
      dsimp only at steps
      split at steps
      · next holds =>
          cases steps
          have weave := live.weave
          rw [holds.2] at weave
          have busy : (s.views party).isSome = true := by
            rw [views, Option.isSome_map]
            exact holds.1
          exact stays rfl rfl rfl rfl rfl rfl (weave.lock busy) rfl
      · cases steps
  | fed party =>
      dsimp only at steps
      split at steps
      · next job found =>
          split at steps
          · next holds =>
              cases steps
              have feeds := live.feeds found holds.1 holds.2
              have same : (s.feed party job).decoder = s.decoder ∧
                  (s.feed party job).offered = s.offered ∧
                  (s.feed party job).sequence = s.sequence ∧
                  (s.feed party job).stage = s.stage := by
                unfold feed
                split <;> exact ⟨rfl, rfl, rfl, rfl⟩
              exact stays rfl rfl rfl same.1 same.2.1 same.2.2.1 feeds same.2.2.2
          · cases steps
      · cases steps
  | flushed party =>
      dsimp only at steps
      split at steps
      · next job found =>
          split at steps
          · next holds =>
              cases steps
              have flushes := live.flushes found holds.1 holds.2
              cases party <;> exact stays rfl rfl rfl rfl rfl rfl flushes rfl
          · cases steps
      · cases steps
  | broke party | overran party =>
      dsimp only at steps
      split at steps
      · split at steps
        · cases steps
          exact ends rfl rfl rfl ⟨_, rfl⟩
        · cases steps
      · cases steps
  | looked =>
      dsimp only at steps
      split at steps
      · split at steps <;> cases steps <;>
          exact stays rfl rfl rfl rfl rfl rfl live.weave rfl
      · cases steps
  | notified =>
      dsimp only at steps
      split at steps
      · split at steps
        · cases steps
          exact stays rfl rfl rfl rfl rfl rfl live.weave rfl
        · cases steps
      · cases steps
  | expired =>
      dsimp only at steps
      split at steps
      · split at steps
        · cases steps
          exact ends rfl rfl rfl ⟨_, rfl⟩
        · cases steps
      · cases steps
  | closes | closed => cases steps

/-! ### Runs -/

/-- A session that is over. After its writes came `tail`. -/
structure Settled (settings : Settings) (occurrences : List Occurrence) (s : Session)
    (tail : List Packet) : Prop where
  offered : s.offered = (ear settings occurrences).offered
  woven : ∃ data, Woven (asked settings occurrences) data ∧ s.sent = data ++ tail

/-- What holds of every session. -/
def Orderly (settings : Settings) (occurrences : List Occurrence) (s : Session) : Prop :=
  match s.stage with
  | .running => Live settings occurrences s
  | .ended _ => Settled settings occurrences s []
  | .closing result => ∃ code reason, Session.closing result = (some code, reason) ∧
      Settled settings occurrences s [.close code reason]
  | .closed result => Settled settings occurrences s [] ∨
      ∃ code reason, Session.closing result = (some code, reason) ∧
        Settled settings occurrences s [.close code reason]

/-- The close frame goes out after the writes of the session. -/
theorem Settled.sign (settled : Settled settings occurrences s []) (packet : Packet)
    (stage : Stage) : Settled settings (occurrences ++ [.closes])
      { s with sent := s.sent ++ [packet], stage } [packet] := by
  obtain ⟨data, woven, whole⟩ := settled.woven
  refine ⟨?_, data, ?_, ?_⟩
  · rw [ear_snoc]
    exact settled.offered
  · rwa [asked_quiet rfl]
  · show s.sent ++ [packet] = _
    rw [whole, List.append_nil]

theorem Settled.close {tail : List Packet} (settled : Settled settings occurrences s tail)
    (stage : Stage) : Settled settings (occurrences ++ [.closed]) { s with stage } tail := by
  obtain ⟨data, woven, whole⟩ := settled.woven
  refine ⟨?_, data, ?_, whole⟩
  · rw [ear_snoc]
    exact settled.offered
  · rwa [asked_quiet rfl]

theorem Live.settled (live : Live settings occurrences s) : Settled settings occurrences s [] :=
  ⟨live.offered, s.sent, live.weave.stop, (List.append_nil _).symm⟩

theorem Orderly.step (orderly : Orderly settings occurrences s)
    (steps : Steps settings occurrence s after) :
    Orderly settings (occurrences ++ [occurrence]) after := by
  unfold Steps next? at steps
  unfold Orderly at orderly
  cases stage : s.stage with
  | running =>
      rw [stage] at steps orderly
      obtain ⟨middle, live, still, goes⟩ := Live.step orderly steps
      rcases goes with rfl | ⟨result, rfl⟩
      · unfold Orderly
        rw [still, stage]
        exact live
      · exact ⟨live.offered, live.settled.woven⟩
  | ended result =>
      rw [stage] at steps orderly
      have settled : Settled settings occurrences s [] := orderly
      unfold afterEnd? at steps
      cases occurrence with
      | closes =>
          dsimp only at steps
          cases signs : closing result with
          | mk code reason =>
              rw [signs] at steps
              cases code with
              | none => cases steps
              | some code =>
                  cases steps
                  exact ⟨code, reason, signs, settled.sign _ _⟩
      | closed =>
          cases steps
          exact .inl (settled.close _)
      | _ => cases steps
  | closing result =>
      rw [stage] at steps orderly
      obtain ⟨code, reason, signs, settled⟩ := orderly
      cases occurrence with
      | closed =>
          cases steps
          exact .inr ⟨code, reason, signs, settled.close _⟩
      | _ => cases steps
  | closed result =>
      rw [stage] at steps
      cases steps

theorem Reaches.orderly {now : Instant} (reached : Reaches settings now occurrences s) :
    Orderly settings occurrences s := by
  refine reached.history (Orderly settings) (fun _ _ _ _ steps orderly => orderly.step steps) ?_
  have nobody : asked settings [] = fun _ => [] := by
    funext party
    cases party <;> rfl
  refine ⟨rfl, rfl, rfl, ?_⟩
  rw [nobody]
  exact Weave.nothing

end Rosbridge.Session
