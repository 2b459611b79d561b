import Rosbridge.Properties.Decoder
import Rosbridge.Session.Heartbeat

/-!
WebSocket sessions.

Owns: what a client sees of the writes of a session; what is handed over of what it says; and when
the heartbeat gives up on it.
-/

set_option autoImplicit false

namespace Rosbridge.Session

open Foundation

variable {settings : Settings} {s after : Session} {occurrences : List Occurrence}
  {occurrence : Occurrence} {now : Instant}

/-! ### Writes -/

/-- No party writes a close frame. -/
theorem asked_open {party : Party} {packets : List Packet} {packet : Packet}
    (asks : packets ∈ asked settings occurrences party) (member : packet ∈ packets) (code : CloseCode)
    (reason : String) : packet ≠ .close code reason := by
  induction occurrences using List.reverseRecOn with
  | nil =>
      cases party <;> cases asks
  | append_singleton occurrences occurrence inductionHypothesis =>
      rw [asked_snoc] at asks
      rcases List.mem_append.mp asks with before | begins
      · exact inductionHypothesis before
      · obtain ⟨write, here, rfl⟩ := List.mem_map.mp begins
        rw [Option.mem_toList, Option.filter_eq_some_iff] at here
        have begins := here.1
        cases occurrence with
        | heard heard reply =>
            cases heard with
            | data arrival =>
                unfold begun at begins
                dsimp only at begins
                split at begins
                · cases begins
                  rw [List.mem_singleton.mp member]
                  exact nofun
                · cases begins
            | ping =>
                cases begins
                cases member
            | close | pong => cases begins
        | received frames =>
            cases begins
            obtain ⟨frame, -, rfl⟩ := List.mem_map.mp member
            exact nofun
        | woke =>
            cases begins
            rw [List.mem_singleton.mp member]
            exact nofun
        | _ => cases begins

/-- The frames of a session are whole writes, one after the other: the reader's answers in order,
the batches of the outgoing channel in order, and the pings with successive numbers in order, each
in one piece, but for at most one that the end of the session cut short. A close frame comes last,
only once the session is over, and carries the code and reason of how it ended. -/
theorem frames_intact (reached : Reaches settings now occurrences s) :
    ∃ data tail, s.sent = data ++ tail ∧ Woven (asked settings occurrences) data ∧
      (∀ packet ∈ data, ∀ code reason, packet ≠ .close code reason) ∧
      (tail = [] ∨ ∃ result code reason, (s.stage = .closing result ∨ s.stage = .closed result) ∧
        closing result = (some code, reason) ∧ tail = [.close code reason]) := by
  have opens {data : List Packet} (woven : Woven (asked settings occurrences) data) :
      ∀ packet ∈ data, ∀ code reason, packet ≠ .close code reason := by
    intro packet member
    obtain ⟨party, packets, asks, inside⟩ := woven.asked_of_mem member
    exact asked_open asks inside
  have orderly := reached.orderly
  unfold Orderly at orderly
  cases stage : s.stage with
  | running =>
      rw [stage] at orderly
      obtain ⟨data, woven, whole⟩ := orderly.settled.woven
      exact ⟨data, [], whole, woven, opens woven, .inl rfl⟩
  | ended result =>
      rw [stage] at orderly
      obtain ⟨data, woven, whole⟩ := orderly.woven
      exact ⟨data, [], whole, woven, opens woven, .inl rfl⟩
  | closing result =>
      rw [stage] at orderly
      obtain ⟨code, reason, signs, settled⟩ := orderly
      obtain ⟨data, woven, whole⟩ := settled.woven
      exact ⟨data, _, whole, woven, opens woven, .inr ⟨result, code, reason, .inl rfl, signs, rfl⟩⟩
  | closed result =>
      rw [stage] at orderly
      rcases orderly with settled | ⟨code, reason, signs, settled⟩
      · obtain ⟨data, woven, whole⟩ := settled.woven
        exact ⟨data, [], whole, woven, opens woven, .inl rfl⟩
      · obtain ⟨data, woven, whole⟩ := settled.woven
        exact ⟨data, _, whole, woven, opens woven, .inr ⟨result, code, reason, .inr rfl, signs, rfl⟩⟩

/-- A session over the printers and parsers on one message. -/
def Settings.sample : Settings := ⟨.sample, fun _ => "", 100, Duration.fromSecs 5, {}⟩

/-- A client asks for nonsense while it is sent a batch, and the bridge shuts down. -/
theorem frames_intact_batch :
    let occurrences := [Occurrence.received [.text "a", .text "b"], .locked .writer, .fed .writer,
      .heard (.data ⟨.text "?", ⟨fun _ => 0, 0⟩⟩) .taken, .fed .writer, .flushed .writer,
      .locked .reader, .fed .reader, .drained none, .closes]
    ∃ s, Reaches .sample 0 occurrences s ∧
      s.sent = [.frame (.text "a"), .frame (.text "b"), .frame (.text ""),
        .close .away "bridge disconnected"] ∧
      ∃ data tail, s.sent = data ++ tail ∧ Woven (asked .sample occurrences) data := by
  intro occurrences
  have runs : ((start .sample 0).run? .sample occurrences).any fun s =>
      s.sent == [.frame (.text "a"), .frame (.text "b"), .frame (.text ""),
        .close .away "bridge disconnected"] := by decide +kernel
  obtain ⟨s, ran, sent⟩ := (Option.any_eq_true _ _).mp runs
  have reached : Reaches .sample 0 occurrences s := .of_run ran
  obtain ⟨data, tail, whole, woven, -, -⟩ := frames_intact reached
  exact ⟨s, reached, beq_iff_eq.mp sent, data, tail, whole, woven⟩

/-! ### Reads -/

/-- The data frame that was heard. -/
def Occurrence.arrival? : Occurrence → Option Arrival
  | .heard (.data arrival) _ => some arrival
  | _ => none

/-- The value that a decoder gave. -/
def value? : Arrival × Outcome Error (Option Json) → Option Json
  | (_, .ok value) => value
  | _ => none

/-- The error of a decoder. -/
def cause? : Arrival × Outcome Error (Option Json) → Option Error
  | (_, .error cause) => some cause
  | _ => none

/-- The decoder's run on the frames that were heard. -/
structure Decoding (settings : Settings) (occurrences : List Occurrence)
    (log : List (Arrival × Outcome Error (Option Json))) : Prop where
  run : Trail (Receives settings.codec settings.max) log (.withTimeout settings.fragmentTimeout)
    (ear settings occurrences).decoder
  arrivals : log.map Prod.fst = occurrences.filterMap Occurrence.arrival?
  offered : (ear settings occurrences).offered = log.filterMap value?
  answers : (ear settings occurrences).answers.flatten = (log.filterMap cause?).map (status settings)

/-- Nothing to decode is heard. -/
theorem Decoding.keep {log : List (Arrival × Outcome Error (Option Json))}
    (decoding : Decoding settings occurrences log) (silent : occurrence.arrival? = none) :
    Decoding settings (occurrences ++ [occurrence]) log := by
  obtain ⟨run, arrivals, offered, answers⟩ := decoding
  have same : ((ear settings occurrences).hear settings occurrence).decoder =
        (ear settings occurrences).decoder ∧
      ((ear settings occurrences).hear settings occurrence).offered =
        (ear settings occurrences).offered ∧
      ((ear settings occurrences).hear settings occurrence).answers.flatten =
        (ear settings occurrences).answers.flatten := by
    cases occurrence with
    | heard heard reply =>
        cases heard with
        | data arrival => cases silent
        | ping => exact ⟨rfl, rfl, by simp [Ear.hear]⟩
        | close | pong => exact ⟨rfl, rfl, rfl⟩
    | _ => exact ⟨rfl, rfl, rfl⟩
  refine ⟨?_, ?_, ?_, ?_⟩
  · rw [ear_snoc, same.1]
    exact run
  · rw [List.filterMap_append, List.filterMap_cons, silent]
    exact arrivals.trans (List.append_nil _).symm
  · rw [ear_snoc, same.2.1, offered]
  · rw [ear_snoc, same.2.2, answers]

/-- The decoder never panics, so each frame is decoded. -/
theorem decode_returns (codec : Codec) (limit : Nat) (arrival : Arrival) (decoder : Decoder) :
    ¬ (Decoder.decode codec limit arrival decoder).1.IsPanic := by
  have received : Receives codec limit (arrival, (Decoder.decode codec limit arrival decoder).1)
      decoder (Decoder.decode codec limit arrival decoder).2 := rfl
  exact received.decodes.returns

theorem exists_decoding (settings : Settings) (occurrences : List Occurrence) :
    ∃ log, Decoding settings occurrences log := by
  induction occurrences using List.reverseRecOn with
  | nil => exact ⟨[], .nil _, rfl, rfl, rfl⟩
  | append_singleton occurrences occurrence inductionHypothesis =>
      obtain ⟨log, decoding⟩ := inductionHypothesis
      cases heard : occurrence.arrival? with
      | none => exact ⟨log, decoding.keep heard⟩
      | some arrival =>
          obtain ⟨reply, rfl⟩ : ∃ reply, occurrence = .heard (.data arrival) reply := by
            cases occurrence with
            | heard heard' reply =>
                cases heard' <;> cases heard
                exact ⟨reply, rfl⟩
            | _ => cases heard
          obtain ⟨run, arrivals, offered, answers⟩ := decoding
          rcases decoded : Decoder.decode settings.codec settings.max arrival
            (ear settings occurrences).decoder with ⟨outcome, decoder⟩
          have received : Receives settings.codec settings.max (arrival, outcome)
              (ear settings occurrences).decoder decoder := decoded
          have more (same : ((ear settings occurrences).hear settings
                (.heard (.data arrival) reply)).decoder = decoder)
              (offers : ((ear settings occurrences).hear settings
                (.heard (.data arrival) reply)).offered =
                  (ear settings occurrences).offered ++ (value? (arrival, outcome)).toList)
              (replies : ((ear settings occurrences).hear settings
                (.heard (.data arrival) reply)).answers.flatten =
                  (ear settings occurrences).answers.flatten ++
                    ((cause? (arrival, outcome)).map (status settings)).toList) :
              ∃ log, Decoding settings (occurrences ++ [.heard (.data arrival) reply]) log := by
            refine ⟨log ++ [(arrival, outcome)], ?_, ?_, ?_, ?_⟩
            · rw [ear_snoc, same]
              exact run.append (.single received)
            · rw [List.map_append, arrivals, List.filterMap_append]
              rfl
            · rw [ear_snoc, offers, offered, List.filterMap_append, List.filterMap_cons]
              cases value? (arrival, outcome) <;> rfl
            · rw [ear_snoc, replies, answers, List.filterMap_append, List.map_append,
                List.filterMap_cons]
              cases cause? (arrival, outcome) <;> rfl
          cases outcome with
          | panic site => exact absurd trivial received.decodes.returns
          | error cause =>
              have hears := @Ear.hear_error settings arrival reply decoder _ cause decoded
              exact more (by rw [hears]) (by rw [hears]; exact (List.append_nil _).symm)
                (by rw [hears, List.flatten_append]; rfl)
          | ok value =>
              cases value with
              | none =>
                  have hears := @Ear.hear_none settings arrival reply decoder _ decoded
                  exact more (by rw [hears]) (by rw [hears]; exact (List.append_nil _).symm)
                    (by rw [hears]; exact (List.append_nil _).symm)
              | some value =>
                  have hears := @Ear.hear_some settings arrival reply decoder _ value decoded
                  exact more (by rw [hears]) (by rw [hears]; rfl)
                    (by rw [hears]; exact (List.append_nil _).symm)

/-- The decoder gives objects, and no fragments of them. -/
theorem decodes_object {codec : Codec} {limit : Nat} {swept after : Decoder} {now : Instant}
    {frame : Frame} {outcome : Outcome Error (Option Json)}
    (decodes : Decodes codec limit swept now frame outcome after) {value : Json}
    (gave : outcome = .ok (some value)) : value.isObject = true ∧ value.isFragment = false := by
  cases decodes with
  | @passed inner read plain =>
      cases gave
      exact plain value rfl
  | refused | overflowed | stored => cases gave
  | completed adds fits complete ended =>
      rw [ended] at gave
      unfold assembled at gave
      cases parsed : codec.fromStr (swept.filled now _).text with
      | error cause =>
          rw [parsed] at gave
          cases gave
      | ok inner =>
          rw [parsed] at gave
          by_cases holds : (inner.isObject && !inner.isFragment) = true
          · have same : (Outcome.ok (some inner) : Outcome Error (Option Json)) =
                .ok (some value) := by
              simpa [bind, Except.bind, holds, pure, Except.pure] using gave
            cases same
            simpa using holds
          · simp [bind, Except.bind, holds] at gave

/-- Once a session is over, it only closes. -/
theorem ended_closes {later : List Occurrence} {last : Session}
    (run : Trail (Steps settings) later s last) (ended : s.stage ≠ .running) :
    ∀ occurrence ∈ later, occurrence = .closes ∨ occurrence = .closed := by
  induction run with
  | nil => simp
  | @cons occurrence later before middle last steps _ inductionHypothesis =>
      have here : (occurrence = .closes ∨ occurrence = .closed) ∧ middle.stage ≠ .running := by
        unfold Steps next? at steps
        cases stage : before.stage with
        | running => exact absurd stage ended
        | ended result =>
            rw [stage] at steps
            unfold afterEnd? at steps
            cases occurrence with
            | closes =>
                dsimp only at steps
                split at steps
                · cases steps
                  exact ⟨.inl rfl, nofun⟩
                · cases steps
            | closed =>
                cases steps
                exact ⟨.inr rfl, nofun⟩
            | _ => cases steps
        | closing result =>
            rw [stage] at steps
            cases occurrence with
            | closed =>
                cases steps
                exact ⟨.inr rfl, nofun⟩
            | _ => cases steps
        | closed result =>
            rw [stage] at steps
            cases steps
      intro other member
      rcases List.mem_cons.mp member with rfl | rest
      · exact here.1
      · exact inductionHypothesis here.2 other rest

/-- The offered values are those that the reader finds by itself. -/
theorem Reaches.offered (reached : Reaches settings now occurrences s) :
    s.offered = (ear settings occurrences).offered := by
  have orderly := reached.orderly
  unfold Orderly at orderly
  cases stage : s.stage with
  | running =>
      rw [stage] at orderly
      exact orderly.offered
  | ended result =>
      rw [stage] at orderly
      exact orderly.offered
  | closing result =>
      rw [stage] at orderly
      obtain ⟨code, reason, -, settled⟩ := orderly
      exact settled.offered
  | closed result =>
      rw [stage] at orderly
      rcases orderly with settled | ⟨code, reason, -, settled⟩
      · exact settled.offered
      · exact settled.offered

/-- Whatever the other parties do meanwhile, the frames that a session hears pass through one run of
the decoder, in order. It hands over each value that the decoder gives, in order, and these are
objects and no fragments; it writes one status for each error, in order; and once a value is
refused, it hears nothing more. -/
theorem session_reads (reached : Reaches settings now occurrences s) :
    (∃ log, Trail (Receives settings.codec settings.max) log
        (.withTimeout settings.fragmentTimeout) (ear settings occurrences).decoder ∧
      log.map Prod.fst = occurrences.filterMap Occurrence.arrival? ∧
      s.offered = log.filterMap value? ∧
      (asked settings occurrences .reader).flatten = (log.filterMap cause?).map (status settings)) ∧
    (∀ value ∈ s.offered, value.isObject = true ∧ value.isFragment = false) ∧
    (∀ earlier arrival reply later value decoder,
      occurrences = earlier ++ .heard (.data arrival) reply :: later → reply ≠ .taken →
      Decoder.decode settings.codec settings.max arrival (ear settings earlier).decoder =
        (.ok (some value), decoder) →
      ∀ occurrence ∈ later, occurrence = .closes ∨ occurrence = .closed) := by
  obtain ⟨log, run, arrivals, offered, answers⟩ := exists_decoding settings occurrences
  have offers := reached.offered.trans offered
  refine ⟨⟨log, run, arrivals, offers, answers⟩, fun value member => ?_, ?_⟩
  · rw [offers] at member
    obtain ⟨⟨arrival, outcome⟩, inside, gives⟩ := List.mem_filterMap.mp member
    obtain ⟨before, after, taken⟩ := run.taken inside
    have received : Receives settings.codec settings.max (arrival, outcome) before after := taken
    cases outcome with
    | ok inner =>
        have same : inner = some value := gives
        exact decodes_object received.decodes (congrArg Outcome.ok same)
    | error | panic => cases gives
  · intro earlier arrival reply later value decoder whole refused decoded
    subst whole
    obtain ⟨middle, before, rest⟩ := Trail.split reached
    cases rest with
    | @cons _ _ _ next _ steps rest =>
        have orderly := Reaches.orderly before
        apply ended_closes rest
        unfold Steps next? at steps
        unfold Orderly at orderly
        cases stage : middle.stage with
        | running =>
            rw [stage] at steps orderly
            have live : Live settings earlier middle := orderly
            unfold after? at steps
            dsimp only at steps
            split at steps
            · unfold hear at steps
              dsimp only at steps
              rw [live.decoder, decoded] at steps
              cases reply with
              | taken => exact absurd rfl refused
              | full | unavailable =>
                  cases steps
                  exact nofun
            · cases steps
        | ended result =>
            rw [stage] at steps
            cases steps
        | closing result =>
            rw [stage] at steps
            cases steps
        | closed result =>
            rw [stage] at steps
            cases steps

/-- A client sends a message in two fragments while it is sent a batch. -/
theorem session_reads_fragments :
    let occurrences := [Occurrence.heard (.data ⟨.text Codec.firstText, ⟨fun _ => 0, 0⟩⟩) .taken,
      .received [.text "a"], .heard (.data ⟨.text Codec.secondText, ⟨fun _ => 0, 0⟩⟩) .full,
      .closes]
    ∃ s, Reaches .sample 0 occurrences s ∧ s.offered.length = 1 ∧
      s.sent = [.close .again "client incoming queue full"] ∧
      ∀ value ∈ s.offered, value.isObject = true ∧ value.isFragment = false := by
  intro occurrences
  have runs : ((start .sample 0).run? .sample occurrences).any fun s => s.offered.length == 1 &&
      s.sent == [.close .again "client incoming queue full"] := by decide +kernel
  obtain ⟨s, ran, holds⟩ := (Option.any_eq_true _ _).mp runs
  rw [Bool.and_eq_true, beq_iff_eq, beq_iff_eq] at holds
  have reached : Reaches .sample 0 occurrences s := .of_run ran
  exact ⟨s, reached, holds.1, holds.2, (session_reads reached).2.1⟩

/-! ### Heartbeat -/

theorem Reaches.beating (reached : Reaches settings now occurrences s) :
    Beating settings now occurrences s := by
  refine reached.history (Beating settings now) (fun _ _ _ _ steps held => held.step steps) ?_
  have nobody : asked settings [] = fun _ => [] := by
    funext party
    cases party <;> rfl
  have rests (probe : Probe) (same : (start settings now).probe = probe) :
      probe ≠ .pinging ∧ ∀ deadline parked, probe ≠ .awaiting deadline parked := by
    subst same
    unfold start
    dsimp only
    split <;> exact ⟨nofun, nofun⟩
  obtain ⟨idle, free⟩ := rests _ rfl
  refine ⟨⟨rfl, nofun, nofun, fun pings => absurd pings idle, ?_, ?_⟩, rfl, rfl, rfl, ?_⟩
  · exact fun deadline awaits => absurd awaits (free deadline true)
  · exact fun deadline parked awaits => absurd awaits (free deadline parked)
  · rw [nobody]
    exact Weave.nothing

/-- The heartbeat ends a session only on a ping that went out with the number of its round and whose
pong was not heard since, for the whole timeout, whatever else was heard. And once the timeout of an
unanswered ping passed, the heartbeat ends the session by at most four steps of its own. -/
theorem heartbeat_timeout (reached : Reaches settings now occurrences s) :
    ((s.stage = .ended (.ok .heartbeatTimeout) ∨ s.stage = .closing (.ok .heartbeatTimeout) ∨
        s.stage = .closed (.ok .heartbeatTimeout)) → Overdue settings occurrences) ∧
    (∀ deadline parked, s.stage = .running → s.probe = .awaiting deadline parked →
      deadline ≤ s.now → s.pending ≠ none →
      ∃ own last, own.length ≤ 4 ∧
        (∀ occurrence ∈ own, occurrence = .looked ∨ occurrence = .notified ∨
          occurrence = .expired) ∧
        Trail (Steps settings) own s last ∧ last.stage = .ended (.ok .heartbeatTimeout)) := by
  have beating := reached.beating
  constructor
  · unfold Beating at beating
    rintro (stage | stage | stage)
    all_goals
      rw [stage] at beating
      exact beating rfl
  · exact fun deadline parked running awaits due unanswered =>
      gives_up running awaits due unanswered

/-- Until when a session waits for a pong. -/
def waitsFor (s : Session) : Option Instant :=
  match s.stage, s.probe, s.pending with
  | .running, .awaiting deadline _, some _ => some deadline
  | _, _, _ => none

/-- A client answers the first ping and no other. -/
theorem heartbeat_timeout_answered :
    let occurrences := [Occurrence.elapsed (Duration.fromSecs 30), .woke, .locked .heartbeat,
      .fed .heartbeat, .flushed .heartbeat, .heard (.pong (payload 1)) .taken, .looked,
      .elapsed (Duration.fromSecs 30), .woke, .locked .heartbeat, .fed .heartbeat,
      .flushed .heartbeat, .heard (.pong (payload 1)) .taken, .elapsed (Duration.fromSecs 30)]
    ∃ s own last, Reaches .sample 0 occurrences s ∧ Trail (Steps .sample) own s last ∧
      last.stage = .ended (.ok .heartbeatTimeout) ∧ Overdue .sample (occurrences ++ own) := by
  intro occurrences
  have runs : ((start .sample 0).run? .sample occurrences).any fun s =>
      (waitsFor s).any fun deadline => decide (deadline ≤ s.now) := by decide +kernel
  obtain ⟨s, ran, holds⟩ := (Option.any_eq_true _ _).mp runs
  obtain ⟨deadline, waits, due⟩ := (Option.any_eq_true _ _).mp holds
  have reached : Reaches .sample 0 occurrences s := .of_run ran
  unfold waitsFor at waits
  split at waits
  · rename_i parked payload running awaits pending
    cases waits
    have unanswered : s.pending ≠ none := by
      rw [pending]
      exact Option.some_ne_none payload
    obtain ⟨own, last, -, -, run, ended⟩ := (heartbeat_timeout reached).2 deadline parked running
      awaits (of_decide_eq_true due) unanswered
    exact ⟨s, own, last, reached, run, ended, (heartbeat_timeout (reached.append run)).1 (.inl ended)⟩
  · cases waits

end Rosbridge.Session
