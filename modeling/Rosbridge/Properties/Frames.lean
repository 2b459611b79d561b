import Rosbridge.Properties.Decoder
import Rosbridge.Wire.Roundtrip

/-!
Encoding and decoding agree.

Owns: that a message cut into frames is put together again, in any order of its frames
and among frames of other messages, with repeated copies, within the timeout.
-/

set_option autoImplicit false

namespace Rosbridge

open Foundation

variable {codec : Codec} {limit : Nat} {id : String} {frames seen : List Frame}
  {parts : List (List Char)} {start : Instant}

/-- The frame is no fragment under `id`. -/
def Foreign (codec : Codec) (limit : Nat) (id : String) (frame : Frame) : Prop :=
  ∀ value fragment, readFrame codec limit frame = .ok (some value) → value.isFragment = true →
    Fragment.parse value = .ok fragment → fragment.id ≠ id

/-- A call while a message is under way: the frame is one of the message or foreign to
it, at most 15 other assemblies are open, and all clock readings lie within one timeout
from `start`. -/
structure Delivers (codec : Codec) (limit : Nat) (id : String) (frames : List Frame)
    (start : Instant) (event : Arrival × Outcome Error (Option Json)) (before after : Decoder) :
    Prop where
  received : Receives codec limit event before after
  source : event.1.frame ∈ frames ∨ Foreign codec limit id event.1.frame
  room : (before.fragments.erase id).keys.length < 16
  checked : ∀ key, start ≤ event.1.clock.check key ∧
    event.1.clock.check key < start + before.timeout
  created : start ≤ event.1.clock.now ∧ event.1.clock.now < start + before.timeout

/-! ### The assembly under way -/

/-- The assembly holds the parts of the frames seen. -/
structure Holds (frames seen : List Frame) (parts : List (List Char)) (start : Instant)
    (a : Assembly) : Prop where
  parts : a.parts = partsSeen frames seen parts
  summed : a.bytes = partsBytes a.parts
  recent : start ≤ a.created

/-- The decoder holds the parts of the frames seen, or none was seen. -/
def Filling (id : String) (frames seen : List Frame) (parts : List (List Char)) (start : Instant)
    (decoder : Decoder) : Prop :=
  match decoder.fragments.lookup id with
  | none => ∀ frame ∈ frames, frame ∉ seen
  | some a => Holds frames seen parts start a

theorem partsSeen_none (sliced : Sliced codec limit id frames parts)
    (unseen : ∀ frame ∈ frames, frame ∉ seen) :
    partsSeen frames seen parts = List.replicate parts.length none := by
  refine List.eq_replicate_iff.mpr ⟨partsSeen_length sliced seen, fun part member => ?_⟩
  obtain ⟨num, found⟩ := List.mem_iff_getElem?.mp member
  have within := (List.getElem?_eq_some_iff.mp found).1
  rw [partsSeen_length sliced, ← sliced.1] at within
  have atNum := List.getElem?_eq_getElem within
  obtain ⟨chunk, inParts, -⟩ := sliced.2 num _ atNum
  rw [partsSeen_get atNum inParts, if_neg (unseen _ (List.getElem_mem within))] at found
  exact (Option.some.inj found).symm

/-- The sweep keeps the assembly under way. -/
theorem Filling.swept {event : Arrival × Outcome Error (Option Json)} {before after : Decoder}
    (filling : Filling id frames seen parts start before)
    (delivers : Delivers codec limit id frames start event before after) :
    (before.sweep event.1.clock).fragments.lookup id = before.fragments.lookup id := by
  rw [before.lookup_sweep]
  unfold Filling at filling
  cases known : before.fragments.lookup id with
  | none => rfl
  | some a =>
      rw [known] at filling
      have recent := filling.recent
      obtain ⟨late, soon⟩ := delivers.checked id
      have unexpired : before.unexpired event.1.clock id a = true := by
        refine decide_eq_true ?_
        have elapsed : ∀ origin checked created timeout : Nat, origin ≤ checked →
            checked < origin + timeout → origin ≤ created → checked - created < timeout := by
          intros
          omega
        exact elapsed _ _ _ _ late soon recent
      rw [Option.filter_some, if_pos unexpired]

/-- A frame of the message finds room, and fills its part. -/
theorem Filling.own {event : Arrival × Outcome Error (Option Json)} {before after : Decoder}
    {num : Nat} (sliced : Sliced codec limit id frames parts) (few : parts.length ≤ 65536)
    (filling : Filling id frames seen parts start before)
    (delivers : Delivers codec limit id frames start event before after)
    (found : frames[num]? = some event.1.frame) :
    ∃ fragment, fragment.id = id ∧
      Adds codec limit (before.sweep event.1.clock) event.1.clock.now event.1.frame fragment ∧
      Holds frames (seen ++ [event.1.frame]) parts start
        ((before.sweep event.1.clock).filled event.1.clock.now fragment) := by
  obtain ⟨part, atNum, read⟩ := sliced.2 num _ found
  have within := (List.getElem?_eq_some_iff.mp atNum).1
  let fragment : Fragment := ⟨id, parts.length, num, String.ofList part⟩
  have swept := filling.swept delivers
  -- Whether or not the assembly is new, it holds the parts seen before.
  have entry : Holds frames seen parts start
      ((before.sweep event.1.clock).entry event.1.clock.now fragment) := by
    unfold Filling at filling
    unfold Decoder.entry
    rw [swept]
    cases known : before.fragments.lookup id with
    | none =>
        rw [known] at filling
        have empty := partsSeen_none sliced filling
        exact ⟨empty.symm, by simp [partsBytes], delivers.created.1⟩
    | some a =>
        rw [known] at filling
        exact filling
  have total : ((before.sweep event.1.clock).entry event.1.clock.now fragment).parts.length =
      fragment.total := by
    rw [entry.parts, partsSeen_length sliced]
  refine ⟨fragment, rfl, ⟨⟨_, read, rfl, rfl, fragmentValue_parse id part few within⟩, ?_, total⟩,
    ?_, ?_, ?_⟩
  · rw [swept]
    refine Classical.or_iff_not_imp_right.mpr fun absent => ?_
    have unknown : id ∉ before.fragments := by rwa [← AList.lookup_isSome]
    have room := delivers.room
    rw [AList.keys_erase, List.erase_of_not_mem (AList.mem_keys.not.mp unknown)] at room
    exact Nat.lt_of_le_of_lt (AList.length_keys_retain _ _) room
  · rw [Decoder.filled, Assembly.stored, entry.parts, partsSeen_get found atNum]
    by_cases known : event.1.frame ∈ seen
    · rw [if_pos known, if_neg (by simp)]
      refine entry.parts.trans (partsSeen_congr fun frame _ => ?_)
      rw [List.mem_append, List.mem_singleton]
      exact ⟨.inl, fun member => member.elim (fun earlier => earlier) fun same => same ▸ known⟩
    · rw [if_neg known, if_pos rfl]
      exact (partsSeen_snoc sliced found atNum).symm
  · exact (Assembly.stored_summed entry.summed num _).1
  · rw [Decoder.filled, Assembly.stored_created]
    exact entry.recent

/-- A foreign frame leaves the assembly as the sweep did. -/
theorem Decodes.elsewhere {swept after : Decoder} {now : Instant} {frame : Frame}
    {outcome : Outcome Error (Option Json)}
    (decodes : Decodes codec limit swept now frame outcome after)
    (foreign : Foreign codec limit id frame) :
    after.fragments.lookup id = swept.fragments.lookup id := by
  have different : ∀ fragment, Adds codec limit swept now frame fragment → id ≠ fragment.id := by
    intro fragment adds
    obtain ⟨value, read, -, isFragment, parsed⟩ := adds.read
    exact Ne.symm (foreign value fragment read isFragment parsed)
  cases decodes with
  | passed | refused => rfl
  | overflowed adds | completed adds => rw [swept.lookup_without, if_neg (different _ adds)]
  | stored adds => rw [swept.lookup_with, if_neg (different _ adds)]

/-- A frame that is none of the message leaves its assembly as it is. -/
theorem Filling.foreign {event : Arrival × Outcome Error (Option Json)} {before after : Decoder}
    (filling : Filling id frames seen parts start before)
    (delivers : Delivers codec limit id frames start event before after)
    (other : event.1.frame ∉ frames) :
    Filling id frames (seen ++ [event.1.frame]) parts start after := by
  have unchanged : after.fragments.lookup id = before.fragments.lookup id :=
    (delivers.received.decodes.elsewhere (delivers.source.resolve_left other)).trans
      (filling.swept delivers)
  have same : ∀ frame ∈ frames, frame ∈ seen ↔ frame ∈ seen ++ [event.1.frame] := by
    intro frame member
    have different : frame ≠ event.1.frame := fun equal => other (equal ▸ member)
    simp [different]
  unfold Filling at filling ⊢
  rw [unchanged]
  cases known : before.fragments.lookup id with
  | none =>
      rw [known] at filling
      exact fun frame member => (same frame member).not.mp (filling frame member)
  | some a =>
      rw [known] at filling
      exact ⟨filling.parts.trans (partsSeen_congr same), filling.summed, filling.recent⟩

/-- The parts seen fit, if the whole text does. -/
theorem Holds.fits {a : Assembly} (holds : Holds frames seen parts start a)
    (small : charsLen parts.flatten ≤ limit) : a.bytes ≤ limit := by
  rw [holds.summed, holds.parts]
  exact (partsBytes_partsSeen seen frames parts).trans small

/-- The assembly is complete when all frames were seen. -/
theorem Holds.complete_iff {a : Assembly} (sliced : Sliced codec limit id frames parts)
    (holds : Holds frames seen parts start a) :
    a.complete = true ↔ ∀ frame ∈ frames, frame ∈ seen := by
  rw [Assembly.complete, holds.parts]
  refine ⟨fun full frame member => ?_, fun all => ?_⟩
  · obtain ⟨num, found⟩ := List.mem_iff_getElem?.mp member
    obtain ⟨part, atNum, -⟩ := sliced.2 num frame found
    have present := List.all_eq_true.mp full _ (List.mem_of_getElem? (partsSeen_get found atNum))
    by_contra unseen
    rw [if_neg unseen] at present
    cases present
  · rw [partsSeen_all sliced all, List.all_map]
    exact List.all_eq_true.mpr fun _ _ => rfl

/-- A fragment that fits and does not complete its assembly is stored. -/
theorem Decodes.stores {swept after : Decoder} {now : Instant} {frame : Frame}
    {outcome : Outcome Error (Option Json)} {fragment : Fragment}
    (decodes : Decodes codec limit swept now frame outcome after)
    (adds : Adds codec limit swept now frame fragment)
    (fits : (swept.filled now fragment).bytes ≤ limit)
    (incomplete : ¬ (swept.filled now fragment).complete = true) :
    outcome = .ok none ∧ after = swept.with fragment.id (swept.filled now fragment) := by
  cases decodes with
  | passed _ _ foreign | refused foreign => exact absurd adds (foreign _)
  | overflowed also large =>
      cases adds.unique also
      exact absurd large (Nat.not_lt_of_le fits)
  | completed also _ complete =>
      cases adds.unique also
      exact absurd complete incomplete
  | stored also =>
      cases adds.unique also
      exact ⟨rfl, rfl⟩

/-- A fragment that fits and completes its assembly ends it. -/
theorem Decodes.completes {swept after : Decoder} {now : Instant} {frame : Frame}
    {outcome : Outcome Error (Option Json)} {fragment : Fragment} {value : Option Json}
    (decodes : Decodes codec limit swept now frame outcome after)
    (adds : Adds codec limit swept now frame fragment)
    (fits : (swept.filled now fragment).bytes ≤ limit)
    (complete : (swept.filled now fragment).complete = true)
    (result : assembled codec (swept.filled now fragment).text = .ok value) :
    outcome = .ok value ∧ after = swept.without fragment.id := by
  cases decodes with
  | passed _ _ foreign | refused foreign => exact absurd adds (foreign _)
  | overflowed also large =>
      cases adds.unique also
      exact absurd large (Nat.not_lt_of_le fits)
  | completed also _ _ ended =>
      cases adds.unique also
      rw [result] at ended
      exact ⟨ended, rfl⟩
  | stored also _ incomplete =>
      cases adds.unique also
      exact absurd (incomplete.symm.trans complete) Bool.false_ne_true

/-- A call that does not complete the message keeps its assembly up to date. -/
theorem Filling.step {event : Arrival × Outcome Error (Option Json)} {before after : Decoder}
    (sliced : Sliced codec limit id frames parts) (few : parts.length ≤ 65536)
    (small : charsLen parts.flatten ≤ limit)
    (filling : Filling id frames seen parts start before)
    (delivers : Delivers codec limit id frames start event before after)
    (pending : ∃ frame ∈ frames, frame ∉ seen ++ [event.1.frame]) :
    Filling id frames (seen ++ [event.1.frame]) parts start after ∧
      (event.1.frame ∈ frames → event.2 = .ok none) := by
  by_cases own : event.1.frame ∈ frames
  · obtain ⟨num, found⟩ := List.mem_iff_getElem?.mp own
    obtain ⟨fragment, same, adds, holds⟩ := filling.own sliced few delivers found
    have incomplete := (holds.complete_iff sliced).not.mpr (by simpa using pending)
    have decodes : Decodes codec limit _ _ _ event.2 after := delivers.received.decodes
    obtain ⟨returned, rfl⟩ := decodes.stores adds (holds.fits small) incomplete
    refine ⟨?_, fun _ => returned⟩
    unfold Filling
    rw [Decoder.lookup_with, if_pos same.symm]
    exact holds
  · exact ⟨filling.foreign delivers own, fun member => absurd member own⟩

/-- Before its last frame arrives, a message in fragments yields nothing. -/
theorem Filling.run {log : List (Arrival × Outcome Error (Option Json))} {before after : Decoder}
    (sliced : Sliced codec limit id frames parts) (few : parts.length ≤ 65536)
    (small : charsLen parts.flatten ≤ limit)
    (fresh : before.fragments.lookup id = none)
    (run : Trail (Delivers codec limit id frames start) log before after)
    {last : Frame} (awaited : last ∈ frames)
    (pending : ∀ event ∈ log, event.1.frame ≠ last) :
    Filling id frames (log.map fun event => event.1.frame) parts start after ∧
      ∀ event ∈ log, event.1.frame ∈ frames → event.2 = .ok none := by
  have carried := run.history (fun done decoder => (∀ event ∈ done, event.1.frame ≠ last) →
    Filling id frames (done.map fun event => event.1.frame) parts start decoder ∧
      ∀ event ∈ done, event.1.frame ∈ frames → event.2 = .ok none)
    (fun done event middle later delivers held unseen => ?_) (fun _ => ⟨?_, nofun⟩)
  · exact carried pending
  · obtain ⟨filling, silent⟩ := held fun other member => unseen other (List.mem_append_left _ member)
    have missing : last ∉ done.map (fun event => event.1.frame) ++ [event.1.frame] := by
      intro member
      rcases List.mem_append.mp member with earlier | now
      · obtain ⟨other, member, same⟩ := List.mem_map.mp earlier
        exact unseen other (List.mem_append_left _ member) same
      · exact unseen event (by simp) (List.mem_singleton.mp now).symm
    obtain ⟨filled, returned⟩ := filling.step sliced few small delivers ⟨last, awaited, missing⟩
    rw [List.map_append]
    refine ⟨filled, fun other member => ?_⟩
    rcases List.mem_append.mp member with earlier | now
    · exact silent other earlier
    · rw [List.mem_singleton.mp now]
      exact returned
  · unfold Filling
    rw [fresh]
    exact fun _ _ => List.not_mem_nil

/-- The last frame of a message in fragments yields the value. -/
theorem Filling.finish {event : Arrival × Outcome Error (Option Json)} {before after : Decoder}
    {v : Json} {text : String} (sliced : Sliced codec limit id frames parts)
    (few : parts.length ≤ 65536) (small : charsLen parts.flatten ≤ limit)
    (whole : parts.flatten = text.toList) (parsed : codec.fromStr text = .ok v)
    (object : v.isObject = true) (plain : v.isFragment = false)
    (filling : Filling id frames seen parts start before)
    (delivers : Delivers codec limit id frames start event before after)
    (own : event.1.frame ∈ frames) (all : ∀ frame ∈ frames, frame ∈ seen ++ [event.1.frame]) :
    event.2 = .ok (some v) ∧ after.fragments.lookup id = none := by
  obtain ⟨num, found⟩ := List.mem_iff_getElem?.mp own
  obtain ⟨fragment, rfl, adds, holds⟩ := filling.own sliced few delivers found
  have complete := (holds.complete_iff sliced).mpr all
  have joined : ((before.sweep event.1.clock).filled event.1.clock.now fragment).text = text := by
    rw [Assembly.text, holds.parts, partsSeen_all sliced all, List.filterMap_map]
    show String.join (parts.filterMap fun part => some (String.ofList part)) = text
    rw [List.filterMap_eq_map', join_ofList, whole, String.ofList_toList]
  have result : assembled codec
      ((before.sweep event.1.clock).filled event.1.clock.now fragment).text = .ok (some v) := by
    rw [joined, assembled, parsed]
    show (if (v.isObject && !v.isFragment) = true then _ else _) = _
    rw [object, plain]
    rfl
  have decodes : Decodes codec limit _ _ _ event.2 after := delivers.received.decodes
  obtain ⟨returned, rfl⟩ := decodes.completes adds (holds.fits small) complete result
  exact ⟨returned, by rw [Decoder.lookup_without, if_pos rfl]⟩

/-! ### A message in one frame -/

/-- A plain object passes through. -/
theorem Receives.plain {arrival : Arrival} {outcome : Outcome Error (Option Json)}
    {before after : Decoder} {v : Json}
    (received : Receives codec limit (arrival, outcome) before after)
    (read : readFrame codec limit arrival.frame = .ok (some v)) (object : v.isObject = true)
    (plain : v.isFragment = false) :
    outcome = .ok (some v) ∧ after = before.sweep arrival.clock := by
  have computed : Program.wp (Decoder.decode codec limit arrival) (fun ended after =>
      ended = .ok (some v) ∧ after = before.sweep arrival.clock) before := by
    unfold Decoder.decode
    rw [Program.wp_bind, Program.wp_modify, Program.andThen_ok]
    refine Program.wp_bind_lift (fun cause failed => ?_) fun value same => ?_
    · cases read.symm.trans failed
    · cases read.symm.trans same
      refine Program.wp_bind_ensure (fun scalar => absurd object (by simp [scalar])) fun _ => ?_
      rw [plain, if_neg Bool.false_ne_true]
      exact ⟨rfl, rfl⟩
  rwa [Program.wp_iff, show Decoder.decode codec limit arrival before = (outcome, after) from
    received] at computed

/-- Frames foreign to an unknown message leave it unknown. -/
theorem Delivers.unknown {log : List (Arrival × Outcome Error (Option Json))}
    {before after : Decoder} (run : Trail (Delivers codec limit id frames start) log before after)
    (foreign : ∀ event ∈ log, event.1.frame ∉ frames)
    (fresh : before.fragments.lookup id = none) : after.fragments.lookup id = none := by
  induction run with
  | nil => exact fresh
  | @cons event _ before _ _ delivers _ inductionHypothesis =>
      refine inductionHypothesis (fun other member => foreign other (List.mem_cons_of_mem _ member)) ?_
      have elsewhere := delivers.source.resolve_left (foreign event List.mem_cons_self)
      rw [delivers.received.decodes.elsewhere elsewhere, before.lookup_sweep, fresh]
      rfl

/-! ### Encoding and decoding -/

/-- A message whose frames arrive in any order, among frames foreign to it and repeated
copies, with room and within the timeout: every frame but the last to arrive yields
nothing, the last one yields the message, and its assembly is gone. The conversions to
CBOR and back agree on every message. -/
theorem encode_decode {v : Json} {options : Options}
    {log : List (Arrival × Outcome Error (Option Json))}
    {final : Arrival × Outcome Error (Option Json)} {decoder middle last : Decoder}
    (faithful : codec.Faithful) (formed : v.WellFormed) (object : v.isObject = true)
    (plain : v.isFragment = false)
    (compression : options.compression = .none ∨ options.compression = .cbor)
    (encoded : encode codec v none options id = .ok frames) (few : frames.length ≤ 65536)
    (fits : ∀ frame ∈ frames, frame.len ≤ limit)
    (small : ∀ text, codec.toText v = .ok text → byteLen text ≤ limit)
    (fresh : decoder.fragments.lookup id = none)
    (run : Trail (Delivers codec limit id frames start) log decoder middle)
    (arrived : Delivers codec limit id frames start final middle last)
    (own : final.1.frame ∈ frames) (first : ∀ event ∈ log, event.1.frame ≠ final.1.frame)
    (others : ∀ frame ∈ frames, frame = final.1.frame ∨ ∃ event ∈ log, event.1.frame = frame) :
    (∀ event ∈ log, event.1.frame ∈ frames → event.2 = .ok none) ∧
    final.2 = .ok (some v) ∧ last.fragments.lookup id = none ∧
    jsonValue codec (cborValue v) = .ok v := by
  suffices (∀ event ∈ log, event.1.frame ∈ frames → event.2 = .ok none) ∧
      final.2 = .ok (some v) ∧ last.fragments.lookup id = none from
    ⟨this.1, this.2.1, this.2.2, jsonValue_cborValue codec v formed⟩
  rcases encode_frames faithful formed compression encoded few fits with
    ⟨frame, rfl, read⟩ | ⟨text, parts, printed, whole, sliced⟩
  · have same : final.1.frame = frame := List.mem_singleton.mp own
    have foreign : ∀ event ∈ log, event.1.frame ∉ [frame] := by
      intro event member listed
      exact first event member ((List.mem_singleton.mp listed).trans same.symm)
    obtain ⟨returned, rfl⟩ := Receives.plain arrived.received (same ▸ read) object plain
    refine ⟨fun event member listed => absurd listed (foreign event member), returned, ?_⟩
    rw [middle.lookup_sweep, Delivers.unknown run foreign fresh]
    rfl
  · have size : charsLen parts.flatten ≤ limit := whole ▸ small text printed
    have count : parts.length ≤ 65536 := sliced.1 ▸ few
    obtain ⟨filling, silent⟩ := Filling.run sliced count size fresh run own first
    have all : ∀ frame ∈ frames, frame ∈ log.map (fun event => event.1.frame) ++ [final.1.frame] := by
      intro frame member
      rcases others frame member with last | ⟨event, inLog, same⟩
      · exact List.mem_append_right _ (List.mem_singleton.mpr last)
      · exact List.mem_append_left _ (List.mem_map.mpr ⟨event, inLog, same⟩)
    exact ⟨silent, filling.finish sliced count size whole (faithful.json v text formed printed) object
      plain arrived own all⟩

theorem Codec.sample_faithful : Codec.sample.Faithful where
  json value text _ printed := by
    unfold Codec.sample at printed ⊢
    simp only at printed
    split at printed
    all_goals cases printed
    all_goals rfl
  cbor value bytes _ written := by cases written

/-- The two fragments arrive in the wrong order, the first of them twice. -/
theorem encode_decode_reversed :
    let decode := fun text => Decoder.decode .sample 100 ⟨.text text, ⟨fun _ => 0, 0⟩⟩
    let middle := (decode Codec.secondText (decode Codec.secondText (.withTimeout 5)).2).2
    (decode Codec.firstText middle).1 = .ok (some (.obj [("op", .str "x")])) := by
  intro decode middle
  have arrives : ∀ decoder text, text = Codec.firstText ∨ text = Codec.secondText →
      decoder.timeout = 5 → (decoder.fragments.erase "f").keys.length < 16 →
      Delivers .sample 100 "f" [.text Codec.firstText, .text Codec.secondText] 0
        (⟨.text text, ⟨fun _ => 0, 0⟩⟩, (decode text decoder).1) decoder (decode text decoder).2 := by
    intro decoder text own timeout room
    refine ⟨rfl, .inl ?_, room, fun _ => ?_, ?_⟩
    · rcases own with rfl | rfl <;> simp
    · exact ⟨Nat.zero_le _, (Nat.zero_add _).symm ▸ timeout ▸ Nat.succ_pos 4⟩
    · exact ⟨Nat.zero_le _, (Nat.zero_add _).symm ▸ timeout ▸ Nat.succ_pos 4⟩
  have formed : (Json.obj [("op", .str "x")]).WellFormed := ⟨by decide, trivial, trivial⟩
  have encoded : encode .sample (.obj [("op", .str "x")]) none { fragment := some 5 } "f" =
      .ok [.text Codec.firstText, .text Codec.secondText] := by decide +kernel
  have small : ∀ text, Codec.sample.toText (.obj [("op", .str "x")]) = .ok text →
      byteLen text ≤ 100 := by
    intro text printed
    cases printed
    decide +kernel
  have twice : Trail (Delivers .sample 100 "f" [.text Codec.firstText, .text Codec.secondText] 0)
      _ (.withTimeout 5) middle :=
    .cons (arrives _ Codec.secondText (.inr rfl) rfl (by decide))
      (.single (arrives _ Codec.secondText (.inr rfl) (by decide +kernel) (by decide +kernel)))
  have last := arrives middle Codec.firstText (.inl rfl) (by decide +kernel) (by decide +kernel)
  have different : Frame.text Codec.secondText ≠ .text Codec.firstText := by decide
  have agrees := encode_decode Codec.sample_faithful formed rfl rfl (.inl rfl) encoded (by decide)
    (by decide +kernel) small rfl twice last List.mem_cons_self (by simp [different]) (by simp)
  simpa only using agrees.2.1

end Rosbridge
