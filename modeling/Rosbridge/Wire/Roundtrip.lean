import Rosbridge.Wire.Assembling

/-!
The frames of one message and the assembly they fill.

Owns: what `encode` produces; the parts of an assembly as a function of the frames
seen so far; and the size and the text of that assembly.
-/

set_option autoImplicit false

namespace Rosbridge

open Foundation

variable {codec : Codec} {limit : Nat}

/-! ### Chunks -/

/-- The chunks make up the text. -/
theorem chunks_flatten (size : Nat) (chars : List Char) : ∀ parts : List (List Char),
    chunks size chars = .ok parts → parts.flatten = chars := by
  fun_induction chunks size chars with
  | case1 chars nonempty stop positive inductionHypothesis =>
      intro parts cut
      cases others : chunks size (splitBytes chars stop).2 with
      | error cause =>
          rw [others] at cut
          cases cut
      | ok rest =>
          rw [others] at cut
          cases cut
          rw [List.flatten_cons, inductionHypothesis rest others, splitBytes_append]
  | case2 =>
      intro parts cut
      cases cut
  | case3 chars empty =>
      intro parts cut
      cases cut
      exact (not_not.mp empty).symm

/-! ### Reading back -/

/-- `serde_json` and `ciborium` parse back what they print. -/
structure Codec.Faithful (codec : Codec) : Prop where
  json : ∀ value text, value.WellFormed → codec.toText value = .ok text →
    codec.fromStr text = .ok value
  cbor : ∀ value bytes, value.WellFormed → codec.intoWriter (cborValue value) = .ok bytes →
    codec.fromReader bytes = .ok (cborValue value)

/-- The size of a frame. -/
def Frame.len : Frame → Nat
  | .text content => byteLen content
  | .binary bytes => bytes.length
  | .other => 0

theorem fragmentValue_wellFormed (id : String) (data : List Char) {num total : Nat}
    (few : total ≤ 65536) (within : num < total) :
    (fragmentValue id data num total).WellFormed := by
  refine ⟨?_, trivial, trivial, trivial, ⟨?_, ?_⟩, ⟨?_, ?_⟩, trivial⟩
  · show ["op", "id", "data", "num", "total"].Nodup
    decide
  all_goals omega

theorem fragmentValue_parse (id : String) (data : List Char) {num total : Nat}
    (few : total ≤ 65536) (within : num < total) :
    Fragment.parse (fragmentValue id data num total) =
      .ok ⟨id, total, num, String.ofList data⟩ := by
  have fields : fragmentField (fragmentValue id data num total) "id" Json.asStr = .ok id ∧
      fragmentField (fragmentValue id data num total) "data" Json.asStr =
        .ok (String.ofList data) := ⟨rfl, rfl⟩
  have number : ∀ value : Nat, value ≤ 65536 → (Json.int value).asU64 = some value := by
    intro value bound
    have range : (0 : Int) ≤ value ∧ (value : Int) < 2 ^ 64 := by omega
    rw [Json.int, Json.asU64, if_pos range, Int.toNat_natCast]
  have totals : fragmentField (fragmentValue id data num total) "total" Json.asU64 = .ok total := by
    have index : (fragmentValue id data num total).index "total" = .int total := rfl
    rw [fragmentField, index, number total few]
  have nums : fragmentField (fragmentValue id data num total) "num" Json.asU64 = .ok num := by
    have index : (fragmentValue id data num total).index "num" = .int num := rfl
    rw [fragmentField, index, number num (by omega)]
  unfold Fragment.parse
  rw [fields.1, totals, nums, fields.2]
  show (if _ then _ else _) = _
  rw [if_pos ⟨by omega, few, within⟩]
  rfl

/-- Frame `num` reads as fragment `num` of the parts. -/
def Sliced (codec : Codec) (limit : Nat) (id : String) (frames : List Frame)
    (parts : List (List Char)) : Prop :=
  frames.length = parts.length ∧ ∀ num frame, frames[num]? = some frame →
    ∃ part, parts[num]? = some part ∧
      readFrame codec limit frame = .ok (some (fragmentValue id part num parts.length))

/-- Every frame is the print of its fragment. -/
theorem fragmentFrames_spec {id : String} {total : Nat} :
    ∀ {first : Nat} {parts : List (List Char)} {frames : List Frame},
      fragmentFrames codec id total first parts = .ok frames →
      frames.length = parts.length ∧ ∀ num frame, frames[num]? = some frame →
        ∃ part text, parts[num]? = some part ∧ frame = .text text ∧
          codec.toText (fragmentValue id part (first + num) total) = .ok text
  | _, [], _, done => by
      cases done
      exact ⟨rfl, nofun⟩
  | first, part :: rest, frames, done => by
      unfold fragmentFrames at done
      cases printed : codec.toText (fragmentValue id part first total) with
      | error cause =>
          rw [printed] at done
          cases done
      | ok text =>
          cases later : fragmentFrames codec id total (first + 1) rest with
          | error cause =>
              rw [printed, later] at done
              cases done
          | ok others =>
              rw [printed, later] at done
              cases done
              obtain ⟨length, framed⟩ := fragmentFrames_spec later
              refine ⟨by simp [length], fun num frame found => ?_⟩
              cases num with
              | zero =>
                  cases found
                  exact ⟨part, text, rfl, rfl, printed⟩
              | succ num =>
                  obtain ⟨inner, text, atNum, same, print⟩ := framed num frame found
                  refine ⟨inner, text, atNum, same, ?_⟩
                  rw [← print]
                  congr 2
                  omega

theorem fragmentText_spec {fragment : Option Nat} {id text : String} {frames : List Frame}
    (done : fragmentText codec fragment id text = .ok frames) :
    frames = [.text text] ∨ ∃ parts : List (List Char), parts.flatten = text.toList ∧
      frames.length = parts.length ∧ ∀ num frame, frames[num]? = some frame →
        ∃ part content, parts[num]? = some part ∧ frame = .text content ∧
          codec.toText (fragmentValue id part num parts.length) = .ok content := by
  unfold fragmentText at done
  split at done
  · next size _ =>
      cases split : chunks size text.toList with
      | error cause =>
          rw [split] at done
          cases done
      | ok parts =>
          rw [split] at done
          obtain ⟨length, framed⟩ := fragmentFrames_spec done
          refine .inr ⟨parts, chunks_flatten size _ parts split, length, fun num frame found => ?_⟩
          have spec := framed num frame found
          rwa [Nat.zero_add] at spec
  · cases done
    exact .inl rfl

/-- What `encode` produces without an image: one frame that reads as the value, or the
fragments of its text. -/
theorem encode_frames {v : Json} {options : Options} {id : String} {frames : List Frame}
    (faithful : codec.Faithful) (formed : v.WellFormed)
    (compression : options.compression = .none ∨ options.compression = .cbor)
    (encoded : encode codec v none options id = .ok frames) (few : frames.length ≤ 65536)
    (fits : ∀ frame ∈ frames, frame.len ≤ limit) :
    (∃ frame, frames = [frame] ∧ readFrame codec limit frame = .ok (some v)) ∨
    ∃ text parts, codec.toText v = .ok text ∧ parts.flatten = text.toList ∧
      Sliced codec limit id frames parts := by
  have readText : ∀ value text, value.WellFormed → codec.toText value = .ok text →
      Frame.text text ∈ frames → readFrame codec limit (.text text) = .ok (some value) := by
    intro value text formed printed member
    have small : byteLen text ≤ limit := fits _ member
    rw [readFrame, if_pos small, faithful.json value text formed printed]
    rfl
  unfold encode at encoded
  rcases compression with plain | binary
  · rw [plain, if_neg (by decide), if_neg (by decide)] at encoded
    cases printed : codec.toText v with
    | error cause =>
        rw [printed] at encoded
        cases encoded
    | ok text =>
        rw [printed] at encoded
        rcases fragmentText_spec encoded with rfl | ⟨parts, whole, length, framed⟩
        · exact .inl ⟨_, rfl, readText v text formed printed List.mem_cons_self⟩
        · refine .inr ⟨text, parts, rfl, whole, length, fun num frame found => ?_⟩
          obtain ⟨part, content, atNum, rfl, print⟩ := framed num frame found
          have within := (List.getElem?_eq_some_iff.mp atNum).1
          exact ⟨part, atNum, readText _ content
            (fragmentValue_wellFormed id part (length ▸ few) within) print
            (List.mem_of_getElem? found)⟩
  · rw [binary, if_pos (.inl rfl)] at encoded
    cases written : codec.intoWriter (cborValue v) with
    | error cause =>
        rw [Option.getD_none, written] at encoded
        cases encoded
    | ok bytes =>
        rw [Option.getD_none, written] at encoded
        cases encoded
        refine .inl ⟨_, rfl, ?_⟩
        have small : bytes.length ≤ limit := fits _ List.mem_cons_self
        rw [readFrame, if_pos small, faithful.cbor v bytes formed written]
        show (do return some (← jsonValue codec (cborValue v))) = _
        rw [jsonValue_cborValue codec v formed]
        rfl

/-! ### The assembly of the frames seen -/

section Parts

variable {id : String} {frames seen : List Frame} {parts : List (List Char)}

/-- The parts of the assembly when the frames `seen` have arrived. -/
def partsSeen (frames seen : List Frame) (parts : List (List Char)) : List (Option String) :=
  List.zipWith (fun frame part => if frame ∈ seen then some (String.ofList part) else none)
    frames parts

theorem Sliced.distinct (sliced : Sliced codec limit id frames parts) {left right : Nat}
    {frame : Frame} (atLeft : frames[left]? = some frame) (atRight : frames[right]? = some frame) :
    left = right := by
  obtain ⟨part, -, read⟩ := sliced.2 left frame atLeft
  obtain ⟨other, -, same⟩ := sliced.2 right frame atRight
  have equal := Option.some.inj (Except.ok.inj (read.symm.trans same))
  have fields : String.ofList part = String.ofList other ∧ left = right := by
    simpa [fragmentValue, Json.int] using equal
  exact fields.2

theorem partsSeen_length (sliced : Sliced codec limit id frames parts) (seen : List Frame) :
    (partsSeen frames seen parts).length = parts.length := by
  rw [partsSeen, List.length_zipWith, sliced.1, Nat.min_self]

theorem partsSeen_get {num : Nat} {frame : Frame} {part : List Char}
    (found : frames[num]? = some frame) (atNum : parts[num]? = some part) :
    (partsSeen frames seen parts)[num]? =
      some (if frame ∈ seen then some (String.ofList part) else none) := by
  rw [partsSeen, List.getElem?_zipWith, found, atNum]

/-- Only the frames themselves matter. -/
theorem partsSeen_congr {other : List Frame} : ∀ {frames : List Frame} {parts : List (List Char)},
    (∀ frame ∈ frames, frame ∈ seen ↔ frame ∈ other) →
    partsSeen frames seen parts = partsSeen frames other parts
  | [], _, _ => rfl
  | _ :: _, [], _ => rfl
  | frame :: frames, part :: parts, same => by
      have later : partsSeen frames seen parts = partsSeen frames other parts :=
        partsSeen_congr fun frame member => same frame (List.mem_cons_of_mem _ member)
      unfold partsSeen at later ⊢
      rw [List.zipWith_cons_cons, List.zipWith_cons_cons, later]
      simp only [same frame List.mem_cons_self]

/-- One more frame sets its part. -/
theorem partsSeen_snoc (sliced : Sliced codec limit id frames parts) {num : Nat} {frame : Frame}
    {part : List Char} (found : frames[num]? = some frame) (atNum : parts[num]? = some part) :
    partsSeen frames (seen ++ [frame]) parts =
      (partsSeen frames seen parts).set num (some (String.ofList part)) := by
  have within : num < (partsSeen frames seen parts).length := by
    rw [partsSeen_length sliced]
    exact (List.getElem?_eq_some_iff.mp atNum).1
  apply List.ext_getElem?
  intro place
  by_cases same : place = num
  · rw [same, partsSeen_get found atNum, if_pos (by simp), List.getElem?_set_self within]
  · rw [List.getElem?_set_ne (Ne.symm same), partsSeen, partsSeen, List.getElem?_zipWith,
      List.getElem?_zipWith]
    cases atPlace : frames[place]? with
    | none => rfl
    | some earlier =>
        have different : earlier ≠ frame := fun equal =>
          same (sliced.distinct (equal ▸ atPlace) found)
        cases parts[place]? <;> simp [different]

@[simp] theorem charsLen_append (left right : List Char) :
    charsLen (left ++ right) = charsLen left + charsLen right := by
  simp [charsLen]

@[simp] theorem byteLen_ofList (chars : List Char) : byteLen (String.ofList chars) = charsLen chars := by
  rw [byteLen, String.toList_ofList]

/-- The parts present are no larger than the whole text. -/
theorem partsBytes_partsSeen (seen : List Frame) : ∀ (frames : List Frame)
    (parts : List (List Char)),
    partsBytes (partsSeen frames seen parts) ≤ charsLen parts.flatten
  | [], parts => by simp [partsSeen, partsBytes]
  | _ :: _, [] => by simp [partsSeen, partsBytes]
  | frame :: frames, part :: parts => by
      have later := partsBytes_partsSeen seen frames parts
      have first : partsBytes (partsSeen (frame :: frames) seen (part :: parts)) =
          (if frame ∈ seen then some (String.ofList part) else none).elim 0 byteLen +
            partsBytes (partsSeen frames seen parts) := rfl
      rw [first, List.flatten_cons, charsLen_append]
      split
      · rw [Option.elim_some, byteLen_ofList]
        omega
      · rw [Option.elim_none]
        omega

/-- When all frames have arrived the parts are the chunks. -/
theorem partsSeen_all (sliced : Sliced codec limit id frames parts)
    (all : ∀ frame ∈ frames, frame ∈ seen) :
    partsSeen frames seen parts = parts.map fun part => some (String.ofList part) := by
  apply List.ext_getElem?
  intro place
  rw [List.getElem?_map]
  cases atPlace : frames[place]? with
  | none =>
      have beyond := List.getElem?_eq_none_iff.mp atPlace
      rw [sliced.1] at beyond
      rw [partsSeen, List.getElem?_zipWith, atPlace, List.getElem?_eq_none beyond]
      rfl
  | some frame =>
      obtain ⟨part, atNum, -⟩ := sliced.2 place frame atPlace
      rw [partsSeen_get atPlace atNum, if_pos (all frame (List.mem_of_getElem? atPlace)), atNum]
      rfl

theorem join_ofList (parts : List (List Char)) :
    String.join (parts.map String.ofList) = String.ofList parts.flatten := by
  suffices ∀ start : String, (parts.map String.ofList).foldl (· ++ ·) start =
      start ++ String.ofList parts.flatten from (this "").trans String.empty_append
  induction parts with
  | nil => simp
  | cons part parts inductionHypothesis =>
      intro start
      rw [List.map_cons, List.foldl_cons, inductionHypothesis, List.flatten_cons,
        String.ofList_append, String.append_assoc]

end Parts

end Rosbridge
