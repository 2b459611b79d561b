import Rosbridge.Foundation.Trail
import Rosbridge.Wire.Assembling

/-!
The fragment decoder on arbitrary input.

Owns: the runs of a decoder; that its state stays bounded and sound; that expired
assemblies never contribute; and which frames leave the others unchanged.
-/

set_option autoImplicit false

namespace Rosbridge

open Foundation

variable {codec : Codec} {limit : Nat}

/-- The decoder takes a frame, and the call ends as the event says. -/
def Receives (codec : Codec) (limit : Nat) (event : Arrival × Outcome Error (Option Json))
    (before after : Decoder) : Prop :=
  Decoder.decode codec limit event.1 before = (event.2, after)

theorem Receives.decodes {arrival : Arrival} {outcome : Outcome Error (Option Json)}
    {before after : Decoder} (received : Receives codec limit (arrival, outcome) before after) :
    Decodes codec limit (before.sweep arrival.clock) arrival.clock.now arrival.frame outcome
      after := by
  have spec : Program.wp (Decoder.decode codec limit arrival) (fun outcome after =>
      Decodes codec limit (before.sweep arrival.clock) arrival.clock.now arrival.frame outcome
        after) before := decode_spec arrival before
  rwa [Program.wp_iff, show Decoder.decode codec limit arrival before = (outcome, after) from
    received] at spec

theorem Decodes.returns {swept after : Decoder} {now : Instant} {frame : Frame}
    {outcome : Outcome Error (Option Json)}
    (decodes : Decodes codec limit swept now frame outcome after) : ¬ outcome.IsPanic := by
  cases decodes with
  | passed | refused | overflowed | stored => exact id
  | @completed fragment outcome adds fits complete ended =>
      rw [ended]
      split <;> exact id

/-- A frame that reaches no assembly leaves them as the sweep did. -/
theorem Decodes.foreign {swept after : Decoder} {now : Instant} {frame : Frame}
    {outcome : Outcome Error (Option Json)}
    (decodes : Decodes codec limit swept now frame outcome after)
    (foreign : ∀ fragment, ¬ Adds codec limit swept now frame fragment) : after = swept := by
  cases decodes with
  | passed | refused => rfl
  | overflowed adds | completed adds | stored adds => exact absurd adds (foreign _)

/-- An assembly that overflows or is complete is removed. -/
theorem Decodes.removes {swept after : Decoder} {now : Instant} {frame : Frame}
    {outcome : Outcome Error (Option Json)} {fragment : Fragment}
    (decodes : Decodes codec limit swept now frame outcome after)
    (adds : Adds codec limit swept now frame fragment)
    (ends : limit < (swept.filled now fragment).bytes ∨
      (swept.filled now fragment).complete = true) : after = swept.without fragment.id := by
  cases decodes with
  | passed _ _ foreign | refused foreign => exact absurd adds (foreign _)
  | overflowed also | completed also => rw [adds.unique also]
  | stored also fits incomplete =>
      cases adds.unique also
      rcases ends with large | complete
      · exact absurd large (Nat.not_lt_of_le fits)
      · exact absurd (incomplete.symm.trans complete) Bool.false_ne_true

def Codec.plainText : String := "\x7b\"op\":\"x\"\x7d"

def Codec.firstText : String :=
  "\x7b\"op\":\"fragment\",\"id\":\"f\",\"data\":\"\x7b\\\"op\\\"\",\"num\":0,\"total\":2\x7d"

def Codec.secondText : String :=
  "\x7b\"op\":\"fragment\",\"id\":\"f\",\"data\":\":\\\"x\\\"\x7d\",\"num\":1,\"total\":2\x7d"

/-- The printers and parsers on one message and its two fragments. -/
def Codec.sample : Codec where
  fromStr text :=
    if text = plainText then .ok (.obj [("op", .str "x")])
    else if text = firstText then .ok (fragmentValue "f" ['\x7b', '"', 'o', 'p', '"'] 0 2)
    else if text = secondText then .ok (fragmentValue "f" [':', '"', 'x', '"', '\x7d'] 1 2)
    else .error ⟨"expected value"⟩
  toText
    | .obj [("op", .str "x")] => .ok plainText
    | .obj [("op", .str "fragment"), ("id", .str "f"), ("data", .str "\x7b\"op\""),
        ("num", .num (.int 0)), ("total", .num (.int 2))] => .ok firstText
    | .obj [("op", .str "fragment"), ("id", .str "f"), ("data", .str ":\"x\"\x7d"),
        ("num", .num (.int 1)), ("total", .num (.int 2))] => .ok secondText
    | _ => .error ⟨"not sampled"⟩
  fromReader _ := .error ⟨"not sampled"⟩
  intoWriter _ := .error ⟨"not sampled"⟩
  base64 _ := ""
  fromBase64 _ := .error ⟨"not sampled"⟩
  png _ _ _ := .error ⟨"not sampled"⟩

end Rosbridge
