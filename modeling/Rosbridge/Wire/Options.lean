import Rosbridge.Data.Json
import Rosbridge.Data.Time

/-!
Delivery options of `wire.rs` and the CBOR values that messages carry.

Owns: compression names, the parsed options of a request, and the CBOR value type.
Encoding and decoding of frames are not owned here.
-/

set_option autoImplicit false

namespace Rosbridge

inductive Compression where
  | none
  | png
  | cbor
  | raw
deriving DecidableEq, Inhabited

/-- `Compression::parse`. -/
def Compression.parse : String → Except Error Compression
  | "none" => .ok .none
  | "png" => .ok .png
  | "cbor" => .ok .cbor
  | "cbor-raw" => .ok .raw
  | text => .error ⟨"unsupported compression " ++ text⟩

/-- How one message is encoded, and how a subscription is throttled. -/
structure Options where
  compression : Compression := .none
  fragment : Option Nat := Option.none
  throttle : Duration := 0
  queue : Nat := 0
deriving DecidableEq, Inhabited

namespace Options

/-- A nonnegative integer field that defaults to zero. -/
def integer (v : Json) (key : String) : Except Error Nat :=
  match v.get key with
  | Option.none => .ok 0
  | some value =>
      match value.asU64 with
      | some number => .ok number
      | Option.none => .error ⟨key ++ " must be a nonnegative integer"⟩

/-- The compression field, `none` by default. -/
def compressionText (v : Json) : Except Error String :=
  match v.get "compression" with
  | Option.none => .ok "none"
  | some value =>
      match value.asStr with
      | some text => .ok text
      | Option.none => .error ⟨"compression must be a string"⟩

/-- `Options::parse`. -/
def parse (v : Json) : Except Error Options := do
  let fragment ← integer v "fragment_size"
  let compression ← Compression.parse (← compressionText v)
  let throttle ← integer v "throttle_rate"
  let queue ← integer v "queue_length"
  return {
    compression
    fragment := if fragment > 0 then some fragment else Option.none
    throttle := Duration.fromMillis throttle
    queue }

end Options

/-- A CBOR value of `ciborium`. -/
inductive Cbor where
  | null
  | bool (value : Bool)
  | integer (value : Int)
  | float (value : F64)
  | text (value : String)
  | bytes (value : List UInt8)
  | array (items : List Cbor)
  | map (entries : List (Cbor × Cbor))
  | tag (number : Nat) (value : Cbor)

end Rosbridge
