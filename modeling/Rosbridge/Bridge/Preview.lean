import Rosbridge.Bridge.State
import Rosbridge.Data.Utf8

/-!
Previews of payloads for the log (`PayloadPreview` and `log_payload` of `bridge/services.rs`).

Owns: the writer that stops at the limit, and the record that is made of what it has taken.

What a JSON value writes is given piece by piece. The log itself is not owned here.
-/

set_option autoImplicit false

namespace Rosbridge

open Foundation

structure PayloadPreview where
  text : String := ""
  truncated : Bool := false
deriving DecidableEq

/-- `std::fmt::Error`. -/
structure FormatError where
deriving DecidableEq

/-- A writer of pieces of text. -/
abbrev Writing (α : Type) : Type := Program PayloadPreview FormatError α

/-- `PayloadPreview::write_str`. -/
def writeStr (value : String) : Writing Unit := do
  let preview ← Program.get
  let room ← Program.unwrap "attempt to subtract with overflow"
    (if preview.text.utf8ByteSize ≤ 4096 then some (4096 - preview.text.utf8ByteSize) else none)
  let stop ← Program.unwrap "attempt to subtract with overflow"
    (Utf8.floorBoundary value (min value.utf8ByteSize room))
  let taken ← Program.unwrap "byte index is not a char boundary" (Utf8.sliceTo value stop)
  Program.modify fun preview => { preview with text := preview.text ++ taken }
  if stop < value.utf8ByteSize then do
    Program.modify fun preview => { preview with truncated := true }
    Program.fail ⟨⟩
  else return ()

/-- The pieces of a value are written up to the first error. -/
def writeAll (pieces : List String) : Writing Unit := Program.forEach pieces writeStr

/-- What is logged of a payload. -/
structure PayloadRecord where
  connection : Connection
  service : String
  requestId : String
  direction : String
  kind : String
  payload : String
  truncated : Bool

/-- `log_payload`. A formatting error means that the preview has reached its limit. -/
def logPayload (enabled : Bool) (connection : Connection) (service : String)
    (requestId : Option String) (direction kind : String) (pieces : List String) :
    Writing (Option PayloadRecord) :=
  if enabled then do
    let _ ← Program.attempt (writeAll pieces)
    let preview ← Program.get
    return some {
      connection
      service
      requestId := requestId.getD ""
      direction
      kind
      payload := preview.text
      truncated := preview.truncated }
  else return none

end Rosbridge
