import Rosbridge.Foundation.Program
import Rosbridge.Foundation.Table
import Rosbridge.Wire.Codec

/-!
Frames of the WebSocket protocol: encoding and fragment assembly (`wire.rs`).

Owns: `encode`, with its cuts at character boundaries; `Decoder::decode`; and the
readings of the clock that one call takes.
-/

set_option autoImplicit false

namespace Rosbridge

open Foundation

/-- A WebSocket message. `other` stands for the control messages. -/
inductive Frame where
  | text (text : String)
  | binary (bytes : List UInt8)
  | other
deriving DecidableEq

/-! ### Texts as UTF-8 -/

/-- `len()` of a text given by its characters. -/
def charsLen (chars : List Char) : Nat := (chars.map Char.utf8Size).sum

/-- `text.len()`. -/
def byteLen (text : String) : Nat := charsLen text.toList

/-- `is_char_boundary`. -/
def isCharBoundary : List Char → Nat → Bool
  | _, 0 => true
  | [], _ + 1 => false
  | character :: rest, index + 1 =>
      decide (character.utf8Size ≤ index + 1) && isCharBoundary rest (index + 1 - character.utf8Size)

/-- Step down to a character boundary. -/
def floorBoundary (chars : List Char) : Nat → Nat
  | 0 => 0
  | index + 1 => if isCharBoundary chars (index + 1) then index + 1 else floorBoundary chars index

/-- Split before the byte `index`, a character boundary. -/
def splitBytes : List Char → Nat → List Char × List Char
  | chars, 0 => ([], chars)
  | [], _ + 1 => ([], [])
  | character :: rest, index + 1 =>
      let (first, second) := splitBytes rest (index + 1 - character.utf8Size)
      (character :: first, second)

theorem splitBytes_append (chars : List Char) (index : Nat) :
    (splitBytes chars index).1 ++ (splitBytes chars index).2 = chars := by
  fun_induction splitBytes chars index with
  | case1 | case2 => rfl
  | case3 character rest index first second split inductionHypothesis =>
      rw [split] at inductionHypothesis
      exact congrArg (List.cons character) inductionHypothesis

theorem splitBytes_shorter {chars : List Char} {index : Nat} (nonempty : chars ≠ [])
    (positive : 0 < index) : (splitBytes chars index).2.length < chars.length := by
  obtain ⟨character, rest, rfl⟩ := List.exists_cons_of_ne_nil nonempty
  obtain ⟨index, rfl⟩ := Nat.exists_eq_succ_of_ne_zero positive.ne'
  have whole := splitBytes_append rest (index + 1 - character.utf8Size)
  have lengths := congrArg List.length whole
  rw [List.length_append] at lengths
  show (splitBytes rest (index + 1 - character.utf8Size)).2.length < rest.length + 1
  omega

/-! ### Encoding -/

/-- The chunks of the rest of a text: each ends at the last character boundary within
`limit` bytes. -/
def chunks (limit : Nat) (chars : List Char) : Except Error (List (List Char)) :=
  if _nonempty : chars ≠ [] then
    let stop := floorBoundary chars (min limit (charsLen chars))
    if _positive : 0 < stop then do
      let others ← chunks limit (splitBytes chars stop).2
      return (splitBytes chars stop).1 :: others
    else .error ⟨"fragment_size is too small for UTF-8 character"⟩
  else .ok []
termination_by chars.length
decreasing_by exact splitBytes_shorter _nonempty _positive

/-- The JSON of one fragment. -/
def fragmentValue (id : String) (data : List Char) (num total : Nat) : Json :=
  .obj [("op", .str "fragment"), ("id", .str id), ("data", .str (String.ofList data)),
    ("num", .int num), ("total", .int total)]

/-- The frames of the chunks from number `num` on. -/
def fragmentFrames (codec : Codec) (id : String) (total : Nat) :
    Nat → List (List Char) → Except Error (List Frame)
  | _, [] => .ok []
  | num, chunk :: rest => do
      let text ← codec.toText (fragmentValue id chunk num total)
      let others ← fragmentFrames codec id total (num + 1) rest
      return .text text :: others

/-- A text as the pixels of an image, wrapped as a `png` operation. -/
def pngText (codec : Codec) (text : String) : Except Error String := do
  let bytes := text.toUTF8.toList
  let width := max (Nat.sqrt (bytes.length / 3)) 1
  let height := (bytes.length + 3 * width - 1) / (3 * width)
  let rgb := bytes ++ List.replicate (width * height * 3 - bytes.length) 10
  let image ← codec.png width height rgb
  codec.toText (.obj [("op", .str "png"), ("data", .str (codec.base64 image))])

/-- The frames of a text: one, or fragments if it is longer than the limit. -/
def fragmentText (codec : Codec) (fragment : Option Nat) (id text : String) :
    Except Error (List Frame) :=
  match fragment.filter (· < byteLen text) with
  | some limit => do
      let parts ← chunks limit text.toList
      fragmentFrames codec id parts.length 0 parts
  | none => .ok [.text text]

/-- `encode`. Binary CBOR is never fragmented. -/
def encode (codec : Codec) (value : Json) (binary : Option Cbor) (options : Options)
    (fragmentId : String) : Except Error (List Frame) :=
  if options.compression = .cbor ∨ options.compression = .raw then do
    let bytes ← codec.intoWriter (binary.getD (cborValue value))
    return [.binary bytes]
  else if options.compression = .png then do
    let text ← pngText codec (← codec.toText value)
    fragmentText codec options.fragment fragmentId text
  else do
    let text ← codec.toText value
    fragmentText codec options.fragment fragmentId text

/-! ### Decoding -/

structure Assembly where
  parts : List (Option String)
  bytes : Nat
  created : Instant

structure Decoder where
  fragments : Table String Assembly
  timeout : Duration

def Decoder.withTimeout (timeout : Duration) : Decoder := ⟨∅, timeout⟩

/-- The clock readings of one call: one for each assembly that is checked, and one for
an assembly that is created. -/
structure Clock where
  check : String → Instant
  now : Instant

/-- One call of `decode`. -/
structure Arrival where
  frame : Frame
  clock : Clock

/-- The assembly has not reached the timeout when it is checked. -/
def Decoder.unexpired (decoder : Decoder) (clock : Clock) (id : String) (a : Assembly) : Bool :=
  decide ((clock.check id).since a.created < decoder.timeout)

/-- Drop the assemblies that reached the timeout. -/
def Decoder.sweep (decoder : Decoder) (clock : Clock) : Decoder :=
  { decoder with fragments := decoder.fragments.retain (decoder.unexpired clock) }

/-- Parse a frame; control messages carry no value. -/
def readFrame (codec : Codec) (limit : Nat) : Frame → Except Error (Option Json)
  | .text text =>
      if byteLen text ≤ limit then some <$> codec.fromStr text
      else .error ⟨"message too large"⟩
  | .binary bytes =>
      if bytes.length ≤ limit then do
        return some (← jsonValue codec (← codec.fromReader bytes))
      else .error ⟨"message too large"⟩
  | .other => .ok none

/-- `value["op"] == "fragment"`. -/
def Json.isFragment (value : Json) : Bool := (value.index "op").asStr == some "fragment"

/-- A field of a fragment, as the accessor reads it. -/
def fragmentField {α : Type} (value : Json) (key : String) (read : Json → Option α) :
    Except Error α :=
  match read (value.index key) with
  | some field => .ok field
  | none => .error ⟨"fragment " ++ key ++ " is required"⟩

/-- The fields of a fragment. -/
structure Fragment where
  id : String
  total : Nat
  num : Nat
  data : String

def Fragment.parse (value : Json) : Except Error Fragment := do
  let id ← fragmentField value "id" Json.asStr
  let total ← fragmentField value "total" Json.asU64
  let num ← fragmentField value "num" Json.asU64
  let data ← fragmentField value "data" Json.asStr
  if 0 < total ∧ total ≤ 65536 ∧ num < total then return { id, total, num, data }
  else .error ⟨"invalid fragment indices"⟩

/-- All parts have arrived. -/
def Assembly.complete (a : Assembly) : Bool := a.parts.all Option.isSome

/-- The text of the parts in order. -/
def Assembly.text (a : Assembly) : String := String.join (a.parts.filterMap id)

/-- A section that changes the decoder. -/
abbrev Decoding : Type → Type := Program Decoder Error

/-- Store a part, unless it is there. -/
def Assembly.store (a : Assembly) (num : Nat) (data : String) : Decoding Assembly := do
  let part ← Program.unwrap "parts" a.parts[num]?
  if part.isNone then
    pure { a with parts := a.parts.set num (some data), bytes := a.bytes + byteLen data }
  else pure a

/-- Insert a new assembly, unless there is one. -/
def Decoder.insertNew (id : String) (a : Assembly) : Decoding Unit :=
  Program.modify fun decoder =>
    if (decoder.fragments.lookup id).isSome then decoder
    else { decoder with fragments := decoder.fragments.insert id a }

/-- Write an assembly back to its place. -/
def Decoder.put (id : String) (a : Assembly) : Decoding Unit :=
  Program.modify fun decoder => { decoder with fragments := decoder.fragments.alter id fun _ => a }

def Decoder.remove (id : String) : Decoding Unit :=
  Program.modify fun decoder => { decoder with fragments := decoder.fragments.erase id }

/-- The assembly of a fragment, a new one if there is none. -/
def Decoder.entry (decoder : Decoder) (now : Instant) (fragment : Fragment) : Assembly :=
  (decoder.fragments.lookup fragment.id).getD ⟨List.replicate fragment.total none, 0, now⟩

/-- Parse the text of a complete assembly. -/
def assembled (codec : Codec) (text : String) : Except Error (Option Json) := do
  let value ← codec.fromStr text
  if value.isObject && !value.isFragment then return some value
  else .error ⟨"invalid assembled operation"⟩

/-- Add a fragment to its assembly. -/
def Decoder.assemble (codec : Codec) (limit : Nat) (now : Instant) (fragment : Fragment) :
    Decoding (Option Json) := do
  let decoder ← Program.get
  Program.ensure (decide (decoder.fragments.keys.length < 16) ||
    (decoder.fragments.lookup fragment.id).isSome) ⟨"too many fragment assemblies"⟩
  let a := decoder.entry now fragment
  Decoder.insertNew fragment.id a
  Program.ensure (decide (a.parts.length = fragment.total)) ⟨"fragment total changed"⟩
  let a ← a.store fragment.num fragment.data
  Decoder.put fragment.id a
  if limit < a.bytes then do
    Decoder.remove fragment.id
    Program.fail ⟨"assembled message too large"⟩
  else if a.complete then do
    Decoder.remove fragment.id
    Program.ofExcept (assembled codec a.text)
  else pure none

/-- `Decoder::decode`. -/
def Decoder.decode (codec : Codec) (limit : Nat) (arrival : Arrival) : Decoding (Option Json) := do
  Program.modify fun decoder => decoder.sweep arrival.clock
  match ← readFrame codec limit arrival.frame with
  | none => pure none
  | some value => do
      Program.ensure value.isObject ⟨"message must be an object"⟩
      if value.isFragment then do
        let fragment ← Fragment.parse value
        Decoder.assemble codec limit arrival.clock.now fragment
      else pure (some value)

end Rosbridge
