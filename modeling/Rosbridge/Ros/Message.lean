import Rosbridge.Data.Utf16
import Rosbridge.Wire.Codec

/-!
Dynamic ROS messages (`ros/message.rs`).

Owns: message types, the memory of a message, and the functions that read a message
into JSON and CBOR and fill one from JSON.

A message type describes all types it contains; the type supports provide the accessors
of every array. Memory has the shape of its type: a cell holds the bits of a primitive
value, and `read` and `write` go through them as the casts of the source do.
-/

set_option autoImplicit false

namespace Rosbridge.Ros

/-! ### Types and memory -/

/-- `MessageMember`, less its nested type. -/
structure Field where
  name : String
  typeId : Nat
  stringUpperBound : Nat := 0
  isArray : Bool := false
  arraySize : Nat := 0
  isUpperBound : Bool := false
deriving DecidableEq

/-- `MessageMembers`: each field has its nested type, which only messages use. -/
inductive Members where
  | mk (messageNamespace messageName : String) (members : List (Field × Members))

/-- The memory of a value. -/
inductive Datum where
  | cell (bits : Nat)
  | string (bytes : ByteArray)
  | wstring (units : List Nat)
  | message (parts : List Datum)
  | array (items : List Datum)

instance : Inhabited Datum := ⟨.cell 0⟩

/-- `replace("__", "/")`. -/
def slashes : List Char → List Char
  | '_' :: '_' :: rest => '/' :: slashes rest
  | c :: rest => c :: slashes rest
  | [] => []

namespace Members

def fields : Members → List (Field × Members)
  | mk _ _ members => members

/-- `message_name`. -/
def typeName : Members → String
  | mk messageNamespace messageName _ =>
      String.ofList (slashes messageNamespace.toList) ++ "/" ++ messageName

end Members

namespace Datum

/-- Read a cell as an unsigned value of the given width. -/
def read (width : Nat) : Datum → Nat
  | cell bits => bits % 2 ^ width
  | _ => 0

def readF32 (p : Datum) : F32 := ⟨.ofNat 32 (p.read 32)⟩

def readF64 (p : Datum) : F64 := ⟨.ofNat 64 (p.read 64)⟩

def readBytes : Datum → ByteArray
  | string bytes => bytes
  | _ => ByteArray.empty

def readUnits : Datum → List Nat
  | wstring units => units
  | _ => []

def parts : Datum → List Datum
  | message parts => parts
  | _ => []

def items : Datum → List Datum
  | array items => items
  | _ => []

end Datum

/-- The result under a context: only the context is shown to a client. -/
def withContext {α : Type} (context : String) : Except Error α → Except Error α
  | .ok value => .ok value
  | .error _ => .error ⟨context⟩

/-! ### Reading -/

/-- The JSON value of a cell or a string. -/
def readPrimitive (f : Field) (p : Datum) : Except Error Json :=
  match f.typeId with
  | 1 => .ok (jsonFloat p.readF32.widen)
  | 2 => .ok (jsonFloat p.readF64)
  | 4 | 7 | 8 => .ok (unsigned (p.read 8))
  | 5 | 10 => .ok (unsigned (p.read 16))
  | 6 => .ok (.bool (p.read 8 != 0))
  | 9 => .ok (signed 8 (p.read 8))
  | 11 => .ok (signed 16 (p.read 16))
  | 12 => .ok (unsigned (p.read 32))
  | 13 => .ok (signed 32 (p.read 32))
  | 14 => .ok (unsigned (p.read 64))
  | 15 => .ok (signed 64 (p.read 64))
  | 16 =>
      match String.fromUTF8? p.readBytes with
      | some text => .ok (.str text)
      | none => .error ⟨"invalid utf-8 sequence"⟩
  | 17 =>
      match Utf16.decode p.readUnits with
      | some text => .ok (.str text)
      | none => .error ⟨"invalid utf-16: lone surrogate found"⟩
  | other => .error ⟨"unsupported ROS field type " ++ toString other⟩

/-- The CBOR value beside a JSON value that was read. -/
def primitiveCbor (f : Field) (p : Datum) (value : Json) : Cbor :=
  match f.typeId with
  | 1 => .float p.readF32.widen
  | 2 => .float p.readF64
  | _ => cborValue value

/-- `read_scalar`; `object` reads a nested message. -/
def readScalar (f : Field) (object : List Datum → Except Error (Json × Cbor)) (p : Datum) :
    Except Error (Json × Cbor) :=
  if f.typeId = 18 then object p.parts
  else do
    let value ← readPrimitive f p
    return (value, primitiveCbor f p value)

/-- The little-endian bytes of an array element. -/
def pack (typeId : Nat) (p : Datum) : List UInt8 :=
  match typeId with
  | 1 => toLeBytes 4 (p.read 32)
  | 2 => toLeBytes 8 (p.read 64)
  | 4 | 7 | 8 => toLeBytes 1 (p.read 8)
  | 9 => toLeBytes 1 (p.read 8)
  | 10 => toLeBytes 2 (p.read 16)
  | 11 => toLeBytes 2 (p.read 16)
  | 12 => toLeBytes 4 (p.read 32)
  | 13 => toLeBytes 4 (p.read 32)
  | 14 => toLeBytes 8 (p.read 64)
  | 15 => toLeBytes 8 (p.read 64)
  | _ => []

/-- The tag of a typed array. -/
def arrayTag (typeId : Nat) : Option Nat :=
  match typeId with
  | 1 => some 85
  | 2 => some 86
  | 7 | 9 => some 72
  | 10 => some 69
  | 11 => some 77
  | 12 => some 70
  | 13 => some 78
  | 14 => some 71
  | 15 => some 79
  | _ => none

/-- Arrays of these types are carried as Base64. -/
def Field.isBinary (f : Field) : Bool := f.typeId = 4 || f.typeId = 8

/-- The array has no fixed size. -/
def Field.isSequence (f : Field) : Bool := f.arraySize = 0 || f.isUpperBound

/-- `read_field`. -/
def readField (codec : Codec) (f : Field) (object : List Datum → Except Error (Json × Cbor))
    (p : Datum) : Except Error (Json × Cbor) :=
  if f.isArray then do
    let pairs ← p.items.mapM (readScalar f object)
    let bytes := p.items.flatMap (pack f.typeId)
    let json := if f.isBinary then .str (codec.base64 bytes) else .arr (pairs.map Prod.fst)
    let cbor :=
      if f.isBinary then .bytes bytes
      else if f.isSequence then
        match arrayTag f.typeId with
        | some tag => .tag tag (.bytes bytes)
        | none => .array (pairs.map Prod.snd)
      else .array (pairs.map Prod.snd)
    return (json, cbor)
  else readScalar f object p

mutual

/-- `read_object`. -/
def readObject (codec : Codec) : Members → List Datum → Except Error (Json × Cbor)
  | .mk _ _ members, data => do
      let (json, cbor) ← readFields codec members data []
      return (.obj json, .map cbor)

def readFields (codec : Codec) : List (Field × Members) → List Datum → Object →
    Except Error (Object × List (Cbor × Cbor))
  | (f, nested) :: rest, p :: data, json => do
      let (j, c) ← readField codec f (fun parts => readObject codec nested parts) p
      let (json, cbor) ← readFields codec rest data (json.set f.name j)
      return (json, (.text f.name, c) :: cbor)
  | _, _, json => .ok (json, [])

end

/-! ### Filling -/

/-- A time, in seconds and nanoseconds. -/
structure Now where
  sec : Int
  nanosec : Nat

def Now.json (now : Now) : Json := .obj [("sec", .int now.sec), ("nanosec", .int now.nanosec)]

/-- `Map::remove`: the last field takes the place of the removed one. -/
def removeField (fields : Object) (key : String) : Option (Json × Object) :=
  match fields.findIdx? (fun field => field.1 = key), fields.getLast? with
  | some place, some last =>
      some ((fields.lookup key).getD .null, (List.set fields place last).dropLast)
  | _, _ => none

/-- The aliases of ROS 1 for the fields of a time. -/
def renameField (fields : Object) (old field : String) : Object :=
  match removeField fields old with
  | some (value, fields) =>
      if (fields.lookup field).isSome then fields else fields ++ [(field, value)]
  | none => fields

/-- The fields of the object a message is filled from: an object, positional arguments, or
the current time. -/
def fieldValues (m : Members) (value : Json) (now : Now) : Except Error Object := do
  let typ := m.typeName
  let value ←
    if typ = "builtin_interfaces/msg/Time" ∧ value.asStr = some "now" then pure now.json
    else
      match value.asArray with
      | some list =>
          if list.length ≤ m.fields.length then
            pure (.obj ((m.fields.zip list).foldl (fun object entry =>
              Object.set object entry.1.1.name entry.2) []))
          else .error ⟨"too many positional arguments for " ++ typ⟩
      | none => pure value
  match value.asObject with
  | some object =>
      if typ = "builtin_interfaces/msg/Time" then
        pure (renameField (renameField object "secs" "sec") "nsecs" "nanosec")
      else pure object
  | none => .error ⟨typ ++ " requires an object"⟩

/-- The field is the header of a message that is published. -/
def Field.isHeader (f : Field) (nested : Members) (root : Bool) : Bool :=
  root && f.name = "header" && !f.isArray && f.typeId = 18 &&
    nested.typeName = "std_msgs/msg/Header"

/-- A header without a stamp gets the current time. -/
def stampHeader (value : Option Json) (now : Now) : Except Error Json :=
  match (value.getD (.obj [])).asObject with
  | none => .error ⟨"header requires an object"⟩
  | some fields =>
      if (fields.lookup "stamp").isSome then .ok (.obj fields)
      else .ok (.obj (fields ++ [("stamp", now.json)]))

/-- `u8::try_from` and the like, on what the accessor of JSON gives. -/
def unsignedCell (width : Nat) (v : Json) : Except Error Datum :=
  match v.asU64 with
  | none => .error ⟨"expected integer in range"⟩
  | some value =>
      if value < 2 ^ width then .ok (.cell value)
      else .error ⟨"out of range integral type conversion attempted"⟩

def signedCell (width : Nat) (v : Json) : Except Error Datum :=
  match v.asI64 with
  | none => .error ⟨"expected integer in range"⟩
  | some value =>
      if -2 ^ (width - 1) ≤ value ∧ value < 2 ^ (width - 1) then
        .ok (.cell (value % 2 ^ width).toNat)
      else .error ⟨"out of range integral type conversion attempted"⟩

/-- `write_scalar`; `object` fills a nested message. -/
def writeScalar (f : Field) (object : List Datum → Json → Except Error (List Datum)) (p : Datum)
    (v : Json) : Except Error Datum :=
  match f.typeId with
  | 1 =>
      match v.asF64 with
      | none => .error ⟨"expected number"⟩
      | some n =>
          if n.isFinite ∧ n.magnitude ≤ F32.maxMagnitude then .ok (.cell n.narrow.bits.toNat)
          else .error ⟨"float32 overflow"⟩
  | 2 =>
      match v.asF64 with
      | none => .error ⟨"expected number"⟩
      | some n => .ok (.cell n.bits.toNat)
  | 4 | 7 | 8 => unsignedCell 8 v
  | 5 | 10 => unsignedCell 16 v
  | 6 =>
      match v.asBool with
      | none => .error ⟨"expected bool"⟩
      | some value => .ok (.cell value.toNat)
  | 9 => signedCell 8 v
  | 11 => signedCell 16 v
  | 12 => unsignedCell 32 v
  | 13 => signedCell 32 v
  | 14 => unsignedCell 64 v
  | 15 => signedCell 64 v
  | 16 =>
      match v.asStr with
      | none => .error ⟨"expected string"⟩
      | some s =>
          if f.stringUpperBound = 0 ∨ s.utf8ByteSize ≤ f.stringUpperBound then
            .ok (.string s.toUTF8)
          else .error ⟨"string exceeds bound"⟩
  | 17 =>
      match v.asStr with
      | none => .error ⟨"expected string"⟩
      | some s =>
          if f.stringUpperBound = 0 ∨ (Utf16.encode s).length ≤ f.stringUpperBound then
            .ok (.wstring (Utf16.encode s))
          else .error ⟨"string exceeds bound"⟩
  | 18 => do
      let parts ← object p.parts v
      return .message parts
  | other => .error ⟨"unsupported ROS field type " ++ toString other⟩

/-- The values of an array, which may be given as Base64. -/
def arrayValues (codec : Codec) (f : Field) (v : Json) : Except Error (List Json) :=
  match v.asStr with
  | some text =>
      if f.isBinary then do
        let bytes ← codec.fromBase64 text
        return bytes.map fun byte => unsigned byte.toNat
      else .error ⟨"expected an array"⟩
  | none =>
      match v.asArray with
      | some values => .ok values
      | none => .error ⟨"expected an array"⟩

/-- The elements of an array before they are filled. `element` is what `resize` makes a
new element of. -/
def arrayItems (f : Field) (element p : Datum) (count : Nat) : Except Error (List Datum) :=
  if 0 < f.arraySize ∧ f.isUpperBound = false then
    if count = f.arraySize then .ok p.items
    else .error ⟨"expected array length " ++ toString f.arraySize⟩
  else if f.arraySize = 0 ∨ count ≤ f.arraySize then .ok (List.replicate count element)
  else .error ⟨"array exceeds bound"⟩

/-- `write_field`. -/
def writeField (codec : Codec) (f : Field) (element : Datum)
    (object : List Datum → Json → Except Error (List Datum)) (p : Datum) (v : Json) :
    Except Error Datum :=
  if f.isArray then do
    let values ← arrayValues codec f v
    let items ← arrayItems f element p values.length
    let filled ← (items.zip values).mapM fun entry => writeScalar f object entry.1 entry.2
    return .array filled
  else writeScalar f object p v

/-- The value a field is filled from, if any. -/
def fieldValue (f : Field) (nested : Members) (values : Object) (now : Now) (root : Bool) :
    Except Error (Option Json) :=
  if f.isHeader nested root then do
    let v ← stampHeader (values.lookup f.name) now
    return some v
  else .ok (values.lookup f.name)

mutual

/-- `write_object`. -/
def writeObject (codec : Codec) (element : Field → Members → Datum) (now : Now) (root : Bool) :
    Members → List Datum → Json → Except Error (List Datum)
  | .mk messageNamespace messageName members, data, value => do
      let m := Members.mk messageNamespace messageName members
      let values ← fieldValues m value now
      match values.find? fun entry => !members.any fun member => member.1.name = entry.1 with
      | some entry => .error ⟨m.typeName ++ " has no field " ++ entry.1⟩
      | none => writeFields codec element now root m.typeName members data values

def writeFields (codec : Codec) (element : Field → Members → Datum) (now : Now) (root : Bool)
    (typ : String) :
    List (Field × Members) → List Datum → Object → Except Error (List Datum)
  | (f, nested) :: rest, p :: data, values => do
      let filled ← do
        match ← fieldValue f nested values now root with
        | none => pure p
        | some v =>
            withContext ("field " ++ typ ++ "." ++ f.name)
              (writeField codec f (element f nested)
                (fun parts v => writeObject codec element now false nested parts v) p v)
      let others ← writeFields codec element now root typ rest data values
      return filled :: others
  | _, _, _ => .ok []

end

/-- `Message::values`. -/
def values (codec : Codec) (m : Members) (data : List Datum) : Except Error (Json × Cbor) :=
  readObject codec m data

/-- `Message::fill`. -/
def fill (codec : Codec) (element : Field → Members → Datum) (m : Members) (data : List Datum)
    (value : Json) (now : Now) : Except Error (List Datum) :=
  writeObject codec element now true m data value

end Rosbridge.Ros
