import Rosbridge.Wire.Options

/-!
CBOR and JSON values (`wire.rs`).

Owns: the third-party printers and parsers as parameters, the conversions between
JSON and CBOR values, and that a JSON value survives the way to CBOR and back.
-/

set_option autoImplicit false

namespace Rosbridge

/-- The printers and parsers of `serde_json`, `ciborium`, `base64` and `png`. -/
structure Codec where
  fromStr : String → Except Error Json
  toText : Json → Except Error String
  fromReader : List UInt8 → Except Error Cbor
  intoWriter : Cbor → Except Error (List UInt8)
  base64 : List UInt8 → String
  fromBase64 : String → Except Error (List UInt8)
  png (width height : Nat) (rgb : List UInt8) : Except Error (List UInt8)

/-- Base64 gives the bytes back that it carries. -/
def Codec.CarriesBytes (codec : Codec) : Prop :=
  ∀ bytes, codec.fromBase64 (codec.base64 bytes) = .ok bytes

/-! ### JSON to CBOR -/

/-- Every number that is no 64-bit integer is a double. -/
def cborNumber (n : Number) : Cbor :=
  match (Json.num n).asI64, (Json.num n).asU64 with
  | some value, _ => .integer value
  | none, some value => .integer value
  | none, none =>
      match n with
      | .int value => .float (.ofInt value)
      | .float value => .float value

mutual

/-- `cbor_value`. -/
def cborValue : Json → Cbor
  | .null => .null
  | .bool value => .bool value
  | .str value => .text value
  | .num value => cborNumber value
  | .arr items => .array (cborItems items)
  | .obj fields => .map (cborFields fields)

def cborItems : List Json → List Cbor
  | [] => []
  | item :: rest => cborValue item :: cborItems rest

def cborFields : List (String × Json) → List (Cbor × Cbor)
  | [] => []
  | (key, value) :: rest => (.text key, cborValue value) :: cborFields rest

end

/-! ### CBOR to JSON -/

/-- `to_le_bytes`, of the low bits that fit. -/
def toLeBytes : Nat → Nat → List UInt8
  | 0, _ => []
  | size + 1, value => UInt8.ofNat value :: toLeBytes size (value / 256)

/-- The number that little-endian bytes stand for. -/
def fromLeBytes (bytes : List UInt8) : Nat :=
  bytes.foldr (fun byte rest => byte.toNat + 256 * rest) 0

/-- Two's complement in the given number of bits. -/
def twosComplement (bits value : Nat) : Int :=
  if value < 2 ^ (bits - 1) then value else value - 2 ^ bits

/-- `json!` of a float: null unless it is finite. -/
def jsonFloat (value : F64) : Json := if value.isFinite then .num (.float value) else .null

/-- `chunks_exact`. -/
def chunksExact (size : Nat) (bytes : List UInt8) : List (List UInt8) :=
  (List.range (bytes.length / size)).map fun index => (bytes.drop (index * size)).take size

/-- Read bytes as an array of items of one size. -/
def unpack (size : Nat) (item : Nat → Json) (bytes : List UInt8) : Except Error Json :=
  if bytes.length % size = 0 then
    .ok (.arr ((chunksExact size bytes).map fun chunk => item (fromLeBytes chunk)))
  else .error ⟨"invalid typed array length"⟩

def unsigned (value : Nat) : Json := .int value

def signed (bits value : Nat) : Json := .int (twosComplement bits value)

/-- `typed_array`. -/
def typedArray (codec : Codec) (tag : Nat) : Cbor → Except Error Json
  | .bytes bytes =>
      match tag with
      | 64 => .ok (.str (codec.base64 bytes))
      | 69 => unpack 2 unsigned bytes
      | 70 => unpack 4 unsigned bytes
      | 71 => unpack 8 unsigned bytes
      | 72 => unpack 1 (signed 8) bytes
      | 77 => unpack 2 (signed 16) bytes
      | 78 => unpack 4 (signed 32) bytes
      | 79 => unpack 8 (signed 64) bytes
      | 85 => unpack 4 (fun bits => jsonFloat (F32.widen ⟨.ofNat 32 bits⟩)) bytes
      | 86 => unpack 8 (fun bits => jsonFloat ⟨.ofNat 64 bits⟩) bytes
      | other => .error ⟨"unsupported CBOR tag " ++ toString other⟩
  | _ => .error ⟨"typed array must contain bytes"⟩

/-- The conversions `i64::try_from` and `u64::try_from`. -/
def jsonInteger (value : Int) : Except Error Json :=
  if -2 ^ 63 ≤ value ∧ value < 2 ^ 64 then .ok (.int value)
  else .error ⟨"out of range integral type conversion attempted"⟩

mutual

/-- `json_value`. -/
def jsonValue (codec : Codec) : Cbor → Except Error Json
  | .null => .ok .null
  | .bool value => .ok (.bool value)
  | .text value => .ok (.str value)
  | .float value => .ok (jsonFloat value)
  | .integer value => jsonInteger value
  | .bytes bytes => .ok (.str (codec.base64 bytes))
  | .array items => do return .arr (← jsonItems codec items)
  | .map entries => do return .obj (← jsonFields codec [] entries)
  | .tag number value => typedArray codec number value

def jsonItems (codec : Codec) : List Cbor → Except Error (List Json)
  | [] => .ok []
  | item :: rest => do
      let first ← jsonValue codec item
      let others ← jsonItems codec rest
      return first :: others

/-- Collect entries into a map: a repeated key replaces the value. -/
def jsonFields (codec : Codec) (done : Object) : List (Cbor × Cbor) → Except Error Object
  | [] => .ok done
  | (.text key, value) :: rest => do
      jsonFields codec (done.set key (← jsonValue codec value)) rest
  | _ :: _ => .error ⟨"CBOR object keys must be strings"⟩

end

/-! ### The way back -/

mutual

/-- What the JSON type of the source guarantees: integers of 64 bits, finite doubles and
distinct keys. -/
def Json.WellFormed : Json → Prop
  | .null => True
  | .bool _ => True
  | .str _ => True
  | .num (.int value) => -2 ^ 63 ≤ value ∧ value < 2 ^ 64
  | .num (.float value) => value.isFinite = true
  | .arr items => Json.AllWellFormed items
  | .obj fields => (fields.map Prod.fst).Nodup ∧ Json.FieldsWellFormed fields

def Json.AllWellFormed : List Json → Prop
  | [] => True
  | item :: rest => item.WellFormed ∧ Json.AllWellFormed rest

def Json.FieldsWellFormed : List (String × Json) → Prop
  | [] => True
  | (_, value) :: rest => value.WellFormed ∧ Json.FieldsWellFormed rest

end

theorem jsonValue_cborNumber (codec : Codec) {n : Number} (formed : (Json.num n).WellFormed) :
    jsonValue codec (cborNumber n) = .ok (.num n) := by
  cases n with
  | float value =>
      have finite : value.isFinite = true := formed
      show Except.ok (jsonFloat value) = _
      rw [jsonFloat, if_pos finite]
  | int value =>
      have range : -2 ^ 63 ≤ value ∧ value < 2 ^ 64 := formed
      have integer : cborNumber (.int value) = .integer value := by
        unfold cborNumber
        by_cases small : value < 2 ^ 63
        · have signed : (Json.num (.int value)).asI64 = some value := if_pos ⟨range.1, small⟩
          rw [signed]
        · have positive : 0 ≤ value := by omega
          have signed : (Json.num (.int value)).asI64 = none := if_neg fun bounds => small bounds.2
          have unsigned : (Json.num (.int value)).asU64 = some value.toNat :=
            if_pos ⟨positive, range.2⟩
          rw [signed, unsigned]
          exact congrArg Cbor.integer (Int.toNat_of_nonneg positive)
      rw [integer, jsonValue, jsonInteger, if_pos range]
      rfl

/-- Setting a key that the first fields do not have leaves them as they are. -/
theorem Object.set_append {done : Object} {key : String} (fresh : key ∉ done.map Prod.fst)
    (value : Json) (tail : Object) :
    (done ++ tail).set key value = done ++ Object.set tail key value := by
  induction done with
  | nil => rfl
  | cons field rest inductionHypothesis =>
      rw [List.map_cons, List.mem_cons, not_or] at fresh
      rw [List.cons_append, Object.set, if_neg (Ne.symm fresh.1), inductionHypothesis fresh.2,
        List.cons_append]

/-- A field with a new key is appended. -/
theorem Object.set_new {fields : Object} {key : String} (value : Json)
    (fresh : key ∉ fields.map Prod.fst) : fields.set key value = fields ++ [(key, value)] := by
  have appended := Object.set_append fresh value []
  rwa [List.append_nil] at appended

mutual

/-- A JSON value survives the way to CBOR and back. -/
theorem jsonValue_cborValue (codec : Codec) : ∀ v : Json, v.WellFormed →
    jsonValue codec (cborValue v) = .ok v
  | .null, _ => rfl
  | .bool _, _ => rfl
  | .str _, _ => rfl
  | .num _, formed => jsonValue_cborNumber codec formed
  | .arr items, formed => by
      rw [cborValue, jsonValue, jsonItems_cborItems codec items formed]
      rfl
  | .obj fields, formed => by
      rw [cborValue, jsonValue, jsonFields_cborFields codec fields [] formed.2 formed.1]
      rfl

theorem jsonItems_cborItems (codec : Codec) : ∀ items : List Json, Json.AllWellFormed items →
    jsonItems codec (cborItems items) = .ok items
  | [], _ => rfl
  | item :: rest, formed => by
      rw [cborItems, jsonItems, jsonValue_cborValue codec item formed.1,
        jsonItems_cborItems codec rest formed.2]
      rfl

theorem jsonFields_cborFields (codec : Codec) : ∀ (fields : List (String × Json)) (done : Object),
    Json.FieldsWellFormed fields → ((done ++ fields).map Prod.fst).Nodup →
    jsonFields codec done (cborFields fields) = .ok (done ++ fields)
  | [], done, _, _ => by rw [List.append_nil]; rfl
  | (key, value) :: rest, done, formed, distinct => by
      have fresh : key ∉ done.map Prod.fst := by
        rw [List.map_append, List.map_cons] at distinct
        exact fun member => (List.nodup_append.mp distinct).2.2 _ member _ List.mem_cons_self rfl
      rw [cborFields, jsonFields, jsonValue_cborValue codec value formed.1]
      show jsonFields codec (done.set key value) (cborFields rest) = _
      rw [Object.set_new value fresh, jsonFields_cborFields codec rest _ formed.2, List.append_assoc]
      · rfl
      · rwa [List.append_assoc]

end

end Rosbridge
