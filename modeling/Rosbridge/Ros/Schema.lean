import Rosbridge.Ros.Message

/-!
Well-formed message types and the values they hold.

Owns: conditions on a type and the types it contains; memory of the shape of a type; the
values of the supported types; and the zero-initialised message.
-/

set_option autoImplicit false

namespace Rosbridge.Ros

/-! ### Types -/

mutual

/-- A condition on the type and on every type it contains. -/
def Members.All (test : Members → Prop) : Members → Prop
  | .mk messageNamespace messageName members =>
      test (.mk messageNamespace messageName members) ∧ AllFields test members

def AllFields (test : Members → Prop) : List (Field × Members) → Prop
  | [] => True
  | (_, nested) :: rest => nested.All test ∧ AllFields test rest

end

def Members.fieldNames (m : Members) : List String := m.fields.map fun member => member.1.name

/-- The fields have different names. -/
def Members.Distinct (m : Members) : Prop := m.fieldNames.Nodup

instance (m : Members) : Decidable m.Distinct := inferInstanceAs (Decidable m.fieldNames.Nodup)

/-- The types that are treated specially are those of ROS. -/
structure Members.Standard (m : Members) : Prop where
  time : m.typeName = "builtin_interfaces/msg/Time" → m.fieldNames = ["sec", "nanosec"]
  header : m.typeName = "std_msgs/msg/Header" → m.fieldNames = ["stamp", "frame_id"]

def Members.WellFormed (m : Members) : Prop := m.Distinct ∧ m.Standard

theorem Members.All.head {test : Members → Prop} {m : Members} (holds : m.All test) : test m := by
  cases m with
  | mk => exact holds.1

mutual

theorem Members.All.mono {test weaker : Members → Prop} (weakens : ∀ m, test m → weaker m) :
    ∀ m : Members, m.All test → m.All weaker
  | .mk _ _ members, holds => ⟨weakens _ holds.1, AllFields.mono weakens members holds.2⟩

theorem AllFields.mono {test weaker : Members → Prop} (weakens : ∀ m, test m → weaker m) :
    ∀ members : List (Field × Members), AllFields test members → AllFields weaker members
  | [], _ => trivial
  | (_, nested) :: rest, holds =>
      ⟨Members.All.mono weakens nested holds.1, AllFields.mono weakens rest holds.2⟩

end

/-! ### Values -/

section Values

variable (leaf : Field → Datum → Prop)

/-- How many elements an array may have. -/
def Field.Sized (f : Field) (count : Nat) : Prop :=
  if f.isSequence then f.arraySize = 0 ∨ count ≤ f.arraySize else count = f.arraySize

/-- A value of a field that is no array, or an element of one. -/
def Field.Scalar (f : Field) (object : List Datum → Prop) (p : Datum) : Prop :=
  if f.typeId = 18 then ∃ parts, p = .message parts ∧ object parts else leaf f p

def Field.Value (f : Field) (object : List Datum → Prop) (p : Datum) : Prop :=
  if f.isArray then
    ∃ items, p = .array items ∧ f.Sized items.length ∧ ∀ item ∈ items, f.Scalar leaf object item
  else f.Scalar leaf object p

mutual

/-- Memory of the shape of a type, with a condition on its cells and strings. -/
def Members.Value : Members → List Datum → Prop
  | .mk _ _ members, data => FieldValues members data

def FieldValues : List (Field × Members) → List Datum → Prop
  | [], [] => True
  | (f, nested) :: rest, p :: data =>
      f.Value leaf (fun parts => nested.Value parts) p ∧ FieldValues rest data
  | _, _ => False

end

end Values

theorem Datum.read_lt (width : Nat) (p : Datum) : p.read width < 2 ^ width := by
  cases p with
  | cell bits => exact Nat.mod_lt _ (Nat.two_pow_pos width)
  | string | wstring | message | array => exact Nat.two_pow_pos width

/-- Memory of the shape of a type, such as an initialised message. -/
def Members.Shaped : Members → List Datum → Prop := Members.Value fun _ _ => True

/-- The width of an integer type. -/
def integerWidth (typeId : Nat) : Option Nat :=
  match typeId with
  | 4 | 7 | 8 | 9 => some 8
  | 5 | 10 | 11 => some 16
  | 12 | 13 => some 32
  | 14 | 15 => some 64
  | _ => none

/-- A value of a supported type: finite floats, valid text, and lengths within bounds. -/
inductive Field.Valid (f : Field) : Datum → Prop where
  | float32 {bits : Nat} (typed : f.typeId = 1) (bound : bits < 2 ^ 32)
      (finite : (Datum.cell bits).readF32.isFinite = true) : Field.Valid f (.cell bits)
  | float64 {bits : Nat} (typed : f.typeId = 2) (bound : bits < 2 ^ 64)
      (finite : (Datum.cell bits).readF64.isFinite = true) : Field.Valid f (.cell bits)
  | integer {bits width : Nat} (typed : integerWidth f.typeId = some width)
      (bound : bits < 2 ^ width) : Field.Valid f (.cell bits)
  | boolean {bits : Nat} (typed : f.typeId = 6) (bound : bits < 2) : Field.Valid f (.cell bits)
  | string {bytes : ByteArray} (typed : f.typeId = 16) (valid : bytes.IsValidUTF8)
      (bound : f.stringUpperBound = 0 ∨ bytes.size ≤ f.stringUpperBound) :
      Field.Valid f (.string bytes)
  | wstring {units : List Nat} {text : String} (typed : f.typeId = 17)
      (valid : Utf16.decode units = some text)
      (bound : f.stringUpperBound = 0 ∨ units.length ≤ f.stringUpperBound) :
      Field.Valid f (.wstring units)

/-- A message of a supported type. -/
def Members.Valid : Members → List Datum → Prop := Members.Value Field.Valid

/-! ### Initial memory -/

/-- The zero value of a field that is no array, from that of its nested type. -/
def Field.zero (f : Field) (nested : List Datum) : Datum :=
  match f.typeId with
  | 16 => .string ByteArray.empty
  | 17 => .wstring []
  | 18 => .message nested
  | _ => .cell 0

mutual

/-- A zero-initialised message. -/
def Members.initial : Members → List Datum
  | .mk _ _ members => initialFields members

def initialFields : List (Field × Members) → List Datum
  | [] => []
  | (f, nested) :: rest =>
      (if f.isArray then
        .array (List.replicate (if f.isSequence then 0 else f.arraySize) (f.zero nested.initial))
      else f.zero nested.initial) :: initialFields rest

end

theorem Field.zero_scalar (f : Field) {nested : Members} {parts : List Datum}
    (shaped : nested.Shaped parts) :
    f.Scalar (fun _ _ => True) nested.Shaped (f.zero parts) := by
  unfold Field.Scalar
  by_cases message : f.typeId = 18
  · rw [if_pos message]
    exact ⟨parts, by simp only [Field.zero, message], shaped⟩
  · rw [if_neg message]
    trivial

mutual

theorem Members.initial_shaped : ∀ m : Members, m.Shaped m.initial
  | .mk _ _ members => initialFields_shaped members

theorem initialFields_shaped : ∀ members : List (Field × Members),
    FieldValues (fun _ _ => True) members (initialFields members)
  | [] => trivial
  | (f, nested) :: rest => by
      have zero := f.zero_scalar (Members.initial_shaped nested)
      refine ⟨?_, initialFields_shaped rest⟩
      unfold Field.Value
      by_cases array : f.isArray = true
      · rw [if_pos array, if_pos array]
        refine ⟨_, rfl, ?_, fun item member => ?_⟩
        · unfold Field.Sized
          rw [List.length_replicate]
          split <;> omega
        · rw [List.eq_of_mem_replicate member]
          exact zero
      · rw [if_neg array, if_neg array]
        exact zero

end

end Rosbridge.Ros
