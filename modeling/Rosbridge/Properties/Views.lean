import Rosbridge.Foundation.Traverse
import Rosbridge.Properties.Decoder
import Rosbridge.Ros.Schema
import Rosbridge.Wire.TypedArrays

/-!
The JSON view and the CBOR view of a message.

Owns: when the two views of a message agree. They do unless an octet sequence holds a
byte from 128 on, which is packed unsigned and tagged as signed.
-/

set_option autoImplicit false

namespace Rosbridge.Ros

open Foundation

variable {codec : Codec}

/-! ### Primitive values -/

theorem unsigned_wellFormed {value : Nat} (bound : value < 2 ^ 64) : (unsigned value).WellFormed := by
  show -2 ^ 63 ≤ (value : Int) ∧ (value : Int) < 2 ^ 64
  omega

theorem signed_wellFormed {width value : Nat} (positive : 0 < width) (fits : width ≤ 64)
    (bound : value < 2 ^ width) : (signed width value).WellFormed := by
  have half : 2 ^ width = 2 * 2 ^ (width - 1) := by
    rw [← pow_succ']
    congr 1
    omega
  have most : 2 ^ (width - 1) ≤ 2 ^ 63 := Nat.pow_le_pow_right (by decide) (by omega)
  show -2 ^ 63 ≤ twosComplement width value ∧ twosComplement width value < 2 ^ 64
  have cast : (2 : Int) ^ width = ((2 ^ width : Nat) : Int) := by push_cast; rfl
  unfold twosComplement
  rw [cast]
  split <;> omega

theorem jsonFloat_wellFormed (value : F64) : (jsonFloat value).WellFormed := by
  unfold jsonFloat
  split
  · assumption
  · trivial

/-- What is read is a value of the JSON type. -/
theorem readPrimitive_wellFormed {f : Field} {p : Datum} {value : Json}
    (read : readPrimitive f p = .ok value) : value.WellFormed := by
  have small {width : Nat} (fits : width ≤ 64) : p.read width < 2 ^ 64 :=
    (p.read_lt width).trans_le (Nat.pow_le_pow_right (by decide) fits)
  unfold readPrimitive at read
  split at read
  case h_1 | h_2 =>
    cases read
    exact jsonFloat_wellFormed _
  case h_3 | h_4 | h_5 | h_6 | h_7 | h_11 | h_13 =>
    cases read
    exact unsigned_wellFormed (small (by decide))
  case h_8 =>
    cases read
    trivial
  case h_9 | h_10 | h_12 | h_14 =>
    cases read
    exact signed_wellFormed (by decide) (by decide) (p.read_lt _)
  case h_15 | h_16 =>
    split at read
    · cases read
      trivial
    · cases read
  case h_17 => cases read

/-- The CBOR view of a primitive value reads as its JSON view. -/
theorem jsonValue_primitiveCbor {f : Field} {p : Datum} {value : Json}
    (read : readPrimitive f p = .ok value) :
    jsonValue codec (primitiveCbor f p value) = .ok value := by
  unfold primitiveCbor
  split
  · next single =>
      rw [readPrimitive, single] at read
      cases read
      rfl
  · next double =>
      rw [readPrimitive, double] at read
      cases read
      rfl
  · exact jsonValue_cborValue codec value (readPrimitive_wellFormed read)

/-! ### Typed arrays -/

/-- An octet that is negative as a signed byte. -/
def Datum.isSigned (p : Datum) : Bool := decide (128 ≤ p.read 8)

/-- How the elements of a type are packed and unpacked. -/
structure Unpacks (codec : Codec) (typeId tag size : Nat) (item : Nat → Json) : Prop where
  positive : 0 < size
  packed : ∀ p, pack typeId p = toLeBytes size (p.read (8 * size))
  unpacked : ∀ bytes, typedArray codec tag (.bytes bytes) = unpack size item bytes
  same : ∀ f p value, f.typeId = typeId → readPrimitive f p = .ok value →
    (item (p.read (8 * size)) = value ↔ (typeId = 7 → p.isSigned = false))

/-- A type whose elements are unpacked as the values they are read as. -/
theorem Unpacks.plain {typeId tag size : Nat} {item : Nat → Json} (other : typeId ≠ 7)
    (positive : 0 < size) (packed : ∀ p, pack typeId p = toLeBytes size (p.read (8 * size)))
    (unpacked : ∀ bytes, typedArray codec tag (.bytes bytes) = unpack size item bytes)
    (value : ∀ f p, f.typeId = typeId → readPrimitive f p = .ok (item (p.read (8 * size)))) :
    Unpacks codec typeId tag size item := by
  refine ⟨positive, packed, unpacked, fun f p json typed read => ?_⟩
  rw [value f p typed] at read
  exact iff_of_true (Except.ok.inj read) fun octet => absurd octet other

/-- An octet is unpacked as a signed byte. -/
theorem signed_eq_unsigned {value : Nat} (bound : value < 2 ^ 8) :
    signed 8 value = unsigned value ↔ ¬ 128 ≤ value := by
  unfold signed unsigned twosComplement Json.int
  simp only [Json.num.injEq, Number.int.injEq]
  split <;> omega

/-- The type tables of the two sides agree but for octets. -/
theorem unpacks (codec : Codec) {typeId tag : Nat} (tagged : arrayTag typeId = some tag) :
    ∃ size item, Unpacks codec typeId tag size item := by
  unfold arrayTag at tagged
  split at tagged <;> cases tagged
  case h_1 =>
    refine ⟨4, fun bits => jsonFloat (F32.widen ⟨.ofNat 32 bits⟩), .plain (by decide) (by decide)
      (fun _ => rfl) (fun _ => rfl) fun f p typed => ?_⟩
    rw [readPrimitive, typed]
    rfl
  case h_2 =>
    refine ⟨8, fun bits => jsonFloat ⟨.ofNat 64 bits⟩, .plain (by decide) (by decide)
      (fun _ => rfl) (fun _ => rfl) fun f p typed => ?_⟩
    rw [readPrimitive, typed]
    rfl
  case h_3 =>
    refine ⟨1, signed 8, by decide, fun _ => rfl, fun _ => rfl, fun f p json typed read => ?_⟩
    rw [readPrimitive, typed] at read
    cases read
    rw [signed_eq_unsigned (p.read_lt 8), Datum.isSigned, decide_eq_false_iff_not]
    exact ⟨fun small _ => small, fun small => small rfl⟩
  case h_4 =>
    refine ⟨1, signed 8, .plain (by decide) (by decide) (fun _ => rfl) (fun _ => rfl)
      fun f p typed => ?_⟩
    rw [readPrimitive, typed]
    rfl
  case h_5 =>
    refine ⟨2, unsigned, .plain (by decide) (by decide) (fun _ => rfl) (fun _ => rfl)
      fun f p typed => ?_⟩
    rw [readPrimitive, typed]
    rfl
  case h_6 =>
    refine ⟨2, signed 16, .plain (by decide) (by decide) (fun _ => rfl) (fun _ => rfl)
      fun f p typed => ?_⟩
    rw [readPrimitive, typed]
    rfl
  case h_7 =>
    refine ⟨4, unsigned, .plain (by decide) (by decide) (fun _ => rfl) (fun _ => rfl)
      fun f p typed => ?_⟩
    rw [readPrimitive, typed]
    rfl
  case h_8 =>
    refine ⟨4, signed 32, .plain (by decide) (by decide) (fun _ => rfl) (fun _ => rfl)
      fun f p typed => ?_⟩
    rw [readPrimitive, typed]
    rfl
  case h_9 =>
    refine ⟨8, unsigned, .plain (by decide) (by decide) (fun _ => rfl) (fun _ => rfl)
      fun f p typed => ?_⟩
    rw [readPrimitive, typed]
    rfl
  case h_10 =>
    refine ⟨8, signed 64, .plain (by decide) (by decide) (fun _ => rfl) (fun _ => rfl)
      fun f p typed => ?_⟩
    rw [readPrimitive, typed]
    rfl

/-! ### Arrays -/

/-- The two views of a value agree. -/
def Agrees (codec : Codec) (views : Json × Cbor) : Prop :=
  jsonValue codec views.2 = .ok views.1

/-- Arrays agree when all elements do. -/
theorem jsonItems_iff (codec : Codec) (pairs : List (Json × Cbor)) :
    jsonItems codec (pairs.map Prod.snd) = .ok (pairs.map Prod.fst) ↔
      ∀ views ∈ pairs, Agrees codec views := by
  induction pairs with
  | nil => exact iff_of_true rfl (by simp)
  | cons views rest inductionHypothesis =>
      rw [List.forall_mem_cons, ← inductionHypothesis]
      have unfolded : jsonItems codec ((views :: rest).map Prod.snd) = (do
          let first ← jsonValue codec views.2
          let others ← jsonItems codec (rest.map Prod.snd)
          return first :: others) := by
        rw [List.map_cons, jsonItems]
      rw [unfolded, Agrees, List.map_cons]
      cases jsonValue codec views.2 with
      | error cause => exact iff_of_false (fun same => by cases same) fun both => by cases both.1
      | ok first =>
          cases jsonItems codec (rest.map Prod.snd) with
          | error cause => exact iff_of_false (fun same => by cases same) fun both => by cases both.2
          | ok others =>
              show Except.ok (first :: others) = Except.ok (views.1 :: rest.map Prod.fst) ↔ _
              simp

/-! ### The condition -/

/-- An octet sequence of the field holds a byte that is negative as a signed byte; `object`
tests a nested message. -/
def Field.signedOctet (f : Field) (object : List Datum → Bool) (p : Datum) : Bool :=
  if f.isArray then
    (f.typeId = 7 && f.isSequence && p.items.any Datum.isSigned) ||
      (f.typeId = 18 && p.items.any fun item => object item.parts)
  else f.typeId = 18 && object p.parts

mutual

/-- Some octet sequence of the message holds a byte from 128 on. -/
def Members.signedOctet : Members → List Datum → Bool
  | .mk _ _ members, data => fieldsSignedOctet members data

def fieldsSignedOctet : List (Field × Members) → List Datum → Bool
  | (f, nested) :: rest, p :: data =>
      f.signedOctet (fun parts => Members.signedOctet nested parts) p ||
        fieldsSignedOctet rest data
  | _, _ => false

end

/-! ### Fields -/

section Fields

variable {f : Field} {p : Datum} {views : Json × Cbor} {bad : List Datum → Bool}
  {object : List Datum → Except Error (Json × Cbor)}

theorem readScalar_agrees
    (inner : ∀ parts views, object parts = .ok views → (Agrees codec views ↔ bad parts = false))
    (read : readScalar f object p = .ok views) :
    Agrees codec views ↔ (f.typeId = 18 → bad p.parts = false) := by
  unfold readScalar at read
  split at read
  · next nested => exact (inner _ _ read).trans ⟨fun held _ => held, fun held => held nested⟩
  · next plain =>
      cases value : readPrimitive f p with
      | error cause =>
          rw [value] at read
          cases read
      | ok json =>
          rw [value] at read
          cases read
          exact iff_of_true (jsonValue_primitiveCbor value) fun nested => absurd nested plain

/-- A typed array agrees unless it holds a negative octet. -/
theorem typedArray_agrees {tag : Nat} {items : List Datum} {pairs : List (Json × Cbor)}
    (tagged : arrayTag f.typeId = some tag)
    (elements : List.Forall₂ (fun p views => readScalar f object p = .ok views) items pairs) :
    typedArray codec tag (.bytes (items.flatMap (pack f.typeId))) =
        .ok (.arr (pairs.map Prod.fst)) ↔
      ∀ item ∈ items, f.typeId = 7 → item.isSigned = false := by
  obtain ⟨size, item, table⟩ := unpacks codec tagged
  have plain : f.typeId ≠ 18 := by
    intro nested
    rw [nested] at tagged
    cases tagged
  have packed : pack f.typeId = fun p => toLeBytes size (p.read (8 * size)) :=
    funext table.packed
  have whole (p : Datum) : p.read (8 * size) % 256 ^ size = p.read (8 * size) := by
    refine Nat.mod_eq_of_lt ((p.read_lt _).trans_eq ?_)
    rw [pow_mul]
    rfl
  rw [table.unpacked, packed, unpack_flatMap table.positive, Except.ok.injEq, Json.arr.injEq]
  refine map_eq_map_iff elements fun p views read => ?_
  rw [whole]
  unfold readScalar at read
  rw [if_neg plain] at read
  cases value : readPrimitive f p with
  | error cause =>
      rw [value] at read
      cases read
  | ok json =>
      rw [value] at read
      cases read
      exact table.same f p json rfl value

theorem signedOctet_eq_false (array : f.isArray = true) : f.signedOctet bad p = false ↔
    (f.typeId = 7 → f.isSequence = true → ∀ item ∈ p.items, item.isSigned = false) ∧
      ∀ item ∈ p.items, f.typeId = 18 → bad item.parts = false := by
  rw [Field.signedOctet, if_pos array, Bool.or_eq_false_iff]
  refine and_congr ?_ ?_
  · by_cases octet : f.typeId = 7
    · cases f.isSequence <;> simp [octet]
    · simp [octet]
  · by_cases nested : f.typeId = 18
    · simp [nested]
    · simp [nested]

theorem readField_agrees
    (inner : ∀ parts views, object parts = .ok views → (Agrees codec views ↔ bad parts = false))
    (read : readField codec f object p = .ok views) :
    Agrees codec views ↔ f.signedOctet bad p = false := by
  unfold readField at read
  split at read
  · next array =>
      cases mapped : p.items.mapM (readScalar f object) with
      | error cause =>
          rw [mapped] at read
          cases read
      | ok pairs =>
          rw [mapped] at read
          cases read
          have elements := mapM_forall₂ mapped
          rw [signedOctet_eq_false array]
          by_cases binary : f.isBinary = true
          · have types : f.typeId ≠ 7 ∧ f.typeId ≠ 18 := by
              unfold Field.isBinary at binary
              constructor <;> intro other <;> simp [other] at binary
            simp only [if_pos binary]
            exact iff_of_true rfl ⟨fun octet => absurd octet types.1,
              fun _ _ nested => absurd nested types.2⟩
          · simp only [if_neg binary]
            -- an array that is not typed agrees when its elements do
            have plain : Agrees codec (.arr (pairs.map Prod.fst), .array (pairs.map Prod.snd)) ↔
                ∀ item ∈ p.items, f.typeId = 18 → bad item.parts = false := by
              refine Iff.trans ?_ (forall_mem_iff elements fun item views => readScalar_agrees inner)
              rw [← jsonItems_iff]
              show (do return Json.arr (← jsonItems codec (pairs.map Prod.snd))) = _ ↔ _
              cases jsonItems codec (pairs.map Prod.snd) with
              | error cause => exact iff_of_false (fun same => by cases same) fun same => by cases same
              | ok items =>
                  show Except.ok (Json.arr items) = _ ↔ _
                  simp
            by_cases sequence : f.isSequence = true
            · simp only [if_pos sequence]
              cases tagged : arrayTag f.typeId with
              | none =>
                  have other : f.typeId ≠ 7 := fun octet => by
                    rw [octet] at tagged
                    cases tagged
                  rw [plain]
                  exact ⟨fun held => ⟨fun octet => absurd octet other, held⟩, And.right⟩
              | some tag =>
                  have other : f.typeId ≠ 18 := fun nested => by
                    rw [nested] at tagged
                    cases tagged
                  refine (typedArray_agrees tagged elements).trans ⟨fun held => ?_, fun held => ?_⟩
                  · exact ⟨fun octet _ item member => held item member octet,
                      fun _ _ nested => absurd nested other⟩
                  · exact fun item member octet => held.1 octet sequence item member
            · simp only [if_neg sequence]
              rw [plain]
              exact ⟨fun held => ⟨fun _ fixed => absurd fixed sequence, held⟩, And.right⟩
  · next scalar =>
      rw [readScalar_agrees inner read, Field.signedOctet, if_neg scalar]
      simp

end Fields

/-! ### Objects -/

theorem readFields_cons {f : Field} {nested : Members} {rest : List (Field × Members)} {p : Datum}
    {data : List Datum} {done json : Object} {cbor : List (Cbor × Cbor)}
    (read : readFields codec ((f, nested) :: rest) (p :: data) done = .ok (json, cbor)) :
    ∃ views others, readField codec f (fun parts => readObject codec nested parts) p = .ok views ∧
      readFields codec rest data (done.set f.name views.1) = .ok (json, others) ∧
      cbor = (.text f.name, views.2) :: others := by
  rw [readFields] at read
  cases first : readField codec f (fun parts => readObject codec nested parts) p with
  | error cause =>
      rw [first] at read
      cases read
  | ok views =>
      rw [first] at read
      have step : (readFields codec rest data (done.set f.name views.1) >>= fun pair =>
          .ok (pair.1, (.text f.name, views.2) :: pair.2)) = Except.ok (json, cbor) := read
      cases others : readFields codec rest data (done.set f.name views.1) with
      | error cause =>
          rw [others] at step
          cases step
      | ok pair =>
          rw [others] at step
          cases step
          exact ⟨views, pair.2, rfl, others, rfl⟩

/-- Fields that were read before are kept. -/
theorem readFields_keeps {members : List (Field × Members)} {data : List Datum}
    {done tail json : Object} {cbor : List (Cbor × Cbor)}
    (fresh : ∀ member ∈ members, member.1.name ∉ done.map Prod.fst)
    (read : readFields codec members data (done ++ tail) = .ok (json, cbor)) :
    (∃ more, json = done ++ more) ∧
      ∀ entry ∈ cbor, ∃ member ∈ members, entry.1 = .text member.1.name := by
  induction members generalizing data tail cbor with
  | nil =>
      cases read
      exact ⟨⟨tail, rfl⟩, by simp⟩
  | cons member rest inductionHypothesis =>
      obtain ⟨f, nested⟩ := member
      cases data with
      | nil =>
          cases read
          exact ⟨⟨tail, rfl⟩, by simp⟩
      | cons p data =>
          obtain ⟨views, others, -, remaining, rfl⟩ := readFields_cons read
          rw [Object.set_append (fresh (f, nested) List.mem_cons_self)] at remaining
          obtain ⟨kept, named⟩ := inductionHypothesis
            (fun member listed => fresh _ (List.mem_cons_of_mem _ listed)) remaining
          refine ⟨kept, fun entry listed => ?_⟩
          rcases List.mem_cons.mp listed with rfl | listed
          · exact ⟨_, List.mem_cons_self, rfl⟩
          · obtain ⟨member, there, same⟩ := named entry listed
            exact ⟨member, List.mem_cons_of_mem _ there, same⟩

/-- Fields that were decoded before are kept. -/
theorem jsonFields_keeps {entries : List (Cbor × Cbor)} {done tail json : Object}
    (fresh : ∀ entry ∈ entries, ∀ key, entry.1 = .text key → key ∉ done.map Prod.fst)
    (decoded : jsonFields codec (done ++ tail) entries = .ok json) :
    ∃ more, json = done ++ more := by
  induction entries generalizing tail with
  | nil =>
      cases decoded
      exact ⟨tail, rfl⟩
  | cons entry rest inductionHypothesis =>
      obtain ⟨key, c⟩ := entry
      cases key with
      | text key =>
          rw [jsonFields] at decoded
          cases value : jsonValue codec c with
          | error cause =>
              rw [value] at decoded
              cases decoded
          | ok v =>
              rw [value] at decoded
              have decoded : jsonFields codec ((done ++ tail).set key v) rest = .ok json := decoded
              rw [Object.set_append (fresh _ List.mem_cons_self key rfl)] at decoded
              exact inductionHypothesis (fun entry listed =>
                fresh entry (List.mem_cons_of_mem _ listed)) decoded
      | null | bool | integer | float | bytes | array | map | tag => cases decoded

mutual

/-- The views of a message agree if and only if no octet sequence holds a negative byte. -/
theorem readObject_agrees (codec : Codec) : ∀ (m : Members) (data : List Datum)
    (views : Json × Cbor), m.All Members.Distinct → readObject codec m data = .ok views →
    (Agrees codec views ↔ m.signedOctet data = false)
  | .mk _ _ members, data, views, distinct, read => by
      rw [readObject] at read
      cases fields : readFields codec members data [] with
      | error cause =>
          rw [fields] at read
          cases read
      | ok pair =>
          rw [fields] at read
          cases read
          have decoded := readFields_agrees codec members data [] pair.1 pair.2 distinct.2
            distinct.1 fields
          rw [Members.signedOctet, ← decoded]
          show (do return Json.obj (← jsonFields codec [] pair.2)) = _ ↔ _
          cases jsonFields codec [] pair.2 with
          | error cause => exact iff_of_false (fun same => by cases same) fun same => by cases same
          | ok json =>
              show Except.ok (Json.obj json) = _ ↔ _
              simp

theorem readFields_agrees (codec : Codec) : ∀ (members : List (Field × Members))
    (data : List Datum) (done json : Object) (cbor : List (Cbor × Cbor)),
    AllFields Members.Distinct members →
    (done.map Prod.fst ++ members.map fun member => member.1.name).Nodup →
    readFields codec members data done = .ok (json, cbor) →
    (jsonFields codec done cbor = .ok json ↔ fieldsSignedOctet members data = false)
  | [], data, done, json, cbor, _, _, read => by
      cases read
      exact iff_of_true rfl rfl
  | (f, nested) :: rest, [], done, json, cbor, _, _, read => by
      cases read
      exact iff_of_true rfl rfl
  | (f, nested) :: rest, p :: data, done, json, cbor, distinct, different, read => by
      obtain ⟨views, others, first, remaining, rfl⟩ := readFields_cons read
      have field := readField_agrees (fun parts views =>
        readObject_agrees codec nested parts views distinct.1) first
      have fresh : f.name ∉ done.map Prod.fst := fun member =>
        (List.nodup_append.mp different).2.2 _ member _ List.mem_cons_self rfl
      have shifted (value : Json) : ((done ++ [(f.name, value)]).map Prod.fst ++
          rest.map fun member => member.1.name).Nodup := by
        rw [List.map_append, List.append_assoc]
        exact different
      have apart (value : Json) : ∀ member ∈ rest,
          member.1.name ∉ (done ++ [(f.name, value)]).map Prod.fst := fun member listed there =>
        (List.nodup_append.mp (shifted value)).2.2 _ there _ (List.mem_map_of_mem listed) rfl
      rw [Object.set_new _ fresh] at remaining
      have others' := readFields_agrees codec rest data _ json others distinct.2
        (shifted views.1) remaining
      rw [fieldsSignedOctet, Bool.or_eq_false_iff, ← field, ← others', jsonFields, Agrees]
      cases value : jsonValue codec views.2 with
      | error cause => exact iff_of_false (fun same => by cases same) fun both => by cases both.1
      | ok v =>
          show jsonFields codec (done.set f.name v) others = _ ↔ _
          rw [Object.set_new _ fresh, Except.ok.injEq]
          refine ⟨fun decoded => ?_, fun both => by rw [both.1]; exact both.2⟩
          have same : v = views.1 := by
            rw [← List.append_nil (done ++ [(f.name, views.1)])] at remaining
            obtain ⟨⟨more, kept⟩, named⟩ := readFields_keeps (apart views.1) remaining
            rw [← List.append_nil (done ++ [(f.name, v)])] at decoded
            obtain ⟨further, kept'⟩ := jsonFields_keeps (fun entry listed key text => by
              obtain ⟨member, there, named⟩ := named entry listed
              cases text.symm.trans named
              exact apart v member there) decoded
            rw [kept, List.append_assoc, List.append_assoc] at kept'
            have heads := List.append_cancel_left kept'
            simpa using (List.cons.inj heads).1.symm
          rw [same] at decoded
          exact ⟨same, decoded⟩

end

/-- A message with one octet sequence. -/
def byteArray : Members :=
  .mk "std_msgs__msg" "ByteMultiArray"
    [({ name := "data", typeId := 7, isArray := true }, .mk "" "" [])]

/-- Where both views can be read, the CBOR view reads as the JSON view if and only if no
octet sequence holds a byte from 128 on. -/
theorem views_agree (codec : Codec) (m : Members) (data : List Datum) {json : Json} {cbor : Cbor}
    (distinct : m.All Members.Distinct) (read : values codec m data = .ok (json, cbor)) :
    jsonValue codec cbor = .ok json ↔ m.signedOctet data = false :=
  readObject_agrees codec m data (json, cbor) distinct read

theorem views_agree_bytes :
    jsonValue .sample (.map [(.text "data", .tag 72 (.bytes [1, 127]))]) =
      .ok (.obj [("data", .arr [.int 1, .int 127])]) :=
  (views_agree .sample byteArray [.array [.cell 1, .cell 127]]
    ⟨by decide, ⟨by decide, trivial⟩, trivial⟩ rfl).mpr (by decide +kernel)

/-- The byte 200 is -56 in the CBOR view. -/
theorem byte_views_differ :
    values .sample byteArray [.array [.cell 200]] =
        .ok (.obj [("data", .arr [.int 200])],
          .map [(.text "data", .tag 72 (.bytes [200]))]) ∧
      jsonValue .sample (.map [(.text "data", .tag 72 (.bytes [200]))]) =
        .ok (.obj [("data", .arr [.int (-56)])]) ∧
      Json.obj [("data", .arr [.int 200])] ≠ .obj [("data", .arr [.int (-56)])] := by
  refine ⟨rfl, rfl, fun same => ?_⟩
  simp [Json.int] at same

end Rosbridge.Ros
