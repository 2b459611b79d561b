import Rosbridge.Data.Base64
import Rosbridge.Foundation.Traverse
import Rosbridge.Properties.Decoder
import Rosbridge.Ros.Schema

/-!
Messages survive JSON.

Owns: that a message of a supported type can be read, and that what it reads as fills an
initialised message of the type with the same value.
-/

set_option autoImplicit false

namespace Rosbridge.Ros

open Foundation

variable {codec : Codec}

/-! ### Primitive values -/

theorem asF64_jsonFloat {value : F64} (finite : value.isFinite = true) :
    (jsonFloat value).asF64 = some value := by
  rw [jsonFloat, if_pos finite]
  rfl

theorem unsignedCell_unsigned {width bits : Nat} (fits : width ≤ 64) (bound : bits < 2 ^ width) :
    unsignedCell width (unsigned bits) = .ok (.cell bits) := by
  have most : 2 ^ width ≤ 2 ^ 64 := Nat.pow_le_pow_right (by decide) fits
  have accessed : (unsigned bits).asU64 = some bits := by
    rw [unsigned, Json.asU64_int, if_pos (by omega), Int.toNat_natCast]
  rw [unsignedCell, accessed]
  exact if_pos bound

theorem signedCell_signed {width bits : Nat} (positive : 0 < width) (fits : width ≤ 64)
    (bound : bits < 2 ^ width) : signedCell width (signed width bits) = .ok (.cell bits) := by
  have half : 2 ^ width = 2 * 2 ^ (width - 1) := by
    rw [← pow_succ']
    congr 1
    omega
  have most : 2 ^ (width - 1) ≤ 2 ^ 63 := Nat.pow_le_pow_right (by decide) (by omega)
  have cast : (2 : Int) ^ width = ((2 ^ width : Nat) : Int) := by push_cast; rfl
  have castHalf : (2 : Int) ^ (width - 1) = ((2 ^ (width - 1) : Nat) : Int) := by push_cast; rfl
  have range : -2 ^ (width - 1) ≤ twosComplement width bits ∧
      twosComplement width bits < 2 ^ (width - 1) := by
    unfold twosComplement
    rw [cast, castHalf]
    split <;> omega
  have accessed : (signed width bits).asI64 = some (twosComplement width bits) := by
    rw [castHalf] at range
    rw [signed, Json.asI64_int, if_pos (by omega)]
  have stored : (twosComplement width bits % 2 ^ width).toNat = bits := by
    have small : (bits : Int) % ((2 ^ width : Nat) : Int) = bits := by
      exact_mod_cast Nat.mod_eq_of_lt bound
    unfold twosComplement
    rw [cast]
    split
    · rw [small, Int.toNat_natCast]
    · rw [Int.sub_emod_right, small, Int.toNat_natCast]
  rw [signedCell, accessed]
  show (if _ then _ else _) = _
  rw [if_pos range, stored]

section Primitive

variable {f : Field} {p : Datum}

theorem read_cell {width bits : Nat} (bound : bits < 2 ^ width) :
    (Datum.cell bits).read width = bits := Nat.mod_eq_of_lt bound

/-- The two type tables give an integer type the same range. -/
theorem integer_table {width : Nat} (typed : integerWidth f.typeId = some width) :
    ((∀ p, readPrimitive f p = .ok (unsigned (p.read width))) ∧
      ∀ object q v, writeScalar f object q v = unsignedCell width v) ∨
    (0 < width ∧ (∀ p, readPrimitive f p = .ok (signed width (p.read width))) ∧
      ∀ object q v, writeScalar f object q v = signedCell width v) := by
  unfold integerWidth at typed
  split at typed
  case h_1 same | h_2 same | h_3 same | h_5 same | h_6 same | h_8 same | h_10 same =>
    cases typed
    exact .inl ⟨fun p => by simp only [readPrimitive, same],
      fun object q v => by simp only [writeScalar, same]⟩
  case h_4 same | h_7 same | h_9 same | h_11 same =>
    cases typed
    exact .inr ⟨by decide, fun p => by simp only [readPrimitive, same],
      fun object q v => by simp only [writeScalar, same]⟩
  case h_12 => cases typed

theorem integerWidth_le {typeId width : Nat} (typed : integerWidth typeId = some width) :
    width ≤ 64 := by
  unfold integerWidth at typed
  split at typed <;> cases typed <;> decide

/-- What a value reads as fills its field with the value. -/
theorem primitive_roundtrip (valid : f.Valid p) :
    ∃ json, readPrimitive f p = .ok json ∧ ∀ object q, writeScalar f object q json = .ok p := by
  cases valid with
  | @float32 bits typed bound finite =>
      refine ⟨jsonFloat (Datum.cell bits).readF32.widen, by simp only [readPrimitive, typed],
        fun object q => ?_⟩
      have wide := F32.isFinite_widen finite
      have stored : (Datum.cell bits).readF32.bits.toNat = bits := by
        show ((BitVec.ofNat 32 ((Datum.cell bits).read 32)).toNat) = bits
        rw [read_cell bound, BitVec.toNat_ofNat, Nat.mod_eq_of_lt bound]
      simp only [writeScalar, typed, asF64_jsonFloat wide]
      rw [if_pos ⟨wide, F32.magnitude_widen finite⟩, F32.narrow_widen finite, stored]
  | @float64 bits typed bound finite =>
      refine ⟨jsonFloat (Datum.cell bits).readF64, by simp only [readPrimitive, typed],
        fun object q => ?_⟩
      have stored : (Datum.cell bits).readF64.bits.toNat = bits := by
        show ((BitVec.ofNat 64 ((Datum.cell bits).read 64)).toNat) = bits
        rw [read_cell bound, BitVec.toNat_ofNat, Nat.mod_eq_of_lt bound]
      simp only [writeScalar, typed, asF64_jsonFloat finite, stored]
  | @integer bits width typed bound =>
      have fits := integerWidth_le typed
      rcases integer_table typed with ⟨read, write⟩ | ⟨positive, read, write⟩
      · refine ⟨_, read _, fun object q => ?_⟩
        rw [write, read_cell bound, unsignedCell_unsigned fits bound]
      · refine ⟨_, read _, fun object q => ?_⟩
        rw [write, read_cell bound, signedCell_signed positive fits bound]
  | @boolean bits typed bound =>
      refine ⟨.bool (bits != 0), ?_, fun object q => ?_⟩
      · simp only [readPrimitive, typed]
        rw [read_cell (by omega)]
      · have stored : (bits != 0).toNat = bits := by
          rcases Nat.lt_succ_iff_lt_or_eq.mp bound with low | rfl
          · obtain rfl : bits = 0 := by omega
            rfl
          · rfl
        simp only [writeScalar, typed, Json.asBool, stored]
  | @string bytes typed valid bound =>
      have decoded : String.fromUTF8? bytes = some (String.fromUTF8 bytes valid) := dif_pos valid
      refine ⟨.str (String.fromUTF8 bytes valid), ?_, fun object q => ?_⟩
      · simp only [readPrimitive, typed, Datum.readBytes, decoded]
      · simp only [writeScalar, typed, Json.asStr]
        rw [if_pos (show _ ∨ (String.fromUTF8 bytes valid).utf8ByteSize ≤ _ from bound)]
        rfl
  | @wstring units text typed valid bound =>
      refine ⟨.str text, ?_, fun object q => ?_⟩
      · simp only [readPrimitive, typed, Datum.readUnits, valid]
      · simp only [writeScalar, typed, Json.asStr, Utf16.encode_of_decode valid]
        rw [if_pos bound]

end Primitive

/-! ### Fields -/

/-- Memory with no condition on cells and strings. -/
abbrev anyLeaf : Field → Datum → Prop := fun _ _ => True

/-- New elements of arrays have the shape of their type. -/
def Initialises (element : Field → Members → Datum) : Prop :=
  ∀ (f : Field) (nested : Members), f.Scalar anyLeaf nested.Shaped (element f nested)

/-- What a nested message reads as fills a message of its type with the same value. -/
def Returns (nested : Members) (read : List Datum → Except Error (Json × Cbor))
    (write : List Datum → Json → Except Error (List Datum)) : Prop :=
  ∀ parts, nested.Valid parts → ∃ fields cbor, read parts = .ok (.obj fields, cbor) ∧
    fields.map Prod.fst = nested.fieldNames ∧
      ∀ start, nested.Shaped start → write start (.obj fields) = .ok parts

section Fields

variable {f : Field} {nested : Members} {p element : Datum}
  {read : List Datum → Except Error (Json × Cbor)}
  {write : List Datum → Json → Except Error (List Datum)}

theorem scalar_roundtrip (inner : Returns nested read write)
    (value : f.Scalar Field.Valid nested.Valid p) :
    ∃ views, readScalar f read p = .ok views ∧
      (f.typeId = 18 → ∃ fields, views.1 = .obj fields ∧
        fields.map Prod.fst = nested.fieldNames) ∧
      ∀ q, f.Scalar anyLeaf nested.Shaped q → writeScalar f write q views.1 = .ok p := by
  unfold Field.Scalar at value
  split at value
  · next message =>
      obtain ⟨parts, rfl, valid⟩ := value
      obtain ⟨fields, cbor, done, names, filled⟩ := inner parts valid
      refine ⟨(.obj fields, cbor), ?_, fun _ => ⟨fields, rfl, names⟩, fun q shaped => ?_⟩
      · rw [readScalar, if_pos message]
        exact done
      · unfold Field.Scalar at shaped
        rw [if_pos message] at shaped
        obtain ⟨start, rfl, shaped⟩ := shaped
        simp only [writeScalar, message, Datum.parts, filled start shaped]
        rfl
  · next plain =>
      obtain ⟨json, done, filled⟩ := primitive_roundtrip value
      refine ⟨(json, primitiveCbor f p json), ?_, fun message => absurd message plain,
        fun q _ => filled write q⟩
      rw [readScalar, if_neg plain, done]
      rfl

/-- The elements of a byte array are its bytes. -/
theorem binary_values {items : List Datum} {pairs : List (Json × Cbor)}
    (binary : f.isBinary = true)
    (elements : List.Forall₂ (fun p views => readScalar f read p = .ok views) items pairs) :
    ((items.flatMap (pack f.typeId)).map fun byte => unsigned byte.toNat) =
      pairs.map Prod.fst := by
  have typed : f.typeId = 4 ∨ f.typeId = 8 := by
    simpa [Field.isBinary] using binary
  have packed (p : Datum) : pack f.typeId p = [UInt8.ofNat (p.read 8)] := by
    rcases typed with typed | typed <;> rw [typed] <;> rfl
  have byte (p : Datum) : (UInt8.ofNat (p.read 8)).toNat = p.read 8 := by
    rw [UInt8.toNat_ofNat']
    exact Nat.mod_eq_of_lt (p.read_lt 8)
  induction elements with
  | nil => rfl
  | @cons p views items pairs first _ inductionHypothesis =>
      have value : views.1 = unsigned (p.read 8) := by
        have plain : f.typeId ≠ 18 := by omega
        have done : readPrimitive f p = .ok (unsigned (p.read 8)) := by
          rcases typed with typed | typed <;> simp only [readPrimitive, typed]
        rw [readScalar, if_neg plain, done] at first
        cases first
        rfl
      rw [List.flatMap_cons, List.map_append, inductionHypothesis, packed, List.map_cons,
        List.map_cons, byte, value]
      rfl

/-- Elements are filled one by one. -/
theorem fill_elements {items starts : List Datum} {pairs : List (Json × Cbor)}
    (elements : List.Forall₂ (fun p views => ∀ q, f.Scalar anyLeaf nested.Shaped q →
      writeScalar f write q views.1 = .ok p) items pairs)
    (count : starts.length = items.length)
    (shaped : ∀ q ∈ starts, f.Scalar anyLeaf nested.Shaped q) :
    ((starts.zip (pairs.map Prod.fst)).mapM fun entry => writeScalar f write entry.1 entry.2) =
      .ok items := by
  refine mapM_of_forall₂ ?_
  induction elements generalizing starts with
  | nil =>
      obtain rfl := List.eq_nil_of_length_eq_zero count
      exact .nil
  | cons first _ inductionHypothesis =>
      cases starts with
      | nil => cases count
      | cons q starts =>
          rw [List.forall_mem_cons] at shaped
          rw [List.map_cons, List.zip_cons_cons]
          exact .cons (first q shaped.1) (inductionHypothesis (Nat.succ.inj count) shaped.2)

/-- An array gets as many elements as it is filled with. -/
theorem arrayItems_ok {q : Datum} {count : Nat} (sized : f.Sized count)
    (array : f.isArray = true) (fresh : f.Scalar anyLeaf nested.Shaped element)
    (shaped : f.Value anyLeaf nested.Shaped q) :
    ∃ starts, arrayItems f element q count = .ok starts ∧ starts.length = count ∧
      ∀ start ∈ starts, f.Scalar anyLeaf nested.Shaped start := by
  unfold Field.Value at shaped
  rw [if_pos array] at shaped
  obtain ⟨items, rfl, sizedItems, shaped⟩ := shaped
  unfold Field.Sized at sized sizedItems
  unfold arrayItems
  by_cases sequence : f.isSequence = true
  · rw [if_pos sequence] at sized
    have unfixed : ¬ (0 < f.arraySize ∧ f.isUpperBound = false) := by
      rintro ⟨positive, exact⟩
      simp [Field.isSequence, exact, positive.ne'] at sequence
    refine ⟨List.replicate count element, ?_, List.length_replicate, fun start member => ?_⟩
    · rw [if_neg unfixed, if_pos sized]
    · rw [List.eq_of_mem_replicate member]
      exact fresh
  · rw [if_neg sequence] at sized sizedItems
    have fixed : 0 < f.arraySize ∧ f.isUpperBound = false := by
      simp only [Field.isSequence, Bool.or_eq_true, decide_eq_true_eq, not_or,
        Bool.not_eq_true] at sequence
      exact ⟨Nat.pos_of_ne_zero sequence.1, sequence.2⟩
    refine ⟨items, ?_, sizedItems.trans sized.symm, shaped⟩
    rw [if_pos fixed, if_pos sized]
    rfl

theorem field_roundtrip (faithful : codec.CarriesBytes) (inner : Returns nested read write)
    (fresh : f.Scalar anyLeaf nested.Shaped element)
    (value : f.Value Field.Valid nested.Valid p) :
    ∃ views, readField codec f read p = .ok views ∧
      (f.isArray = false → f.typeId = 18 → ∃ fields, views.1 = .obj fields ∧
        fields.map Prod.fst = nested.fieldNames) ∧
      ∀ q, f.Value anyLeaf nested.Shaped q →
        writeField codec f element write q views.1 = .ok p := by
  unfold Field.Value at value
  split at value
  · next array =>
      obtain ⟨items, rfl, sized, valid⟩ := value
      obtain ⟨pairs, mapped, filled⟩ := mapM_exists fun item member =>
        (scalar_roundtrip inner (valid item member)).imp fun views spec => ⟨spec.1, spec.2.2⟩
      have elements := mapM_forall₂ mapped
      have count : (pairs.map Prod.fst).length = items.length := by
        rw [List.length_map, elements.length_eq]
      -- the array is filled from the values its elements read as
      have written {json : Json} (values : arrayValues codec f json = .ok (pairs.map Prod.fst))
          (q : Datum) (shaped : f.Value anyLeaf nested.Shaped q) :
          writeField codec f element write q json = .ok (.array items) := by
        obtain ⟨starts, made, length, shapes⟩ :=
          arrayItems_ok (count ▸ sized) array fresh shaped
        rw [writeField, if_pos array, values]
        show (do
          let items ← arrayItems f element q (pairs.map Prod.fst).length
          let filled ← (items.zip (pairs.map Prod.fst)).mapM fun entry : Datum × Json =>
            writeScalar f write entry.1 entry.2
          return Datum.array filled) = _
        rw [made]
        show (do
          let filled ← (starts.zip (pairs.map Prod.fst)).mapM fun entry : Datum × Json =>
            writeScalar f write entry.1 entry.2
          return Datum.array filled) = _
        rw [fill_elements filled (length.trans count) shapes]
        rfl
      rw [readField, if_pos array]
      simp only [Datum.items, mapped]
      refine ⟨_, rfl, fun scalar => absurd (array.symm.trans scalar) (by decide), ?_⟩
      by_cases binary : f.isBinary = true
      · simp only [if_pos binary]
        refine written ?_
        simp only [arrayValues, Json.asStr, if_pos binary, faithful (items.flatMap (pack f.typeId))]
        exact congrArg Except.ok (binary_values binary elements)
      · simp only [if_neg binary]
        exact written rfl
  · next scalar =>
      obtain ⟨views, done, names, filled⟩ := scalar_roundtrip inner value
      refine ⟨views, by rw [readField, if_neg scalar]; exact done, fun _ => names,
        fun q shaped => ?_⟩
      unfold Field.Value at shaped
      rw [if_neg scalar] at shaped
      rw [writeField, if_neg scalar]
      exact filled q shaped

end Fields

/-! ### Messages -/

section Messages

variable {element : Field → Members → Datum} {now : Now}

/-- The lookup of a listed field whose key is listed once. -/
theorem lookup_of_mem {fields : Object} {field : String × Json}
    (distinct : (fields.map Prod.fst).Nodup) (listed : field ∈ fields) :
    fields.lookup field.1 = some field.2 := by
  induction fields with
  | nil => cases listed
  | cons head rest inductionHypothesis =>
      obtain ⟨key, value⟩ := head
      rw [List.map_cons, List.nodup_cons] at distinct
      rcases List.mem_cons.mp listed with rfl | listed
      · rw [List.lookup_cons, beq_self_eq_true]
      · have other : field.1 ≠ key := fun same =>
          distinct.1 (List.mem_map.mpr ⟨field, listed, same⟩)
        rw [List.lookup_cons, beq_false_of_ne other]
        exact inductionHypothesis distinct.2 listed

theorem removeField_none {fields : Object} {key : String}
    (missing : key ∉ fields.map Prod.fst) : removeField fields key = none := by
  have none : fields.findIdx? (fun field => decide (field.1 = key)) = none := by
    rw [List.findIdx?_eq_none_iff]
    intro field member
    exact decide_eq_false fun same => missing (same ▸ List.mem_map_of_mem member)
  rw [removeField, none]

/-- An object with the fields of a type is filled in as it is. -/
theorem fieldValues_obj {m : Members} {fields : Object} (standard : m.Standard)
    (names : fields.map Prod.fst = m.fieldNames) :
    fieldValues m (.obj fields) now = .ok fields := by
  have kept (time : m.typeName = "builtin_interfaces/msg/Time") :
      renameField (renameField fields "secs" "sec") "nsecs" "nanosec" = fields := by
    have named := names.trans (standard.time time)
    have first : removeField fields "secs" = none := removeField_none (by rw [named]; decide)
    have second : removeField fields "nsecs" = none := removeField_none (by rw [named]; decide)
    simp only [renameField, first, second]
  have text : ¬ (m.typeName = "builtin_interfaces/msg/Time" ∧
      (Json.obj fields).asStr = some "now") := fun both => by cases both.2
  simp only [fieldValues, if_neg text]
  show (if m.typeName = "builtin_interfaces/msg/Time" then
    pure (renameField (renameField fields "secs" "sec") "nsecs" "nanosec") else pure fields) = _
  split
  · next time => rw [kept time]; rfl
  · rfl

/-- A header that has its stamp is filled in as it is. -/
theorem fieldValue_ok {f : Field} {nested : Members} {values : Object} {json : Json} {root : Bool}
    (standard : nested.Standard) (found : values.lookup f.name = some json)
    (message : f.isArray = false → f.typeId = 18 → ∃ fields, json = .obj fields ∧
      fields.map Prod.fst = nested.fieldNames) :
    fieldValue f nested values now root = .ok (some json) := by
  unfold fieldValue
  split
  · next header =>
      simp only [Field.isHeader, Bool.and_eq_true, decide_eq_true_eq, Bool.not_eq_true'] at header
      obtain ⟨⟨⟨⟨-, -⟩, scalar⟩, typed⟩, type⟩ := header
      obtain ⟨fields, rfl, names⟩ := message scalar typed
      have stamped : (fields.lookup "stamp").isSome = true := by
        have member : "stamp" ∈ fields.map Prod.fst := by
          rw [names, standard.header type]
          exact List.mem_cons_self
        obtain ⟨field, listed, named⟩ := List.mem_map.mp member
        exact List.lookup_isSome_iff.mpr ⟨field, listed, by simp [named]⟩
      have kept : stampHeader (some (.obj fields)) now = .ok (.obj fields) := if_pos stamped
      rw [found, kept]
      rfl
  · rw [found]

end Messages

section Nested

variable {element : Field → Members → Datum} {now : Now}

mutual

theorem object_roundtrip (faithful : codec.CarriesBytes) (initialised : Initialises element) :
    ∀ (m : Members) (data : List Datum), m.All Members.WellFormed →
    m.Valid data → ∃ fields cbor, readObject codec m data = .ok (.obj fields, cbor) ∧
      fields.map Prod.fst = m.fieldNames ∧ ∀ root start, m.Shaped start →
        writeObject codec element now root m start (.obj fields) = .ok data
  | .mk messageNamespace messageName members, data, formed, valid => by
      obtain ⟨⟨distinct, standard⟩, nested⟩ := formed
      obtain ⟨fields, cbor, read, names, filled⟩ :=
        fields_roundtrip faithful initialised members data [] nested valid distinct
      refine ⟨fields, .map cbor, ?_, names, fun root start shaped => ?_⟩
      · rw [readObject, read]
        rfl
      · have known : (fields.find? fun entry =>
            !members.any fun member => member.1.name = entry.1) = none := by
          refine List.find?_eq_none.mpr fun entry listed => ?_
          have named : entry.1 ∈ members.map fun member => member.1.name :=
            names ▸ List.mem_map_of_mem listed
          obtain ⟨member, there, same⟩ := List.mem_map.mp named
          have found : (members.any fun member => decide (member.1.name = entry.1)) = true :=
            List.any_eq_true.mpr ⟨member, there, decide_eq_true same⟩
          rw [found]
          decide
        rw [writeObject, fieldValues_obj standard names]
        simp only [bind, Except.bind, known]
        refine filled root _ start fields shaped fun field listed => ?_
        exact lookup_of_mem (by rw [names]; exact distinct) listed

theorem fields_roundtrip (faithful : codec.CarriesBytes) (initialised : Initialises element) :
    ∀ (members : List (Field × Members)) (data : List Datum)
    (done : Object), AllFields Members.WellFormed members →
    FieldValues Field.Valid members data →
    (done.map Prod.fst ++ members.map fun member => member.1.name).Nodup →
    ∃ fields cbor, readFields codec members data done = .ok (done ++ fields, cbor) ∧
      (fields.map Prod.fst = members.map fun member => member.1.name) ∧
      ∀ root typ start (values : Object), FieldValues anyLeaf members start →
        (∀ field ∈ fields, values.lookup field.1 = some field.2) →
          writeFields codec element now root typ members start values = .ok data
  | [], data, done, _, valid, _ => by
      cases data with
      | nil =>
          refine ⟨[], [], by rw [List.append_nil]; rfl, rfl,
            fun root typ start values shaped _ => ?_⟩
          cases start with
          | nil => rfl
          | cons => exact shaped.elim
      | cons => exact valid.elim
  | (f, nested) :: rest, data, done, formed, valid, distinct => by
      cases data with
      | nil => exact valid.elim
      | cons p data =>
          have inner : Returns nested (fun parts => readObject codec nested parts)
              (fun parts v => writeObject codec element now false nested parts v) := by
            intro parts held
            obtain ⟨fields, cbor, read, names, filled⟩ :=
              object_roundtrip faithful initialised nested parts formed.1 held
            exact ⟨fields, cbor, read, names, fun start shaped => filled false start shaped⟩
          obtain ⟨views, read, message, filled⟩ :=
            field_roundtrip faithful inner (initialised f nested) valid.1
          have fresh : f.name ∉ done.map Prod.fst := fun member =>
            (List.nodup_append.mp distinct).2.2 _ member _ List.mem_cons_self rfl
          obtain ⟨fields, cbor, others, names, rest⟩ :=
            fields_roundtrip faithful initialised rest data (done ++ [(f.name, views.1)]) formed.2
              valid.2 (by rw [List.map_append, List.append_assoc]; exact distinct)
          refine ⟨(f.name, views.1) :: fields, (.text f.name, views.2) :: cbor, ?_, ?_,
            fun root typ start values shaped found => ?_⟩
          · rw [readFields, read]
            simp only [bind, Except.bind]
            rw [Object.set_new _ fresh, others, List.append_assoc]
            rfl
          · rw [List.map_cons, names]
            rfl
          · cases start with
            | nil => exact shaped.elim
            | cons q start =>
                rw [List.forall_mem_cons] at found
                rw [writeFields, fieldValue_ok formed.1.head.2 found.1 message]
                simp only [bind, Except.bind]
                rw [filled q shaped.1, rest root typ start values shaped.2 found.2]
                rfl

end

end Nested

/-! ### Survival -/

/-- A codec with Base64. -/
def Codec.base64Sample : Codec :=
  { Codec.sample with
    base64 := Base64.encode
    fromBase64 := fun text =>
      match Base64.decode text with
      | some bytes => .ok bytes
      | none => .error ⟨"Invalid symbol"⟩ }

theorem Codec.base64Sample_carriesBytes : Codec.base64Sample.CarriesBytes := fun bytes => by
  show (match Base64.decode (Base64.encode bytes) with
    | some bytes => .ok bytes
    | none => .error ⟨"Invalid symbol"⟩) = Except.ok (ε := Error) bytes
  rw [Base64.decode_encode]

/-- A type whose messages need no nested type. -/
def noMembers : Members := .mk "" "" []

def timeType : Members :=
  .mk "builtin_interfaces__msg" "Time"
    [({ name := "sec", typeId := 13 }, noMembers), ({ name := "nanosec", typeId := 12 }, noMembers)]

def headerType : Members :=
  .mk "std_msgs__msg" "Header"
    [({ name := "stamp", typeId := 18 }, timeType), ({ name := "frame_id", typeId := 16 }, noMembers)]

/-- A message with a header, a byte array, both 64-bit integers, and an array of times. -/
def recordType : Members :=
  .mk "recorder__msg" "Record"
    [({ name := "header", typeId := 18 }, headerType),
      ({ name := "data", typeId := 8, isArray := true }, noMembers),
      ({ name := "least", typeId := 15 }, noMembers), ({ name := "most", typeId := 14 }, noMembers),
      ({ name := "times", typeId := 18, isArray := true }, timeType)]

def sampleRecord : List Datum :=
  [.message [.message [.cell 7, .cell 8], .string "map".toUTF8],
    .array [.cell 0, .cell 255], .cell (2 ^ 63), .cell (2 ^ 64 - 1),
    .array [.message [.cell (2 ^ 32 - 1), .cell 5], .message [.cell 1, .cell 2]]]

/-- A message of a supported type can be read, and what it reads as fills an initialised
message of the type, at any time, with the same value. -/
theorem fill_values (faithful : codec.CarriesBytes) {element : Field → Members → Datum}
    (initialised : Initialises element) {m : Members} {data start : List Datum}
    (formed : m.All Members.WellFormed) (valid : m.Valid data) (shaped : m.Shaped start)
    (now : Now) :
    ∃ json cbor, values codec m data = .ok (json, cbor) ∧
      fill codec element m start json now = .ok data := by
  obtain ⟨fields, cbor, read, -, filled⟩ :=
    object_roundtrip faithful initialised m data formed valid
  exact ⟨.obj fields, cbor, read, filled true start shaped⟩

theorem fill_values_record :
    ∃ json cbor, values Codec.base64Sample recordType sampleRecord = .ok (json, cbor) ∧
      fill Codec.base64Sample (fun f nested => f.zero nested.initial) recordType
        recordType.initial json ⟨1, 2⟩ = .ok sampleRecord := by
  have named (m : Members) (distinct : m.Distinct)
      (time : m.typeName = "builtin_interfaces/msg/Time" → m.fieldNames = ["sec", "nanosec"])
      (header : m.typeName = "std_msgs/msg/Header" → m.fieldNames = ["stamp", "frame_id"]) :
      m.WellFormed := ⟨distinct, time, header⟩
  have none : noMembers.WellFormed := by
    refine named _ ?_ ?_ ?_ <;> decide +kernel
  have time : timeType.WellFormed := by
    refine named _ ?_ ?_ ?_ <;> decide +kernel
  have header : headerType.WellFormed := by
    refine named _ ?_ ?_ ?_ <;> decide +kernel
  have whole : recordType.WellFormed := by
    refine named _ ?_ ?_ ?_ <;> decide +kernel
  have noneAll : noMembers.All Members.WellFormed := ⟨none, trivial⟩
  have timeAll : timeType.All Members.WellFormed := ⟨time, noneAll, noneAll, trivial⟩
  have headerAll : headerType.All Members.WellFormed := ⟨header, timeAll, noneAll, trivial⟩
  have formed : recordType.All Members.WellFormed :=
    ⟨whole, headerAll, noneAll, noneAll, noneAll, timeAll, trivial⟩
  have times (sec nanosec : Nat) (first : sec < 2 ^ 32) (second : nanosec < 2 ^ 32) :
      timeType.Valid [.cell sec, .cell nanosec] :=
    ⟨.integer rfl first, .integer rfl second, trivial⟩
  have heading : headerType.Valid
      [.message [.cell 7, .cell 8], .string "map".toUTF8] :=
    ⟨⟨_, rfl, times 7 8 (by decide) (by decide)⟩, .string rfl "map".isValidUTF8 (.inl rfl), trivial⟩
  have valid : recordType.Valid sampleRecord := by
    refine ⟨⟨_, rfl, heading⟩, ⟨_, rfl, .inl rfl, ?_⟩, .integer rfl (by decide),
      .integer rfl (by decide), ⟨_, rfl, .inl rfl, ?_⟩, trivial⟩
    · rintro item (_ | ⟨_, _ | ⟨_, none⟩⟩)
      · exact .integer rfl (by decide)
      · exact .integer rfl (by decide)
      · cases none
    · rintro item (_ | ⟨_, _ | ⟨_, none⟩⟩)
      · exact ⟨_, rfl, times _ _ (by decide) (by decide)⟩
      · exact ⟨_, rfl, times _ _ (by decide) (by decide)⟩
      · cases none
  exact fill_values Codec.base64Sample_carriesBytes
    (fun f nested => f.zero_scalar nested.initial_shaped) formed valid recordType.initial_shaped
    ⟨1, 2⟩

end Rosbridge.Ros
