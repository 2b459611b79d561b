import Mathlib.Data.List.Basic

/-!
Byte positions in UTF-8 text.

Owns: the test for a character boundary, the search for one, slices, and the longest prefix
of a text within a number of bytes, which a search and a slice find.
-/

set_option autoImplicit false

namespace Rosbridge

namespace Utf8

/-- `(byte as i8) >= -0x40`: the byte does not continue a character. -/
def isBoundaryByte (byte : UInt8) : Bool := byte < 128 || 192 ≤ byte

/-- `text.is_char_boundary(index)`. -/
def isCharBoundary (text : String) (index : Nat) : Bool :=
  if index = 0 then true
  else
    match text.toUTF8[index]? with
    | some byte => isBoundaryByte byte
    | none => index = text.utf8ByteSize

/-- Step back to a character boundary. A step back from zero overflows. -/
def floorBoundary (text : String) : Nat → Option Nat
  | 0 => if isCharBoundary text 0 then some 0 else none
  | index + 1 =>
      if isCharBoundary text (index + 1) then some (index + 1) else floorBoundary text index

/-- `text[..stop]`, which panics within a character. -/
def sliceTo (text : String) (stop : Nat) : Option String :=
  if isCharBoundary text stop then String.fromUTF8? (text.toUTF8.extract 0 stop) else none

/-! ### Boundaries -/

/-- No byte of a character starts with five bits. -/
theorem encodeChar_lt (c : Char) : ∀ byte ∈ String.utf8EncodeChar c, byte < 248 := by
  have small (number : Nat) (bound : number < 248) : UInt8.ofNat number < 248 := by
    rw [UInt8.lt_iff_toNat_lt, UInt8.toNat_ofNat']
    rw [Nat.mod_eq_of_lt (by omega)]
    exact bound
  unfold String.utf8EncodeChar
  intro byte member
  dsimp only at member
  split at member
  · rw [List.mem_singleton] at member
    subst member
    exact small _ (by omega)
  · split at member
    · simp only [List.mem_cons, List.not_mem_nil, or_false] at member
      rcases member with rfl | rfl
      · exact small _ (by omega)
      · exact small _ (by omega)
    · split at member
      · simp only [List.mem_cons, List.not_mem_nil, or_false] at member
        rcases member with rfl | rfl | rfl
        · exact small _ (by omega)
        · exact small _ (by omega)
        · exact small _ (by omega)
      · simp only [List.mem_cons, List.not_mem_nil, or_false] at member
        rcases member with rfl | rfl | rfl | rfl
        · exact small _ (by omega)
        · exact small _ (by omega)
        · exact small _ (by omega)
        · exact small _ (by omega)

/-- The bytes of a text are those of its characters. -/
theorem byte_lt {text : String} {index : Nat} (inside : index < text.toByteArray.size) :
    text.toByteArray[index] < 248 := by
  obtain ⟨characters, same⟩ := text.isValidUTF8
  have member : text.toByteArray[index] ∈ characters.flatMap String.utf8EncodeChar := by
    have listed : text.toByteArray.data.toList = characters.flatMap String.utf8EncodeChar := by
      rw [same, List.utf8Encode, List.data_toByteArray]
    rw [← listed]
    exact Array.mem_toList_iff.mpr (Array.getElem_mem inside)
  obtain ⟨c, -, inside⟩ := List.mem_flatMap.mp member
  exact encodeChar_lt c _ inside

/-- Below five leading bits, the bytes that continue no character are those that start one. -/
theorem isBoundaryByte_iff : ∀ byte : UInt8, byte < 248 →
    (isBoundaryByte byte = true ↔ byte.IsUTF8FirstByte) := by
  have all : ∀ number < 256, UInt8.ofNat number < 248 →
      (isBoundaryByte (UInt8.ofNat number) = true ↔ (UInt8.ofNat number).IsUTF8FirstByte) := by
    decide +kernel
  intro byte small
  have same : UInt8.ofNat byte.toNat = byte := UInt8.ofNat_toNat
  have found := all byte.toNat byte.toNat_lt
  rw [same] at found
  exact found small

/-- The test finds the ends of the prefixes. -/
theorem isCharBoundary_iff {text : String} {index : Nat} :
    isCharBoundary text index = true ↔ (⟨index⟩ : String.Pos.Raw).IsValid text := by
  have size : text.toByteArray.size = text.utf8ByteSize := text.size_toByteArray
  unfold isCharBoundary
  by_cases zero : index = 0
  · subst zero
    exact iff_of_true rfl String.Pos.Raw.isValid_zero
  rw [if_neg zero, String.Pos.Raw.isValid_iff_isUTF8FirstByte]
  by_cases inside : index < text.toByteArray.size
  · have found : text.toUTF8[index]? = some text.toByteArray[index] :=
      getElem?_pos text.toByteArray index inside
    have before : (⟨index⟩ : String.Pos.Raw) < text.rawEndPos := by
      rw [String.Pos.Raw.lt_iff, String.byteIdx_rawEndPos, ← size]
      exact inside
    have other : (⟨index⟩ : String.Pos.Raw) ≠ text.rawEndPos := by
      intro same
      rw [same] at before
      exact absurd before (by simp [String.Pos.Raw.lt_iff])
    rw [found]
    dsimp only
    rw [isBoundaryByte_iff _ (byte_lt inside)]
    constructor
    · exact fun first => .inr ⟨before, first⟩
    · rintro (same | ⟨_, first⟩)
      · exact absurd same other
      · exact first
  · have none : text.toUTF8[index]? = none := getElem?_neg text.toByteArray index inside
    rw [none]
    dsimp only
    rw [decide_eq_true_eq, String.Pos.Raw.ext_iff]
    constructor
    · exact fun same => .inl same
    · rintro (same | ⟨before, -⟩)
      · exact same
      · rw [String.Pos.Raw.lt_iff] at before
        rw [String.byteIdx_rawEndPos, ← size] at before
        exact absurd before inside

theorem isCharBoundary_append {text : String} {index : Nat} :
    isCharBoundary text index = true ↔
      ∃ first rest, text = first ++ rest ∧ index = first.utf8ByteSize := by
  rw [isCharBoundary_iff, String.Pos.Raw.isValid_iff_exists_append]
  simp only [String.Pos.Raw.ext_iff, String.byteIdx_rawEndPos]

theorem isCharBoundary_zero (text : String) : isCharBoundary text 0 = true := rfl

/-- The search ends at the last boundary. -/
theorem floorBoundary_spec (text : String) : ∀ limit, ∃ stop, floorBoundary text limit = some stop ∧
    stop ≤ limit ∧ isCharBoundary text stop = true ∧
      ∀ other ≤ limit, isCharBoundary text other = true → other ≤ stop
  | 0 => ⟨0, rfl, Nat.le_refl _, rfl, fun _ small _ => small⟩
  | limit + 1 => by
      unfold floorBoundary
      by_cases boundary : isCharBoundary text (limit + 1) = true
      · rw [if_pos boundary]
        exact ⟨limit + 1, rfl, Nat.le_refl _, boundary, fun _ small _ => small⟩
      · obtain ⟨stop, found, small, atBoundary, last⟩ := floorBoundary_spec text limit
        rw [if_neg boundary]
        refine ⟨stop, found, by omega, atBoundary, fun other near atOther => last other ?_ atOther⟩
        have different : other ≠ limit + 1 := fun same => boundary (same ▸ atOther)
        omega

/-- A slice to the end of a prefix is the prefix. -/
theorem sliceTo_append (first rest : String) :
    sliceTo (first ++ rest) first.utf8ByteSize = some first := by
  have boundary : isCharBoundary (first ++ rest) first.utf8ByteSize = true :=
    isCharBoundary_append.mpr ⟨first, rest, rfl, rfl⟩
  have bytes : (first ++ rest).toUTF8.extract 0 first.utf8ByteSize = first.toByteArray := by
    show (first ++ rest).toByteArray.extract 0 first.utf8ByteSize = _
    rw [String.toByteArray_append, ByteArray.extract_append_eq_left first.size_toByteArray.symm]
  unfold sliceTo
  rw [if_pos boundary, bytes]
  exact dif_pos first.isValidUTF8

/-! ### Prefixes -/

/-- The longest prefix within a number of bytes. -/
structure Longest (limit : Nat) (whole text : String) : Prop where
  starts : ∃ rest, whole = text ++ rest
  fits : text.utf8ByteSize ≤ limit
  longest : ∀ other rest, whole = other ++ rest → other.utf8ByteSize ≤ limit →
    other.utf8ByteSize ≤ text.utf8ByteSize

/-- Of two prefixes of a text the longer one starts with the shorter one. -/
theorem split_of_le {first rest other last : String} (same : first ++ rest = other ++ last)
    (shorter : first.utf8ByteSize ≤ other.utf8ByteSize) : ∃ middle, other = first ++ middle := by
  have characters := congrArg String.toList same
  rw [String.toList_append, String.toList_append, List.append_eq_append_iff] at characters
  rcases characters with ⟨middle, longer, -⟩ | ⟨middle, longer, -⟩
  · exact ⟨String.ofList middle, String.toList_inj.mp (by simp [longer])⟩
  · have parts : first = other ++ String.ofList middle := String.toList_inj.mp (by simp [longer])
    have sizes := congrArg String.utf8ByteSize parts
    rw [String.utf8ByteSize_append] at sizes
    have empty : String.ofList middle = "" := by
      rw [← String.utf8ByteSize_eq_zero_iff]
      omega
    rw [empty, String.append_empty] at parts
    exact ⟨"", by rw [String.append_empty, parts]⟩

namespace Longest

variable {limit : Nat} {whole text : String}

theorem unique {other : String} (first : Longest limit whole text)
    (second : Longest limit whole other) : text = other := by
  obtain ⟨rest, split⟩ := first.starts
  obtain ⟨last, split'⟩ := second.starts
  have small := second.longest text rest split first.fits
  have large := first.longest other last split' second.fits
  obtain ⟨middle, longer⟩ := split_of_le (split.symm.trans split') small
  have sizes := congrArg String.utf8ByteSize longer
  rw [String.utf8ByteSize_append] at sizes
  have empty : middle = "" := by
    rw [← String.utf8ByteSize_eq_zero_iff]
    omega
  rw [longer, empty, String.append_empty]

/-- A text that fits is its own longest prefix. -/
theorem whole_of_fits (fits : whole.utf8ByteSize ≤ limit) : Longest limit whole whole where
  starts := ⟨"", by rw [String.append_empty]⟩
  fits := fits
  longest other rest split _ := by
    rw [split, String.utf8ByteSize_append]
    omega

theorem eq_of_fits (longest : Longest limit whole text) (fits : whole.utf8ByteSize ≤ limit) :
    text = whole :=
  longest.unique (whole_of_fits fits)

/-- A prefix with as many bytes is the whole. -/
theorem eq_of_size (longest : Longest limit whole text)
    (size : whole.utf8ByteSize ≤ text.utf8ByteSize) : text = whole := by
  have fits := longest.fits
  exact longest.eq_of_fits (by omega)

/-- What follows a text that is too long does not count. -/
theorem append (longest : Longest limit whole text) (long : limit < whole.utf8ByteSize)
    (later : String) : Longest limit (whole ++ later) text where
  starts := by
    obtain ⟨rest, split⟩ := longest.starts
    exact ⟨rest ++ later, by rw [split, String.append_assoc]⟩
  fits := longest.fits
  longest other rest split fits := by
    obtain ⟨middle, within⟩ := split_of_le split.symm (by omega)
    exact longest.longest other middle within fits

/-- What precedes a text takes its bytes. -/
theorem prepend {room : Nat} (longest : Longest room whole text) (done : String)
    (space : done.utf8ByteSize + room = limit) : Longest limit (done ++ whole) (done ++ text) where
  starts := by
    obtain ⟨rest, split⟩ := longest.starts
    exact ⟨rest, by rw [split, String.append_assoc]⟩
  fits := by
    have fits := longest.fits
    rw [String.utf8ByteSize_append]
    omega
  longest other rest split fits := by
    rw [String.utf8ByteSize_append]
    by_cases shorter : done.utf8ByteSize ≤ other.utf8ByteSize
    · obtain ⟨middle, longer⟩ := split_of_le split shorter
      rw [longer, String.append_assoc, String.append_right_inj] at split
      rw [longer, String.utf8ByteSize_append] at fits ⊢
      have most := longest.longest middle rest split (by omega)
      omega
    · omega

end Longest

/-- The search and the slice find the longest prefix. -/
theorem longest_slice (text : String) (limit : Nat) : ∃ first,
    floorBoundary text (min text.utf8ByteSize limit) = some first.utf8ByteSize ∧
      sliceTo text first.utf8ByteSize = some first ∧ Longest limit text first := by
  obtain ⟨stop, found, small, boundary, last⟩ :=
    floorBoundary_spec text (min text.utf8ByteSize limit)
  obtain ⟨first, rest, split, rfl⟩ := isCharBoundary_append.mp boundary
  refine ⟨first, found, ?_, ⟨rest, split⟩, by omega, fun other after split' fits => ?_⟩
  · rw [split]
    exact sliceTo_append first rest
  · refine last _ ?_ (isCharBoundary_append.mpr ⟨other, after, split', rfl⟩)
    have sizes := congrArg String.utf8ByteSize split'
    rw [String.utf8ByteSize_append] at sizes
    omega

/-- The second character takes three bytes. -/
example : floorBoundary "a界" 3 = some 1 := by decide +kernel

end Utf8

end Rosbridge
