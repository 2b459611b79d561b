import Mathlib.Data.List.Basic

/-!
UTF-16, as the strings of ROS messages carry it.

Owns: the code units of a string, the decoder, and that decoding what it accepts and
encoding it again is the identity.
-/

set_option autoImplicit false

namespace Rosbridge

namespace Utf16

/-- The code units of a character. -/
def encodeChar (c : Char) : List Nat :=
  if c.toNat < 0x10000 then [c.toNat]
  else [0xD800 + (c.toNat - 0x10000) / 0x400, 0xDC00 + (c.toNat - 0x10000) % 0x400]

/-- `encode_utf16`. -/
def encode (text : String) : List Nat := text.toList.flatMap encodeChar

/-- The scalar value of a surrogate pair. -/
def pair (high low : Nat) : Nat := 0x10000 + (high - 0xD800) * 0x400 + (low - 0xDC00)

/-- The characters of code units; a surrogate that stands alone is refused. -/
def decodeChars : List Nat → Option (List Char)
  | [] => some []
  | unit :: rest =>
      if unit < 0xD800 ∨ (0xE000 ≤ unit ∧ unit < 0x10000) then
        (decodeChars rest).map (Char.ofNat unit :: ·)
      else
        match rest with
        | [] => none
        | low :: rest =>
            if 0xD800 ≤ unit ∧ unit < 0xDC00 ∧ 0xDC00 ≤ low ∧ low < 0xE000 then
              (decodeChars rest).map (Char.ofNat (pair unit low) :: ·)
            else none

/-- `String::from_utf16`. -/
def decode (units : List Nat) : Option String := (decodeChars units).map String.ofList

theorem toNat_ofNat {value : Nat} (valid : value.isValidChar) :
    (Char.ofNat value).toNat = value := by
  rw [Char.ofNat, dif_pos valid]
  rfl

/-- A code unit outside the surrogates is its character. -/
theorem encodeChar_single {unit : Nat} (single : unit < 0xD800 ∨ (0xE000 ≤ unit ∧ unit < 0x10000)) :
    encodeChar (Char.ofNat unit) = [unit] := by
  have valid : unit.isValidChar := by
    unfold Nat.isValidChar
    omega
  rw [encodeChar, toNat_ofNat valid, if_pos (by omega)]

/-- A surrogate pair is its character. -/
theorem encodeChar_pair {high low : Nat} (highBounds : 0xD800 ≤ high ∧ high < 0xDC00)
    (lowBounds : 0xDC00 ≤ low ∧ low < 0xE000) :
    encodeChar (Char.ofNat (pair high low)) = [high, low] := by
  have valid : (pair high low).isValidChar := by
    unfold Nat.isValidChar pair
    omega
  have lead : 0xD800 + (pair high low - 0x10000) / 0x400 = high := by
    unfold pair
    omega
  have trail : 0xDC00 + (pair high low - 0x10000) % 0x400 = low := by
    unfold pair
    omega
  have large : ¬ pair high low < 0x10000 := by
    unfold pair
    omega
  rw [encodeChar, toNat_ofNat valid, if_neg large, lead, trail]

theorem encodeChars_decodeChars {units : List Nat} {chars : List Char}
    (accepted : decodeChars units = some chars) : chars.flatMap encodeChar = units := by
  induction units using decodeChars.induct generalizing chars with
  | case1 =>
      cases accepted
      rfl
  | case2 unit rest single inductionHypothesis =>
      rw [decodeChars.eq_def] at accepted
      simp only [if_pos single] at accepted
      obtain ⟨others, read, rfl⟩ := Option.map_eq_some_iff.mp accepted
      rw [List.flatMap_cons, encodeChar_single single, inductionHypothesis read]
      rfl
  | case3 unit surrogate =>
      rw [decodeChars.eq_def] at accepted
      simp only [if_neg surrogate] at accepted
      cases accepted
  | case4 unit surrogate low rest paired inductionHypothesis =>
      rw [decodeChars.eq_def] at accepted
      simp only [if_neg surrogate, if_pos paired] at accepted
      obtain ⟨others, read, rfl⟩ := Option.map_eq_some_iff.mp accepted
      obtain ⟨highLow, highHigh, lowBounds⟩ := paired
      rw [List.flatMap_cons, encodeChar_pair ⟨highLow, highHigh⟩ lowBounds,
        inductionHypothesis read]
      rfl
  | case5 unit surrogate low rest unpaired =>
      rw [decodeChars.eq_def] at accepted
      simp only [if_neg surrogate, if_neg unpaired] at accepted
      cases accepted

/-- Text that was read from code units has these code units. -/
theorem encode_of_decode {units : List Nat} {text : String} (accepted : decode units = some text) :
    encode text = units := by
  obtain ⟨chars, read, rfl⟩ := Option.map_eq_some_iff.mp accepted
  rw [encode, String.toList_ofList, encodeChars_decodeChars read]

end Utf16

end Rosbridge
