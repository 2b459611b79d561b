import Mathlib.Data.List.Basic

/-!
Base64 with the standard alphabet and padding.

Owns: the encoder and the decoder, and that the decoder gives back what was encoded.
-/

set_option autoImplicit false

namespace Rosbridge

namespace Base64

def alphabet : List Char :=
  "ABCDEFGHIJKLMNOPQRSTUVWXYZabcdefghijklmnopqrstuvwxyz0123456789+/".toList

/-- The character of a six-bit value. -/
def digit (value : Nat) : Char := alphabet.getD value '='

def value (c : Char) : Option Nat := alphabet.idxOf? c

theorem value_digit {sextet : Nat} (bound : sextet < 64) : value (digit sextet) = some sextet := by
  have table : ∀ sextet < 64, value (digit sextet) = some sextet := by decide +kernel
  exact table sextet bound

theorem digit_ne_padding {sextet : Nat} (bound : sextet < 64) : digit sextet ≠ '=' := by
  have table : ∀ sextet < 64, digit sextet ≠ '=' := by decide +kernel
  exact table sextet bound

def encodeChars : List UInt8 → List Char
  | [] => []
  | [a] => [digit (a.toNat / 4), digit (a.toNat % 4 * 16), '=', '=']
  | [a, b] =>
      [digit (a.toNat / 4), digit (a.toNat % 4 * 16 + b.toNat / 16),
        digit (b.toNat % 16 * 4), '=']
  | a :: b :: c :: rest =>
      digit (a.toNat / 4) :: digit (a.toNat % 4 * 16 + b.toNat / 16) ::
        digit (b.toNat % 16 * 4 + c.toNat / 64) :: digit (c.toNat % 64) :: encodeChars rest

def decodeChars : List Char → Option (List UInt8)
  | [] => some []
  | w :: x :: y :: z :: rest => do
      let first ← value w
      let second ← value x
      let a := UInt8.ofNat (first * 4 + second / 16)
      if y = '=' ∧ z = '=' ∧ rest = [] then return [a]
      let third ← value y
      let b := UInt8.ofNat (second % 16 * 16 + third / 4)
      if z = '=' ∧ rest = [] then return [a, b]
      let fourth ← value z
      let others ← decodeChars rest
      return a :: b :: UInt8.ofNat (third % 4 * 64 + fourth) :: others
  | _ => none

def encode (bytes : List UInt8) : String := String.ofList (encodeChars bytes)

def decode (text : String) : Option (List UInt8) := decodeChars text.toList

theorem byte_eq {byte : UInt8} {value : Nat} (same : value = byte.toNat) :
    UInt8.ofNat value = byte := by
  rw [same, UInt8.ofNat_toNat]

theorem decodeChars_encodeChars (bytes : List UInt8) :
    decodeChars (encodeChars bytes) = some bytes := by
  induction bytes using encodeChars.induct with
  | case1 => rfl
  | case2 a =>
      have bound := a.toNat_lt
      have first : a.toNat / 4 * 4 + a.toNat % 4 * 16 / 16 = a.toNat := by omega
      rw [encodeChars, decodeChars, value_digit (by omega), value_digit (by omega)]
      simp only [bind, Option.bind]
      rw [if_pos ⟨trivial, trivial, trivial⟩, byte_eq first]
      rfl
  | case3 a b =>
      have bounds : a.toNat < 256 ∧ b.toNat < 256 := ⟨a.toNat_lt, b.toNat_lt⟩
      have first : a.toNat / 4 * 4 + (a.toNat % 4 * 16 + b.toNat / 16) / 16 = a.toNat := by omega
      have second : (a.toNat % 4 * 16 + b.toNat / 16) % 16 * 16 + b.toNat % 16 * 4 / 4 =
          b.toNat := by
        omega
      have marked : ¬ (digit (b.toNat % 16 * 4) = '=' ∧ True ∧ True) :=
        fun both => digit_ne_padding (by omega) both.1
      rw [encodeChars, decodeChars, value_digit (by omega), value_digit (by omega),
        value_digit (by omega)]
      simp only [bind, Option.bind]
      rw [if_neg marked, if_pos ⟨trivial, trivial⟩, byte_eq first, byte_eq second]
      rfl
  | case4 a b c rest inductionHypothesis =>
      have bounds : a.toNat < 256 ∧ b.toNat < 256 ∧ c.toNat < 256 :=
        ⟨a.toNat_lt, b.toNat_lt, c.toNat_lt⟩
      have first : a.toNat / 4 * 4 + (a.toNat % 4 * 16 + b.toNat / 16) / 16 = a.toNat := by omega
      have second : (a.toNat % 4 * 16 + b.toNat / 16) % 16 * 16 +
          (b.toNat % 16 * 4 + c.toNat / 64) / 4 = b.toNat := by
        omega
      have third : (b.toNat % 16 * 4 + c.toNat / 64) % 4 * 64 + c.toNat % 64 = c.toNat := by omega
      have last : digit (c.toNat % 64) ≠ '=' := digit_ne_padding (by omega)
      rw [encodeChars, decodeChars, value_digit (by omega), value_digit (by omega),
        value_digit (by omega), value_digit (by omega)]
      simp only [bind, Option.bind, inductionHypothesis]
      rw [if_neg fun marked => last marked.2.1, if_neg fun marked => last marked.1, byte_eq first,
        byte_eq second, byte_eq third]
      rfl

theorem decode_encode (bytes : List UInt8) : decode (encode bytes) = some bytes := by
  rw [decode, encode, String.toList_ofList, decodeChars_encodeChars]

end Base64

end Rosbridge
