import Mathlib.Data.Rat.Floor
import Mathlib.Data.Nat.Log

/-!
The floating-point numbers of the source, as their bits.

Owns: `f64` and `f32`, the number a pattern stands for, the conversions of the source
between the two and from integers, and that an `f32` survives the way to `f64` and back.
-/

set_option autoImplicit false

namespace Rosbridge

/-- An `f64`. -/
structure F64 where
  bits : BitVec 64
deriving DecidableEq

/-- An `f32`. -/
structure F32 where
  bits : BitVec 32
deriving DecidableEq

/-- The nearest natural number to a quotient, ties to even. -/
def roundQuotient (value unit : Nat) : Nat :=
  let quotient := value / unit
  let rest := value % unit
  if 2 * rest > unit ∨ (2 * rest = unit ∧ quotient % 2 = 1) then quotient + 1 else quotient

/-- A multiple of the unit is not rounded. -/
theorem roundQuotient_mul {unit : Nat} (positive : 0 < unit) (value : Nat) :
    roundQuotient (value * unit) unit = value := by
  have quotient : value * unit / unit = value := Nat.mul_div_cancel value positive
  have rest : value * unit % unit = 0 := Nat.mul_mod_left value unit
  simp only [roundQuotient, quotient, rest]
  split <;> omega

theorem roundQuotient_zero (unit : Nat) : roundQuotient 0 unit = 0 := by
  simp [roundQuotient]

/-! ### Double precision -/

namespace F64

/-- Assemble the fields of a pattern. -/
def assemble (sign exponent fraction : Nat) : F64 :=
  ⟨BitVec.ofNat 64 (sign * 2 ^ 63 + exponent * 2 ^ 52 + fraction)⟩

def sign (value : F64) : Nat := value.bits.toNat / 2 ^ 63

def exponent (value : F64) : Nat := value.bits.toNat / 2 ^ 52 % 2 ^ 11

def fraction (value : F64) : Nat := value.bits.toNat % 2 ^ 52

/-- The pattern without its sign, which orders as the absolute values do. -/
def magnitude (value : F64) : Nat := value.bits.toNat % 2 ^ 63

/-- Neither an infinity nor NaN. -/
def isFinite (value : F64) : Bool := value.exponent != 2047

/-- Above zero, if it is not NaN. -/
def isPositive (value : F64) : Bool := value.sign == 0 && value.magnitude != 0

/-- The number a finite pattern stands for. -/
def toRat? (value : F64) : Option ℚ :=
  if value.isFinite then
    let mantissa := if value.exponent = 0 then value.fraction else 2 ^ 52 + value.fraction
    let unsigned := mkRat (mantissa * 2 ^ max value.exponent 1) (2 ^ 1075)
    some (if value.sign = 1 then -unsigned else unsigned)
  else none

/-- The nearest double of an integer, given by its sign and its absolute value. -/
def ofSigned (sign value : Nat) : F64 :=
  if value = 0 then assemble sign 0 0
  else
    let unit := 2 ^ (value.log2 - 52)
    let rounded := roundQuotient value unit * unit
    assemble sign (rounded.log2 + 1023) (rounded * 2 ^ 52 / 2 ^ rounded.log2 - 2 ^ 52)

/-- `as f64` of an integer. -/
def ofInt (value : Int) : F64 := ofSigned (if value < 0 then 1 else 0) value.natAbs

section Fields

variable {negative power rest : Nat}

theorem toNat_assemble (signBound : negative < 2) (exponentBound : power < 2 ^ 11)
    (fractionBound : rest < 2 ^ 52) :
    (assemble negative power rest).bits.toNat = negative * 2 ^ 63 + power * 2 ^ 52 + rest := by
  rw [assemble, BitVec.toNat_ofNat]
  omega

theorem sign_assemble (signBound : negative < 2) (exponentBound : power < 2 ^ 11)
    (fractionBound : rest < 2 ^ 52) : (assemble negative power rest).sign = negative := by
  rw [sign, toNat_assemble signBound exponentBound fractionBound]
  omega

theorem exponent_assemble (signBound : negative < 2) (exponentBound : power < 2 ^ 11)
    (fractionBound : rest < 2 ^ 52) : (assemble negative power rest).exponent = power := by
  rw [exponent, toNat_assemble signBound exponentBound fractionBound]
  omega

theorem fraction_assemble (signBound : negative < 2) (exponentBound : power < 2 ^ 11)
    (fractionBound : rest < 2 ^ 52) : (assemble negative power rest).fraction = rest := by
  rw [fraction, toNat_assemble signBound exponentBound fractionBound]
  omega

end Fields

end F64

/-! ### Single precision -/

namespace F32

/-- Assemble a sign and the pattern of an absolute value. -/
def assemble (sign magnitude : Nat) : F32 := ⟨BitVec.ofNat 32 (sign * 2 ^ 31 + magnitude)⟩

def sign (value : F32) : Nat := value.bits.toNat / 2 ^ 31

def exponent (value : F32) : Nat := value.bits.toNat / 2 ^ 23 % 2 ^ 8

def fraction (value : F32) : Nat := value.bits.toNat % 2 ^ 23

def isFinite (value : F32) : Bool := value.exponent != 255

/-- `as f64`. -/
def widen (value : F32) : F64 :=
  if value.exponent = 255 then .assemble value.sign 2047 (value.fraction * 2 ^ 29)
  else if value.exponent = 0 then
    if value.fraction = 0 then .assemble value.sign 0 0
    else
      let lead := value.fraction.log2
      .assemble value.sign (lead + 874) (value.fraction * 2 ^ (52 - lead) - 2 ^ 52)
  else .assemble value.sign (value.exponent + 896) (value.fraction * 2 ^ 29)

/-- `f32::MAX as f64`, without its sign. -/
def maxMagnitude : Nat := 0x47EFFFFFE0000000

end F32

/-- `as f32`, rounding to the nearest. -/
def F64.narrow (value : F64) : F32 :=
  if value.isFinite then
    let mantissa := if value.exponent = 0 then value.fraction else 2 ^ 52 + value.fraction
    let rounded :=
      if 897 ≤ value.exponent then
        (value.exponent - 897) * 2 ^ 23 + roundQuotient mantissa (2 ^ 29)
      else roundQuotient mantissa (2 ^ (29 + (897 - max value.exponent 1)))
    .assemble value.sign (min rounded 0x7F800000)
  else .assemble value.sign (if value.fraction = 0 then 0x7F800000 else 0x7FC00000)

namespace F32

section Fields

variable (value : F32)

theorem sign_lt : value.sign < 2 := by
  have bound := value.bits.isLt
  unfold sign
  omega

theorem fraction_lt : value.fraction < 2 ^ 23 := Nat.mod_lt _ (by decide)

theorem exponent_lt : value.exponent < 2 ^ 8 := Nat.mod_lt _ (by decide)

/-- The bits are the fields. -/
theorem assemble_fields :
    assemble value.sign (value.exponent * 2 ^ 23 + value.fraction) = value := by
  have bound := value.bits.isLt
  obtain ⟨bits⟩ := value
  refine congrArg F32.mk (BitVec.eq_of_toNat_eq ?_)
  rw [BitVec.toNat_ofNat]
  simp only [sign, exponent, fraction] at bound ⊢
  omega

end Fields

/-- The pattern of an absolute value whose `f64` has the given fields. -/
def narrowed (power rest : Nat) : Nat :=
  let mantissa := if power = 0 then rest else 2 ^ 52 + rest
  if 897 ≤ power then (power - 897) * 2 ^ 23 + roundQuotient mantissa (2 ^ 29)
  else roundQuotient mantissa (2 ^ (29 + (897 - max power 1)))

/-- The fields of a finite `f32` as `f64`. -/
structure Widened (value : F32) (power rest : Nat) : Prop where
  wide : value.widen = .assemble value.sign power rest
  restBound : rest < 2 ^ 52
  small : power * 2 ^ 52 + rest ≤ maxMagnitude
  exact : narrowed power rest = value.exponent * 2 ^ 23 + value.fraction

theorem Widened.powerBound {value : F32} {power rest : Nat} (widened : Widened value power rest) :
    power < 2 ^ 11 ∧ power ≠ 2047 := by
  have small := widened.small
  unfold maxMagnitude at small
  omega

/-- A subnormal number becomes a normal one. -/
theorem widened_subnormal {value : F32} (subnormal : value.exponent = 0)
    (nonzero : value.fraction ≠ 0) :
    Widened value (value.fraction.log2 + 874)
      (value.fraction * 2 ^ (52 - value.fraction.log2) - 2 ^ 52) := by
  have low : 2 ^ value.fraction.log2 ≤ value.fraction := Nat.log2_self_le nonzero
  have high : value.fraction < 2 ^ (value.fraction.log2 + 1) := Nat.lt_log2_self
  have small : value.fraction.log2 < 23 := (Nat.log2_lt nonzero).mpr value.fraction_lt
  have wide : value.widen = .assemble value.sign (value.fraction.log2 + 874)
      (value.fraction * 2 ^ (52 - value.fraction.log2) - 2 ^ 52) := by
    simp only [widen, subnormal, nonzero, if_false, if_true]
    rfl
  generalize value.fraction.log2 = lead at *
  have unit : 2 ^ lead * 2 ^ (52 - lead) = 2 ^ 52 := by
    rw [← pow_add]
    congr 1
    omega
  have least : 2 ^ 52 ≤ value.fraction * 2 ^ (52 - lead) := unit ▸ Nat.mul_le_mul_right _ low
  have most : value.fraction * 2 ^ (52 - lead) < 2 * 2 ^ 52 := by
    rw [← unit, ← mul_assoc, ← pow_succ']
    exact Nat.mul_lt_mul_of_pos_right high (Nat.two_pow_pos _)
  have shift : 29 + (897 - max (lead + 874) 1) = 52 - lead := by omega
  refine ⟨wide, by omega, by unfold maxMagnitude; omega, ?_⟩
  rw [narrowed, if_neg (by omega), if_neg (by omega), Nat.add_sub_cancel' least, shift,
    roundQuotient_mul (Nat.two_pow_pos _), subnormal, zero_mul, zero_add]

theorem widened {value : F32} (finite : value.isFinite = true) :
    ∃ power rest, Widened value power rest := by
  have fractionBound := value.fraction_lt
  have exponentBound := value.exponent_lt
  have ordinary : value.exponent ≠ 255 := by simpa [isFinite] using finite
  by_cases subnormal : value.exponent = 0
  · by_cases zero : value.fraction = 0
    · refine ⟨0, 0, by simp [widen, subnormal, zero], by decide, by decide, ?_⟩
      have tiny : ¬ 897 ≤ 0 := by decide
      rw [narrowed, if_pos rfl, if_neg tiny, roundQuotient_zero, subnormal, zero, zero_mul]
    · exact ⟨_, _, widened_subnormal subnormal zero⟩
  · refine ⟨value.exponent + 896, value.fraction * 2 ^ 29, by simp [widen, ordinary, subnormal],
      by omega, by unfold maxMagnitude; omega, ?_⟩
    have exact : 2 ^ 52 + value.fraction * 2 ^ 29 = (2 ^ 23 + value.fraction) * 2 ^ 29 := by omega
    have nonzero : value.exponent + 896 ≠ 0 := by omega
    have normal : 897 ≤ value.exponent + 896 := by omega
    rw [narrowed, if_neg nonzero, if_pos normal, exact, roundQuotient_mul (by decide)]
    omega

theorem isFinite_widen {value : F32} (finite : value.isFinite = true) :
    value.widen.isFinite = true := by
  obtain ⟨power, rest, widened⟩ := widened finite
  rw [F64.isFinite, widened.wide,
    F64.exponent_assemble value.sign_lt widened.powerBound.1 widened.restBound]
  simpa using widened.powerBound.2

/-- The range check of `as f32` passes what comes from an `f32`. -/
theorem magnitude_widen {value : F32} (finite : value.isFinite = true) :
    value.widen.magnitude ≤ maxMagnitude := by
  obtain ⟨power, rest, widened⟩ := widened finite
  have bounds := widened.powerBound
  have small := widened.small
  have total := F64.toNat_assemble value.sign_lt bounds.1 widened.restBound
  have signBound := value.sign_lt
  have restBound := widened.restBound
  rw [F64.magnitude, widened.wide, total]
  omega

/-- A finite `f32` survives the way to `f64` and back. -/
theorem narrow_widen {value : F32} (finite : value.isFinite = true) :
    value.widen.narrow = value := by
  obtain ⟨power, rest, widened⟩ := widened finite
  have exponentBound := value.exponent_lt
  have fractionBound := value.fraction_lt
  have ordinary : value.exponent ≠ 255 := by simpa [isFinite] using finite
  have signBound := value.sign_lt
  have powerBound := widened.powerBound.1
  have restBound := widened.restBound
  have rounded : value.widen.narrow =
      .assemble value.sign (min (narrowed power rest) 0x7F800000) := by
    rw [F64.narrow, if_pos (isFinite_widen finite), widened.wide,
      F64.exponent_assemble signBound powerBound restBound,
      F64.fraction_assemble signBound powerBound restBound,
      F64.sign_assemble signBound powerBound restBound]
    rfl
  rw [rounded, widened.exact, min_eq_left (by omega), assemble_fields]

end F32

end Rosbridge
