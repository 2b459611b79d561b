import Rosbridge.Data.Double

/-!
Durations and instants of the standard library, in nanoseconds.

Owns: the checked conversion of a number of seconds to a duration, and the
addition of a duration to an instant, which panics on overflow.
-/

set_option autoImplicit false

namespace Rosbridge

/-- An error as it is shown to a client. -/
structure Error where
  message : String
deriving DecidableEq

/-- A length of time. Its seconds fit in 64 bits. -/
abbrev Duration : Type := Nat

/-- A reading of the monotonic clock. -/
abbrev Instant : Type := Nat

def nanosPerSecond : Nat := 1000000000

namespace Duration

def fromMillis (millis : Nat) : Duration := millis * 1000000

def fromSecs (seconds : Nat) : Duration := seconds * nanosPerSecond

/-- Round to the nearest natural number, ties to even. -/
def roundHalfEven (value : ℚ) : Nat :=
  let floor := value.floor.toNat
  let rest := value - floor
  if rest > 1 / 2 ∨ (rest = 1 / 2 ∧ floor % 2 = 1) then floor + 1 else floor

/-- `Duration::try_from_secs_f64`. -/
def tryFromSecsF64 (seconds : F64) : Except Error Duration :=
  match seconds.toRat? with
  | some value =>
      if value < 0 then .error ⟨"cannot convert float seconds to Duration: value is negative"⟩
      else
        let nanos := roundHalfEven (value * nanosPerSecond)
        if nanos < 2 ^ 64 * nanosPerSecond then .ok nanos
        else .error ⟨"cannot convert float seconds to Duration: value is either too big or NaN"⟩
  | none =>
      if seconds.sign = 1 ∧ seconds.fraction = 0 then
        .error ⟨"cannot convert float seconds to Duration: value is negative"⟩
      else .error ⟨"cannot convert float seconds to Duration: value is either too big or NaN"⟩

end Duration

namespace Instant

/-- The first instant past the clock's range: its seconds are signed 64-bit. -/
def limit : Nat := 2 ^ 63 * nanosPerSecond

/-- `instant + duration`, absent where the standard library panics. -/
def add? (instant : Instant) (duration : Duration) : Option Instant :=
  if instant + duration < limit then some (instant + duration) else none

/-- `instant.duration_since(earlier)` and `elapsed`, which saturate at zero. -/
def since (instant earlier : Instant) : Duration := instant - earlier

end Instant

end Rosbridge
