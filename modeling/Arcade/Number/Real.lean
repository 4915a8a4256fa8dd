import Arcade.Number.Words
/-!
# From real numbers to integers

Double-precision numbers become integers in two ways here: cut off toward zero (`truncate`, for
fixed-point constants) and rounded with halves away from zero (`round`, for points). Both work on
the magnitude, which `Float.toUInt64` cuts off and caps at `2 ^ 64 - 1`; a NaN counts as zero.
The result is then held within the range that the caller's words have (`clampInt`).
-/

namespace Arcade.Real

/-- An integer held between two bounds. -/
def clampInt (lo hi n : Int) : Int :=
  max lo (min hi n)

/-- The magnitude of a number without its fraction, at most `2 ^ 64 - 1`. -/
def wholeMagnitude (x : Float) : Nat :=
  x.abs.toUInt64.toNat

/-- The magnitude of a number to the nearest integer, halves up, at most `2 ^ 64`. -/
def roundedMagnitude (x : Float) : Nat :=
  let whole := x.abs.toUInt64
  if x.abs - whole.toFloat ≥ 0.5 then whole.toNat + 1 else whole.toNat

/-- A magnitude with the sign of `x`. -/
def withSignOf (x : Float) (n : Nat) : Int :=
  if x < 0.0 then -(n : Int) else n

/-- The integer part of a number, held between `lo` and `hi`. -/
def truncate (lo hi : Int) (x : Float) : Int :=
  clampInt lo hi (withSignOf x (wholeMagnitude x))

/-- The nearest integer to a number, halves away from zero, held between `lo` and `hi`. -/
def round (lo hi : Int) (x : Float) : Int :=
  clampInt lo hi (withSignOf x (roundedMagnitude x))

/-- The range of 32-bit integers. -/
def truncateToInt32 (x : Float) : Int32 :=
  Int32.ofInt (truncate Words.minInt32 Words.maxInt32 x)

/-- The nearest 64-bit integer. -/
def roundToInt64 (x : Float) : Int64 :=
  Int64.ofInt (round Words.minInt64 Words.maxInt64 x)

/-! ### Bounds -/

theorem le_clampInt {lo hi n : Int} : lo ≤ clampInt lo hi n := by
  unfold clampInt; omega

theorem clampInt_le {lo hi n : Int} (h : lo ≤ hi) : clampInt lo hi n ≤ hi := by
  unfold clampInt; omega

end Arcade.Real
