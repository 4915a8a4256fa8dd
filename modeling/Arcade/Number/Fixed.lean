import Arcade.Number.Real
/-!
# Fixed-point numbers

Positions and velocities are 32-bit words whose low sixteen bits are the fraction. Two frames can
then be compared bit for bit.

* `Fixed.one` is the unit, `Fixed.ofReal` converts a constant;
* `Fixed.abs` and `Fixed.clamp` are the two operations that the simulation needs beside the sums
  of words. The magnitude of the lowest word is the highest one.
-/

namespace Arcade

/-- A number of `1 / 65536` parts. -/
abbrev Fixed := Int32

namespace Fixed

/-- One unit. -/
def one : Fixed := 65536

/-- A constant in fixed-point form: the fraction beyond sixteen bits is cut off, and what does not
fit is held at the nearest bound. -/
def ofReal (x : Float) : Fixed :=
  Real.truncateToInt32 (x * 65536.0)

/-- The magnitude, held at the highest word. -/
def abs (x : Fixed) : Fixed :=
  if x = Int32.minValue then Int32.maxValue else if x < 0 then -x else x

/-- The larger of `x` and `lo`, or `hi` if that is less. -/
def clamp (x lo hi : Fixed) : Fixed :=
  let raised := if x < lo then lo else x
  if hi < raised then hi else raised

end Fixed

end Arcade
