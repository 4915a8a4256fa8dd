import Arcade.Number.Shortest
/-!
# The nearest double

The double nearest to a positive fraction, decided in natural numbers: the fraction is measured in
units of the last place that it can have, and rounded to a whole number of units, to the even one if
two are equally near.

* `lastPlace` is the exponent of the unit, `unitsIn` the rounded number of units;
* `toFloat` puts both together.
-/

namespace Arcade.Nearest

open Shortest (fractions)

/-- A fraction in units of `2 ^ exponent`, as a fraction again. -/
def measured (num den : Nat) (exponent : Int) : Nat × Nat :=
  if exponent < 0 then (num <<< (-exponent).toNat, den) else (num, den <<< exponent.toNat)

/-- The exponent of the last place of a fraction: 52 below its leading bit, but no lower than that
of the smallest double. The logarithms give the leading bit up to one. -/
def lastPlace (num den : Nat) : Int :=
  let guess : Int := (num.log2 : Int) - den.log2 - 52
  let (n, d) := measured num den guess
  max (-1074) (if n / d < fractions then guess - 1 else guess)

/-- A quotient to the nearest whole number, halves to the even one. -/
def roundedQuotient (num den : Nat) : Nat :=
  let whole := num / den
  let rest := 2 * (num % den)
  if rest < den || (rest == den && whole % 2 == 0) then whole else whole + 1

/-- How many units of its last place a fraction has, to the nearest number. -/
def unitsIn (num den : Nat) : Nat :=
  let (n, d) := measured num den (lastPlace num den)
  roundedQuotient n d

/-- The bits of infinity. -/
def infinityBits : Nat := 0x7FF0000000000000

/-- The double nearest to a positive fraction. Its bits count the doubles below it: every exponent
has as many of them as there are fractions, and the units beyond those of the smallest one carry
over. -/
def toFloat (num den : Nat) : Float :=
  let below : Nat := (lastPlace num den + 1074).toNat * fractions + unitsIn num den
  Float.ofBits (UInt64.ofNat (min below infinityBits))

end Arcade.Nearest
