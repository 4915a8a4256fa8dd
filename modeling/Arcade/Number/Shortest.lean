/-!
# The shortest decimal that reads back

Every finite double stands for the interval of reals that round to it. Its text is a decimal
number of that interval with as few digits as possible, and of those the one nearest to the
double. Everything is decided in natural numbers:

* `Binary.ofBits` takes a double apart into `mantissa * 2 ^ exponent`;
* `Interval` holds the double and the two ends of its interval over one common denominator, in
  units small enough that all three are natural numbers;
* `digitsAt?` looks at the two neighbours of the double on the grid of numbers with a given count
  of digits; `shortest` takes the first grid with a neighbour inside the interval.
-/

namespace Arcade.Shortest

/-- A finite magnitude, `mantissa * 2 ^ exponent`. The flag says that the double below it is only
half as far away as the one above it. -/
structure Binary where
  mantissa : Nat
  exponent : Int
  nearBelow : Bool
  deriving Repr, DecidableEq

/-- How many fractions a double may have: those of 52 bits. -/
def fractions : Nat := 4503599627370496

/-- How many exponents a double may have: those of eleven bits. -/
def exponents : Nat := 2048

/-- A power of ten. -/
def tenTo (n : Nat) : Nat := Nat.pow 10 n

/-- The magnitude that the bits of a finite double stand for. -/
def Binary.ofBits (bits : UInt64) : Binary :=
  let fraction : Nat := bits.toNat % fractions
  let stored : Nat := bits.toNat / fractions % exponents
  if stored = 0 then ⟨fraction, -1074, false⟩
  else ⟨fraction + fractions, (stored : Int) - 1075, fraction == 0 && stored != 1⟩

/-- A double and its interval, as numerators over one denominator. -/
structure Interval where
  low : Nat
  value : Nat
  high : Nat
  denominator : Nat
  closed : Bool
  deriving Repr, DecidableEq

/-- The interval of a magnitude: halfway to the neighbours, with the ends when the mantissa is
even. The unit is a quarter of the last place. -/
def Interval.ofBinary (b : Binary) : Interval :=
  let low := 4 * b.mantissa - (if b.nearBelow then 1 else 2)
  let value := 4 * b.mantissa
  let high := 4 * b.mantissa + 2
  let even := b.mantissa % 2 = 0
  let q := b.exponent - 2
  if q < 0 then ⟨low, value, high, 1 <<< (-q).toNat, even⟩
  else ⟨low <<< q.toNat, value <<< q.toNat, high <<< q.toNat, 1, even⟩

/-- Which of two equally near decimals is taken. -/
inductive Tie where
  /-- the one with the even last digit -/
  | toEven
  /-- the larger one -/
  | up
  deriving Repr, DecidableEq

/-- A decimal magnitude, `digits * 10 ^ exponent`. -/
structure Decimal where
  digits : Nat
  exponent : Int
  deriving Repr, DecidableEq

/-- How many decimal digits a natural number has; zero has one. -/
def digitCount (n : Nat) : Nat :=
  (Nat.toDigits 10 n).length

/-- The exponent `e` with `10 ^ e ≤ numerator / denominator < 10 ^ (e + 1)`, for a positive
numerator and denominator. -/
def leadingExponent (numerator denominator : Nat) : Int :=
  let e : Int := (digitCount numerator : Int) - (digitCount denominator : Int)
  let reached :=
    if e < 0 then denominator ≤ numerator * tenTo (-e).toNat
    else denominator * tenTo e.toNat ≤ numerator
  if reached then e else e - 1

/-- Whether `candidate`, in units of `unit / scale` of the interval's own, lies in the interval. -/
def Interval.holds (i : Interval) (candidate : Nat) : Bool :=
  if i.closed then i.low ≤ candidate ∧ candidate ≤ i.high
  else i.low < candidate ∧ candidate < i.high

/-- The neighbour of the double inside its interval, among the multiples of `10 ^ exponent`. Of two
inside, the nearer. -/
def digitsAt? (i : Interval) (tie : Tie) (exponent : Int) : Option Nat :=
  let scale := if exponent < 0 then tenTo (-exponent).toNat else 1
  let unit := if exponent < 0 then i.denominator else i.denominator * tenTo exponent.toNat
  let wide : Interval :=
    { i with low := i.low * scale, value := i.value * scale, high := i.high * scale }
  let below := wide.value / unit
  let above := below + 1
  let toBelow := wide.value - below * unit
  let toAbove := above * unit - wide.value
  match wide.holds (below * unit), wide.holds (above * unit) with
  | false, false => none
  | true, false => some below
  | false, true => some above
  | true, true =>
    if toBelow < toAbove then some below
    else if toAbove < toBelow then some above
    else
      match tie with
      | .toEven => some (if below % 2 = 0 then below else above)
      | .up => some above

/-- A number without its trailing zeros, and how many there were. The counter bounds the zeros. -/
def dropZeros : Nat → Nat → Nat × Nat
  | 0, n => (n, 0)
  | fuel + 1, n =>
    if n ≠ 0 ∧ n % 10 = 0 then
      let (m, k) := dropZeros fuel (n / 10)
      (m, k + 1)
    else (n, 0)

/-- The grids with 1, 2, … digits in turn. Seventeen digits always suffice. -/
def search (i : Interval) (tie : Tie) (lead : Int) : List Nat → Decimal
  | [] => ⟨i.value / i.denominator, 0⟩
  | extra :: more =>
    let exponent := lead - extra
    match digitsAt? i tie exponent with
    | some digits =>
      let (d, k) := dropZeros 20 digits
      ⟨d, exponent + k⟩
    | none => search i tie lead more

/-- The shortest decimal of a double's magnitude, the nearest of those. -/
def shortest (tie : Tie) (b : Binary) : Decimal :=
  if b.mantissa = 0 then ⟨0, 0⟩
  else
    let i := Interval.ofBinary b
    search i tie (leadingExponent i.value i.denominator) (List.range 18)

end Arcade.Shortest
