import Arcade.Number.Shortest
/-!
# Texts of real numbers

The decimal digits of a double come from `Shortest`; what is left to decide is how they are laid
out. A `Layout` holds those decisions, and there are two of them in this library:

* `Layout.json` for numbers in documents: positional from `1e-5` up to below `1e16`, with an
  exponent elsewhere, and always with a point or an exponent;
* `Layout.plain` for numbers in messages: positional throughout, whole numbers without a point.
-/

namespace Arcade.RealText

open Shortest (Decimal Tie Binary)

/-- How the digits of a number are laid out. -/
structure Layout where
  /-- which of two equally near digit strings is taken -/
  tie : Tie
  /-- the exponents of the leading digit that are written positionally; all when absent -/
  positional : Option (Int × Int)
  /-- whether a whole number is written with `.0` -/
  keepPoint : Bool

/-- Numbers in documents. -/
def Layout.json : Layout := ⟨.toEven, some (-5, 15), true⟩

/-- Numbers in messages. -/
def Layout.plain : Layout := ⟨.up, none, false⟩

/-- The decimal digits of a natural number. -/
def digitsOf (n : Nat) : List Char :=
  Nat.toDigits 10 n

/-- Digits with the point placed by the exponent. -/
def positional (keepPoint : Bool) (d : Decimal) : List Char :=
  let digits := digitsOf d.digits
  let whole := if keepPoint then ['.', '0'] else []
  if 0 ≤ d.exponent then digits ++ List.replicate d.exponent.toNat '0' ++ whole
  else
    let places := (-d.exponent).toNat
    if places < digits.length then
      digits.take (digits.length - places) ++ '.' :: digits.drop (digits.length - places)
    else '0' :: '.' :: List.replicate (places - digits.length) '0' ++ digits

/-- Digits with one before the point, and the exponent of that one, with its sign. -/
def scientific (d : Decimal) : List Char :=
  let digits := digitsOf d.digits
  let lead : Int := d.exponent + (digits.length : Int) - 1
  let mantissa :=
    match digits with
    | first :: [] => [first]
    | first :: rest => first :: '.' :: rest
    | [] => []
  mantissa ++ 'e' :: (if 0 ≤ lead then ['+'] else []) ++ (toString lead).toList

/-- The text of a finite magnitude. -/
def magnitude (layout : Layout) (b : Binary) : List Char :=
  let d := Shortest.shortest layout.tie b
  let lead : Int := d.exponent + ((digitsOf d.digits).length : Int) - 1
  match layout.positional with
  | none => positional layout.keepPoint d
  | some (lo, hi) =>
    if d.digits = 0 ∨ (lo ≤ lead ∧ lead ≤ hi) then positional layout.keepPoint d else scientific d

/-- Whether the sign bit is set, as it is for negative zero. -/
def signBit (x : Float) : Bool :=
  x.toBits >>> 63 == 1

/-- The text of a number. -/
def text (layout : Layout) (x : Float) : String :=
  if x.isNaN then "NaN"
  else
    let sign := if signBit x then ['-'] else []
    if x.isInf then String.ofList (sign ++ ['i', 'n', 'f'])
    else String.ofList (sign ++ magnitude layout (Binary.ofBits x.toBits))

/-- The text of a number in a message. -/
def plain (x : Float) : String :=
  text .plain x

end Arcade.RealText
