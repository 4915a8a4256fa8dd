import Arcade.Number.Nearest
import Arcade.Text.Word
/-!
# Reading real numbers

The texts of real numbers: an optional sign, and then a word for infinity or for what is no number,
in letters of either case, or decimal digits with an optional point among or beside them and an
optional exponent. Nothing may stand around them. A text stands for the double nearest to it.

* `Decimals.read?` reads the digits, `Decimals.nearest` is the double nearest to them;
* `ofText?` reads a whole text.
-/

namespace Arcade.Real

/-- Digits, and the power of ten by which they are scaled. -/
structure Decimals where
  digits : Nat
  exponent : Int
  deriving DecidableEq, Repr

namespace Decimals

/-- The number that decimal digits stand for. -/
def valueOf (cs : List Char) : Nat :=
  cs.foldl (fun n c => 10 * n + (c.toNat - 48)) 0

/-- An exponent after its letter: digits, with an optional sign. -/
def readExponent? (cs : List Char) : Option Int :=
  let (down, digits) :=
    match cs with
    | '+' :: rest => (false, rest)
    | '-' :: rest => (true, rest)
    | _ => (false, cs)
  if digits.isEmpty || !digits.all Text.isAsciiDigit then none
  else some (if down then -(valueOf digits : Int) else valueOf digits)

/-- What may follow the digits: nothing or an exponent. -/
def readEnd? : List Char → Option Int
  | [] => some 0
  | c :: rest => if c = 'e' || c = 'E' then readExponent? rest else none

/-- Digits with an optional point, of which there is at least one, and an optional exponent. -/
def read? (cs : List Char) : Option Decimals := do
  let whole := cs.takeWhile Text.isAsciiDigit
  let (places, rest) :=
    match cs.dropWhile Text.isAsciiDigit with
    | '.' :: rest => (rest.takeWhile Text.isAsciiDigit, rest.dropWhile Text.isAsciiDigit)
    | rest => ([], rest)
  if whole.isEmpty && places.isEmpty then none
  else
    let exponent ← readEnd? rest
    some ⟨valueOf (whole ++ places), exponent - places.length⟩

/-- The places of the leading digit, counted from the point, outside of which a number is nothing or
beyond all doubles. -/
def places : Int × Int := (-330, 310)

/-- The nearest double. Outside of `places` no power of ten is worked out. -/
def nearest (d : Decimals) : Float :=
  let lead := d.exponent + Shortest.digitCount d.digits
  if d.digits = 0 || lead < places.1 then 0.0
  else if places.2 < lead then 1.0 / 0.0
  else if d.exponent < 0 then Nearest.toFloat d.digits (Shortest.tenTo (-d.exponent).toNat)
  else Nearest.toFloat (d.digits * Shortest.tenTo d.exponent.toNat) 1

end Decimals

/-- The number that a text without its sign stands for. -/
def magnitude? (cs : List Char) : Option Float :=
  let word := String.ofList (cs.map Text.asciiLower)
  if word = "inf" || word = "infinity" then some (1.0 / 0.0)
  else if word = "nan" then some (0.0 / 0.0)
  else (Decimals.read? cs).map Decimals.nearest

/-- The number that a text stands for. -/
def ofText? (s : String) : Option Float :=
  match s.toList with
  | '+' :: rest => magnitude? rest
  | '-' :: rest => (magnitude? rest).map fun x => -x
  | cs => magnitude? cs

end Arcade.Real
