import Arcade.Text.Bytes
/-!
# Hexadecimal

Bytes as pairs of hexadecimal digits: written in lower case, read in either case.
-/

namespace Arcade.Hex

/-- The lower-case digit for a value below 16. -/
def digit (n : Nat) : Char :=
  if n < 10 then Char.ofNat (48 + n) else Char.ofNat (87 + n)

/-- The value of a digit of either case. -/
def value? (c : Char) : Option Nat :=
  let n := c.toNat
  if 48 ≤ n ∧ n ≤ 57 then some (n - 48)
  else if 97 ≤ n ∧ n ≤ 102 then some (n - 87)
  else if 65 ≤ n ∧ n ≤ 70 then some (n - 55)
  else none

/-- Two digits for each byte. -/
def encodeChars : Bytes → List Char
  | [] => []
  | b :: rest => digit (b.toNat / 16) :: digit (b.toNat % 16) :: encodeChars rest

/-- The bytes written by pairs of digits; an odd digit out or any other character is refused. -/
def decodeChars? : List Char → Option Bytes
  | [] => some []
  | hi :: lo :: rest => do
    let h ← value? hi
    let l ← value? lo
    let bytes ← decodeChars? rest
    some (UInt8.ofNat (16 * h + l) :: bytes)
  | [_] => none

/-- The digits of a byte string. -/
def encode (b : Bytes) : String :=
  String.ofList (encodeChars b)

/-- The byte string that digits stand for. -/
def decode? (s : String) : Option Bytes :=
  decodeChars? s.toList

end Arcade.Hex
