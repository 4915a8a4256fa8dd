import Arcade.Text.Bounds
import Arcade.Text.HiddenTable
/-!
# Quoted texts in messages

A message that repeats a text of the user shows it between double quotes, so that its ends and
its invisible characters can be seen: the quote and the backslash are escaped, the common controls
have letters, and every other character that would not show is written by its code point.
-/

namespace Arcade.Text.Quoted

/-- Whether a character would not show as itself. -/
def isHidden (c : Char) : Bool :=
  let n := c.toNat
  n < 0x20 || n == 0x7F
    || (0x80 ≤ n && (withinBounds hiddenBounds n || withinBounds extenderBounds n))

/-- The digits of a code point, in lower-case hexadecimal. -/
def codePoint (c : Char) : List Char :=
  Nat.toDigits 16 c.toNat

/-- How one character is written between the quotes. -/
def escape (c : Char) : List Char :=
  if c == '"' then ['\\', '"']
  else if c == '\\' then ['\\', '\\']
  else if c == '\n' then ['\\', 'n']
  else if c == '\r' then ['\\', 'r']
  else if c == '\t' then ['\\', 't']
  else if c.toNat = 0 then ['\\', '0']
  else if isHidden c then ['\\', 'u', '\x7b'] ++ codePoint c ++ ['\x7d']
  else [c]

/-- A text between double quotes. -/
def quote (s : String) : String :=
  String.ofList ('"' :: s.toList.flatMap escape ++ ['"'])

end Arcade.Text.Quoted
