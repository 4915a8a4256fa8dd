import Arcade.Json.Basic
import Arcade.Number.RealText
/-!
# Writing documents

The text of a value has no blanks. Texts are escaped only where they must be: the quote, the
backslash and the controls below U+0020, of which five have a letter. Numbers that are doubles
always show a point or an exponent, so that they read back as doubles.
-/

namespace Arcade.Json

/-- The four digits of a code unit. -/
def unitDigits (n : Nat) : List Char :=
  let digit (d : Nat) : Char := if d < 10 then Char.ofNat (48 + d) else Char.ofNat (87 + d)
  [digit (n / 4096 % 16), digit (n / 256 % 16), digit (n / 16 % 16), digit (n % 16)]

/-- How a character is written inside a text. -/
def escape (c : Char) : List Char :=
  if c == '"' then ['\\', '"']
  else if c == '\\' then ['\\', '\\']
  else if c == '\n' then ['\\', 'n']
  else if c == '\r' then ['\\', 'r']
  else if c == '\t' then ['\\', 't']
  else if c.toNat = 8 then ['\\', 'b']
  else if c.toNat = 12 then ['\\', 'f']
  else if c.toNat < 0x20 then ['\\', 'u'] ++ unitDigits c.toNat
  else [c]

/-- A text between quotes. -/
def quoted (s : String) : String :=
  String.ofList ('"' :: s.toList.flatMap escape ++ ['"'])

/-- The text of a number. -/
def numberText : Number → String
  | .int n => toString n
  | .real x => RealText.text .json x

mutual

/-- The text of a value. -/
def text : Json → String
  | .null => "null"
  | .bool true => "true"
  | .bool false => "false"
  | .num n => numberText n
  | .str s => quoted s
  | .arr items => "[" ++ itemsText items ++ "]"
  | .obj fields => "\x7b" ++ fieldsText fields ++ "\x7d"

/-- The texts of the items, with commas between them. -/
def itemsText : List Json → String
  | [] => ""
  | [j] => text j
  | j :: rest => text j ++ "," ++ itemsText rest

/-- The texts of the fields, with commas between them. -/
def fieldsText : List (String × Json) → String
  | [] => ""
  | [(k, j)] => quoted k ++ ":" ++ text j
  | (k, j) :: rest => quoted k ++ ":" ++ text j ++ "," ++ fieldsText rest

end

end Arcade.Json
