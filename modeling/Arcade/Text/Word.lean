import Arcade.Text.Bounds
import Arcade.Text.WordTable
/-!
# Word characters

A word character is a letter, a mark, a decimal digit, a connector such as the underscore, or a
join control. Word edges in patterns, and so the keywords that count as branches, follow this
class; a name in a submission is longer than a keyword when a letter or number follows it.
-/

namespace Arcade.Text

/-- A letter of the ASCII range. -/
def isAsciiLetter (c : Char) : Bool :=
  ('a' ≤ c && c ≤ 'z') || ('A' ≤ c && c ≤ 'Z')

/-- A digit of the ASCII range. -/
def isAsciiDigit (c : Char) : Bool :=
  '0' ≤ c && c ≤ '9'

/-- Whether a character belongs to words. -/
def isWord (c : Char) : Bool :=
  if c.toNat < 0x80 then isAsciiLetter c || isAsciiDigit c || c == '_'
  else withinBounds wordBounds c.toNat

/-- Whether a character is a letter or a number of any script. -/
def isAlphanumeric (c : Char) : Bool :=
  if c.toNat < 0x80 then isAsciiLetter c || isAsciiDigit c
  else
    (withinBounds wordBounds c.toNat && !withinBounds bareMarkBounds c.toNat)
      || withinBounds loneNumberBounds c.toNat

/-- A lower-case letter for an upper-case one of the ASCII range. -/
def asciiLower (c : Char) : Char :=
  if 'A' ≤ c ∧ c ≤ 'Z' then Char.ofNat (c.toNat + 32) else c

/-- A text with its ASCII letters in lower case. -/
def asciiLowerText (s : String) : String :=
  String.ofList (s.toList.map asciiLower)

theorem toNat_asciiLower (c : Char) : (asciiLower c).toNat =
    if 65 ≤ c.toNat ∧ c.toNat ≤ 90 then c.toNat + 32 else c.toNat := by
  by_cases h : 'A' ≤ c ∧ c ≤ 'Z'
  · have hbounds : 65 ≤ c.toNat ∧ c.toNat ≤ 90 := h
    have hvalid : (c.toNat + 32).isValidChar := Or.inl (by omega)
    rw [asciiLower, if_pos h, if_pos hbounds, Char.ofNat, dif_pos hvalid]
    rfl
  · have hbounds : ¬(65 ≤ c.toNat ∧ c.toNat ≤ 90) := h
    rw [asciiLower, if_neg h, if_neg hbounds]

end Arcade.Text
