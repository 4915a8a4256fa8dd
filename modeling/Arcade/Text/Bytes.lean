/-!
# Texts as bytes

Byte strings are lists of `UInt8`. A text is read and written as UTF-8, and numbers are laid out
with the least significant byte first.

* `ofText`, `toText?` go between texts and their UTF-8 bytes; the way back refuses bytes that are
  not UTF-8;
* `toTextLossy` reads any bytes, with U+FFFD for each stretch that is not UTF-8;
* `ofNat width n`, `toNat` lay a number out in `width` bytes and read it again.
-/

namespace Arcade

/-- A byte string. -/
abbrev Bytes := List UInt8

namespace Bytes

/-- The UTF-8 bytes of a text. -/
def ofText (s : String) : Bytes :=
  s.toUTF8.data.toList

/-- The text whose UTF-8 bytes these are. -/
def toText? (b : Bytes) : Option String :=
  String.fromUTF8? (ByteArray.mk b.toArray)

/-- The lowest `width` bytes of a number, least significant first. -/
def ofNat : (width : Nat) → (n : Nat) → Bytes
  | 0, _ => []
  | width + 1, n => UInt8.ofNat (n % 256) :: ofNat width (n / 256)

/-- The number whose bytes these are, least significant first. -/
def toNat : Bytes → Nat
  | [] => 0
  | b :: rest => b.toNat + 256 * toNat rest

/-- The first `n` bytes and what follows them, unless there are fewer than `n`. -/
def splitAt? (n : Nat) (b : Bytes) : Option (Bytes × Bytes) :=
  if n ≤ b.length then some (b.take n, b.drop n) else none

/-! ### Layout of numbers -/

@[simp] theorem length_ofNat (width n : Nat) : (ofNat width n).length = width := by
  induction width generalizing n with
  | zero => rfl
  | succ width ih => simp [ofNat, ih]

/-- Reading back what was laid out gives the number up to the width. -/
theorem toNat_ofNat (width n : Nat) : toNat (ofNat width n) = n % 1 <<< (8 * width) := by
  induction width generalizing n with
  | zero => simp [ofNat, toNat, Nat.mod_one]
  | succ width ih =>
    have h : (UInt8.ofNat (n % 256)).toNat = n % 256 := by
      simp
    have hw : 1 <<< (8 * (width + 1)) = 256 * 1 <<< (8 * width) := by
      rw [Nat.one_shiftLeft, Nat.one_shiftLeft, Nat.mul_succ, Nat.pow_add, Nat.mul_comm]
    rw [ofNat, toNat, h, ih, hw, Nat.mod_mul]

/-! ### Reading bytes that need not be UTF-8 -/

/-- Whether a byte continues a character. -/
def isContinuation (b : UInt8) : Bool :=
  0x80 ≤ b && b ≤ 0xBF

/-- For a byte that may start a character of several bytes: how many bytes follow it, and the
range of the first of them. -/
def leadShape? (b : UInt8) : Option (Nat × UInt8 × UInt8) :=
  if 0xC2 ≤ b && b ≤ 0xDF then some (1, 0x80, 0xBF)
  else if b == 0xE0 then some (2, 0xA0, 0xBF)
  else if b == 0xED then some (2, 0x80, 0x9F)
  else if 0xE1 ≤ b && b ≤ 0xEF then some (2, 0x80, 0xBF)
  else if b == 0xF0 then some (3, 0x90, 0xBF)
  else if 0xF1 ≤ b && b ≤ 0xF3 then some (3, 0x80, 0xBF)
  else if b == 0xF4 then some (3, 0x80, 0x8F)
  else none

/-- How many of the bytes after a lead byte belong to its character: at most `follow`, the first
within `lo` to `hi` and the others any continuation. -/
def continuationRun (follow : Nat) (lo hi : UInt8) (b : Bytes) : Nat :=
  match follow, b with
  | 0, _ => 0
  | _ + 1, [] => 0
  | follow + 1, c :: rest =>
    if lo ≤ c && c ≤ hi then 1 + (rest.take follow |>.takeWhile isContinuation).length else 0

/-- The characters of any byte string. A maximal start of a character that breaks off, or a byte
that can start none, reads as U+FFFD. The counter bounds the number of characters. -/
def lossyChars : Nat → Bytes → List Char
  | 0, _ => []
  | _, [] => []
  | fuel + 1, b :: rest =>
    if b < 0x80 then Char.ofNat b.toNat :: lossyChars fuel rest
    else
      match leadShape? b with
      | none => Char.ofNat 0xFFFD :: lossyChars fuel rest
      | some (follow, lo, hi) =>
        let run := continuationRun follow lo hi rest
        let whole := if run = follow then toText? (b :: rest.take run) else none
        match whole with
        | some s => s.toList ++ lossyChars fuel (rest.drop run)
        | none => Char.ofNat 0xFFFD :: lossyChars fuel (rest.drop run)

/-- The text of any byte string, with U+FFFD where it is not UTF-8. -/
def toTextLossy (b : Bytes) : String :=
  String.ofList (lossyChars b.length b)

end Bytes

end Arcade
