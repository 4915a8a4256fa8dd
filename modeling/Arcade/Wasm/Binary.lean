import Arcade.Text.Bytes
/-!
# Reading binary modules

The readers of single values of the WebAssembly binary format. A `Reader` takes a value off the
front of some bytes and gives back what follows it, or nothing if the bytes do not start with
one.

* `varNat` reads a number in groups of seven bits, lowest first; it may be padded, but never beyond
  the bytes that its width can take;
* `name` reads a text with its length before it;
* `vector` reads a count and that many values; `whole` insists that nothing follows.
-/

namespace Arcade.Wasm

/-- Takes a value off the front of some bytes. -/
abbrev Reader (α : Type) := Bytes → Option (α × Bytes)

/-- One byte. -/
def byte : Reader UInt8
  | [] => none
  | b :: rest => some (b, rest)

/-- A number of at most `width` bits. Every byte holds seven bits, and its top bit says that more
follow. -/
def varNat : (width : Nat) → Reader Nat
  | _, [] => none
  | width, b :: rest =>
    if b < 0x80 then
      if b.toNat < 1 <<< width then some (b.toNat, rest) else none
    else if 7 < width then
      match varNat (width - 7) rest with
      | some (high, rest) => some (b.toNat - 0x80 + 0x80 * high, rest)
      | none => none
    else none

/-- A 32-bit number. -/
def var32 : Reader Nat := varNat 32

/-- The longest text that is read, in bytes. -/
def maxNameSize : Nat := 100000

/-- A text with its length in bytes before it. -/
def name : Reader String := fun b => do
  let (size, b) ← var32 b
  if maxNameSize < size then none
  else
    let (content, b) ← b.splitAt? size
    let s ← content.toText?
    some (s, b)

/-- As many values as `count` says. -/
def times {α : Type} (read : Reader α) : (count : Nat) → Reader (List α)
  | 0, b => some ([], b)
  | count + 1, b => do
    let (a, b) ← read b
    let (as, b) ← times read count b
    some (a :: as, b)

/-- A count, and as many values. -/
def vector {α : Type} (read : Reader α) : Reader (List α) := fun b => do
  let (count, b) ← var32 b
  times read count b

/-- A value that takes all of the bytes. -/
def whole {α : Type} (read : Reader α) (b : Bytes) : Option α :=
  match read b with
  | some (a, []) => some a
  | _ => none

/-! ### Laws -/

@[simp] theorem byte_cons (b : UInt8) (rest : Bytes) : byte (b :: rest) = some (b, rest) := rfl

end Arcade.Wasm
