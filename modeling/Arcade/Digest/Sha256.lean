import Arcade.Text.Bytes
/-!
# SHA-256

The hash function of FIPS 180-4 on byte lists. A message is padded to whole blocks of 64 bytes,
each block is expanded to 64 words, and 64 rounds mix them into the chaining value.

* `padded` and `blocks` cut the message;
* `schedule` expands a block;
* `compress` runs the rounds of one block;
* `digest` is the 32-byte result.
-/

namespace Arcade.Sha256

/-- The chaining value, eight words. -/
structure Chain where
  a : UInt32
  b : UInt32
  c : UInt32
  d : UInt32
  e : UInt32
  f : UInt32
  g : UInt32
  h : UInt32
  deriving DecidableEq, Repr

/-- The value before the first block: the fractional parts of the square roots of the first eight
primes. -/
def Chain.start : Chain :=
  ⟨0x6a09e667, 0xbb67ae85, 0x3c6ef372, 0xa54ff53a, 0x510e527f, 0x9b05688c, 0x1f83d9ab, 0x5be0cd19⟩

/-- One constant for each round: the fractional parts of the cube roots of the first 64 primes. -/
def roundConstants : List UInt32 := [
  0x428a2f98, 0x71374491, 0xb5c0fbcf, 0xe9b5dba5, 0x3956c25b, 0x59f111f1, 0x923f82a4, 0xab1c5ed5,
  0xd807aa98, 0x12835b01, 0x243185be, 0x550c7dc3, 0x72be5d74, 0x80deb1fe, 0x9bdc06a7, 0xc19bf174,
  0xe49b69c1, 0xefbe4786, 0x0fc19dc6, 0x240ca1cc, 0x2de92c6f, 0x4a7484aa, 0x5cb0a9dc, 0x76f988da,
  0x983e5152, 0xa831c66d, 0xb00327c8, 0xbf597fc7, 0xc6e00bf3, 0xd5a79147, 0x06ca6351, 0x14292967,
  0x27b70a85, 0x2e1b2138, 0x4d2c6dfc, 0x53380d13, 0x650a7354, 0x766a0abb, 0x81c2c92e, 0x92722c85,
  0xa2bfe8a1, 0xa81a664b, 0xc24b8b70, 0xc76c51a3, 0xd192e819, 0xd6990624, 0xf40e3585, 0x106aa070,
  0x19a4c116, 0x1e376c08, 0x2748774c, 0x34b0bcb5, 0x391c0cb3, 0x4ed8aa4a, 0x5b9cca4f, 0x682e6ff3,
  0x748f82ee, 0x78a5636f, 0x84c87814, 0x8cc70208, 0x90befffa, 0xa4506ceb, 0xbef9a3f7, 0xc67178f2]

/-- A word turned right by `n` places, `0 < n < 32`. -/
def turnRight (x : UInt32) (n : UInt32) : UInt32 :=
  (x >>> n) ||| (x <<< (32 - n))

def bigSigma0 (x : UInt32) : UInt32 := turnRight x 2 ^^^ turnRight x 13 ^^^ turnRight x 22
def bigSigma1 (x : UInt32) : UInt32 := turnRight x 6 ^^^ turnRight x 11 ^^^ turnRight x 25
def smallSigma0 (x : UInt32) : UInt32 := turnRight x 7 ^^^ turnRight x 18 ^^^ (x >>> 3)
def smallSigma1 (x : UInt32) : UInt32 := turnRight x 17 ^^^ turnRight x 19 ^^^ (x >>> 10)

/-- Bits of `y` where `x` is set, of `z` elsewhere. -/
def choose (x y z : UInt32) : UInt32 := (x &&& y) ^^^ (~~~x &&& z)

/-- The bits that at least two of three words have. -/
def majority (x y z : UInt32) : UInt32 := (x &&& y) ^^^ (x &&& z) ^^^ (y &&& z)

/-- A number in `width` bytes, most significant first. -/
def bigEndian (width n : Nat) : Bytes := (Bytes.ofNat width n).reverse

/-- The message, a bit that is set, zeros up to eight bytes below a whole block, and the length in
bits. -/
def padded (message : Bytes) : Bytes :=
  message ++ 0x80 :: List.replicate ((119 - message.length % 64) % 64) 0
    ++ bigEndian 8 (8 * message.length)

/-- The words of a byte list, most significant byte first. -/
def words : Bytes → List UInt32
  | a :: b :: c :: d :: rest =>
    ((a.toUInt32 <<< 24) ||| (b.toUInt32 <<< 16) ||| (c.toUInt32 <<< 8) ||| d.toUInt32)
      :: words rest
  | _ => []

/-- Appends `n` words, each made of the words 2, 7, 15 and 16 places before it. -/
def extend : Nat → Array UInt32 → Array UInt32
  | 0, w => w
  | n + 1, w =>
    let back (k : Nat) : UInt32 := w.getD (w.size - k) 0
    extend n (w.push (smallSigma1 (back 2) + back 7 + smallSigma0 (back 15) + back 16))

/-- The 64 words of a block of 64 bytes. -/
def schedule (block : Bytes) : Array UInt32 :=
  extend 48 (words block).toArray

/-- One round, with its constant and its word. -/
def round (s : Chain) (constant word : UInt32) : Chain :=
  let t1 := s.h + bigSigma1 s.e + choose s.e s.f s.g + constant + word
  let t2 := bigSigma0 s.a + majority s.a s.b s.c
  ⟨t1 + t2, s.a, s.b, s.c, s.d + t1, s.e, s.f, s.g⟩

/-- The word-wise sum of two chaining values. -/
def Chain.add (s t : Chain) : Chain :=
  ⟨s.a + t.a, s.b + t.b, s.c + t.c, s.d + t.d, s.e + t.e, s.f + t.f, s.g + t.g, s.h + t.h⟩

/-- The chaining value after one more block. -/
def compress (s : Chain) (block : Bytes) : Chain :=
  s.add ((roundConstants.zip (schedule block).toList).foldl (fun t kw => round t kw.1 kw.2) s)

/-- Cuts a byte list into blocks of 64, at most `n` of them. -/
def blocks : (n : Nat) → Bytes → List Bytes
  | 0, _ => []
  | n + 1, b => b.take 64 :: blocks n (b.drop 64)

/-- The four bytes of a word, most significant first. -/
def wordBytes (x : UInt32) : Bytes :=
  [(x >>> 24).toUInt8, (x >>> 16).toUInt8, (x >>> 8).toUInt8, x.toUInt8]

/-- The bytes of a chaining value. -/
def Chain.bytes (s : Chain) : Bytes :=
  [s.a, s.b, s.c, s.d, s.e, s.f, s.g, s.h].flatMap wordBytes

/-- The 32-byte hash of a message. -/
def digest (message : Bytes) : Bytes :=
  let p := padded message
  ((blocks (p.length / 64) p).foldl compress Chain.start).bytes

/-- A hash has 32 bytes, whatever the message. -/
@[simp] theorem length_digest (message : Bytes) : (digest message).length = 32 := rfl

end Arcade.Sha256
