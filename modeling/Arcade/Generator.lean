import Arcade.Json.Decode
/-!
# The random generator

Games draw their random numbers from a generator of two 64-bit words that belongs to the session,
so a session that is played again with the same seed and actions ends in the same state.

* `Generator.ofSeed` fills the two words from a seed by the SplitMix64 sequence;
* `Generator.next` is one step of xorshift128+: the drawn word and the generator after it;
* `below`, `between` draw from a range by remainder. Nothing is drawn below zero, and nothing between
  bounds of which the lower is not less than the upper.
-/

namespace Arcade

/-- The two words of a generator. -/
structure Generator where
  s0 : UInt64
  s1 : UInt64
  deriving DecidableEq, Repr

namespace Generator

/-- The mixing function of SplitMix64. -/
def mix (x : UInt64) : UInt64 :=
  let y := (x ^^^ (x >>> 30)) * 0xBF58476D1CE4E5B9
  let z := (y ^^^ (y >>> 27)) * 0x94D049BB133111EB
  z ^^^ (z >>> 31)

/-- What SplitMix64 adds to its state in each step. -/
def gamma : UInt64 := 0x9E3779B97F4A7C15

/-- The generator of a seed. Two zero words would stay zero for ever, so ones stand for them. -/
def ofSeed (seed : UInt64) : Generator :=
  let a := mix (seed + gamma)
  let b := mix (seed + gamma + gamma)
  if a = 0 ∧ b = 0 then ⟨1, 1⟩ else ⟨a, b⟩

/-- A word turned left by `n` places, `0 < n < 64`. -/
def turnLeft (x : UInt64) (n : UInt64) : UInt64 :=
  (x <<< n) ||| (x >>> (64 - n))

/-- The generator after one draw. -/
def advance (g : Generator) : Generator :=
  let t := g.s1 ^^^ g.s0
  ⟨turnLeft g.s0 24 ^^^ t ^^^ (t <<< 16), turnLeft t 37⟩

/-- One draw: the sum of the two words. -/
def next (g : Generator) : UInt64 × Generator :=
  (g.s0 + g.s1, g.advance)

/-- A number below `bound`; from an empty range zero, without a draw. -/
def below (g : Generator) (bound : UInt32) : UInt32 × Generator :=
  if bound = 0 then (0, g)
  else
    let (word, g) := g.next
    (UInt32.ofNat (word.toNat % bound.toNat), g)

/-- A number between two bounds, both included; without a draw the lower one unless it is less than
the upper. -/
def between (g : Generator) (lo hi : Int32) : Int32 × Generator :=
  if hi ≤ lo then (lo, g)
  else
    let span := (hi.toInt - lo.toInt).toNat + 1
    let (word, g) := g.next
    (Int32.ofInt (lo.toInt + ((word.toNat % span : Nat) : Int)), g)

/-- The generator as a record of its two words. -/
def toJson (g : Generator) : Json :=
  .obj [("state", .arr [.nat g.s0.toNat, .nat g.s1.toNat])]

/-- Two words, exactly. -/
def decodeWords : Json.Reading → Json.Decoded (UInt64 × UInt64)
  | .arr (a :: b :: rest) ending => do
    let x ← Json.Decode.uint64 a
    let y ← Json.Decode.uint64 b
    match rest, ending with
    | [], .closed => .ok (x, y)
    | [], _ => .error .unreadable
    | _, _ => .error (.tooLong (2 + rest.length))
  | .arr [a] ending => do
    let _ ← Json.Decode.uint64 a
    if ending = .closed then .error (.tooShort 1) else .error .unreadable
  | .arr [] ending => if ending = .closed then .error (.tooShort 0) else .error .unreadable
  | r => .error (r.mismatch "an array of length 2")

/-- The record of a generator. -/
def schema : Json.Schema (Option (UInt64 × UInt64)) Generator where
  name := "Generator"
  fields := [.of "state" false decodeWords (fun w _ => some w)]
  strict := false
  start := none
  finish s := (Json.required "state" s).map fun w => ⟨w.1, w.2⟩

/-- Reads a generator. -/
def decode (r : Json.Reading) : Json.Decoded Generator :=
  schema.decode r

end Generator

end Arcade
