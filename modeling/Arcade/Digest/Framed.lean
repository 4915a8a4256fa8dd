import Arcade.Digest.Sha256
/-!
# Framed messages

A message that is hashed to make a seed is put together from parts. A text is preceded by its
length in bytes, so that no two lists of texts give the same message; a number takes eight bytes.

* `Part.bytes`, `message` lay the parts out behind a domain;
* `seedOf` is the seed in the first eight bytes of a hash;
* `sessionSeed` is the seed of a session that was given none.
-/

namespace Arcade.Framed

/-- A part of a message. -/
inductive Part where
  /-- a text behind its length -/
  | text (s : String)
  /-- a number of 64 bits -/
  | word (n : UInt64)
  /-- bytes as they are -/
  | raw (b : Bytes)

/-- The eight bytes of a word, least significant first. -/
def wordBytes (n : UInt64) : Bytes :=
  Bytes.ofNat 8 n.toNat

/-- The bytes of a text behind its length. -/
def textBytes (s : String) : Bytes :=
  Bytes.ofNat 8 (Bytes.ofText s).length ++ Bytes.ofText s

/-- The bytes of a part. -/
def Part.bytes : Part → Bytes
  | .text s => textBytes s
  | .word n => wordBytes n
  | .raw b => b

/-- The message of some parts behind a domain. -/
def message (domain : Bytes) (parts : List Part) : Bytes :=
  domain ++ parts.flatMap Part.bytes

/-- The seed in the first eight bytes of a hash, least significant first. -/
def seedOf (hash : Bytes) : UInt64 :=
  UInt64.ofNat (Bytes.toNat (hash.take 8))

/-- The domain of session seeds. -/
def seedDomain : Bytes :=
  Bytes.ofText "MOLTBLOX_SEED_V1"

/-- The parts of a session's seed: its id, how many players it seats, and their ids. -/
def sessionParts (session : String) (players : List String) : List Part :=
  .text session :: .word (UInt64.ofNat players.length) :: players.map .text

/-- The seed of a session that was given none. It depends on the id and on the seating alone. -/
def sessionSeed (session : String) (players : List String) : UInt64 :=
  seedOf (Sha256.digest (message seedDomain (sessionParts session players)))

end Arcade.Framed
