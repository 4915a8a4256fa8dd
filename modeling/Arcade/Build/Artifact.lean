import Arcade.Build.Toolchain
import Arcade.Digest.ContentHash
import Arcade.Json.Decode
/-!
# Artifacts

What a build has made, with the hash by which it is known. The stored form lays the fields out
one after the other: bytes and texts with their length in eight bytes before them, an optional
text with a byte that says whether it is there, and the time in eight bytes. Bytes after the last
field do not matter.

What comes out of a store is checked against its hash before anything else is done with it
(`Artifact.load`).
-/

namespace Arcade.Build

/-- What a build has made. -/
structure Artifact where
  bytes : Bytes
  /-- the hash string of the bytes -/
  contentHash : String
  sourceMap : Option String
  /-- the toolchain that has made it -/
  toolchain : String
  /-- when it was made, in milliseconds -/
  compiledAt : Int64
  deriving DecidableEq

/-- Why an artifact must be thrown away. -/
inductive Corrupt where
  /-- the bytes are not those of the hash -/
  | hashMismatch (expected actual : String)
  /-- the stored form cannot be read -/
  | unreadable
  deriving DecidableEq, Repr

def Corrupt.message : Corrupt → String
  | .hashMismatch expected actual =>
    "content hash mismatch: expected " ++ expected ++ ", got " ++ actual
  | .unreadable => "artifact decode failed"

namespace Artifact

/-- The artifact of a product. -/
def ofProduct (toolchain : String) (now : Int64) (p : Product) : Artifact :=
  ⟨p.bytes, ContentHash.ofBytes p.bytes, p.sourceMap, toolchain, now⟩

/-- Checks the bytes against the hash. -/
def verify (a : Artifact) : Except Corrupt Unit :=
  if ContentHash.verify a.bytes a.contentHash then .ok ()
  else .error (.hashMismatch a.contentHash (ContentHash.ofBytes a.bytes))

/-! ### The stored form -/

/-- How many bytes lengths and times take. -/
def wordWidth : Nat := 8

/-- Bytes with their length before them. -/
def storeBytes (b : Bytes) : Bytes :=
  Bytes.ofNat wordWidth b.length ++ b

/-- A text with the length of its bytes before it. -/
def storeText (s : String) : Bytes :=
  storeBytes (Bytes.ofText s)

/-- An optional text: zero if there is none, else one and the text. -/
def storeOption : Option String → Bytes
  | none => [0]
  | some s => 1 :: storeText s

/-- An integer with a sign. -/
def storeInt (n : Int64) : Bytes :=
  Bytes.ofNat wordWidth n.toUInt64.toNat

/-- The stored form of an artifact. -/
def store (a : Artifact) : Bytes :=
  storeBytes a.bytes ++ storeText a.contentHash ++ storeOption a.sourceMap
    ++ storeText a.toolchain ++ storeInt a.compiledAt

/-- Takes bytes with their length before them off the front. -/
def loadBytes (b : Bytes) : Option (Bytes × Bytes) := do
  let (size, b) ← b.splitAt? wordWidth
  b.splitAt? size.toNat

/-- Takes a text off the front. -/
def loadText (b : Bytes) : Option (String × Bytes) := do
  let (content, b) ← loadBytes b
  let s ← content.toText?
  some (s, b)

/-- Takes an optional text off the front. -/
def loadOption : Bytes → Option (Option String × Bytes)
  | [] => none
  | tag :: b =>
    if tag == 0 then some (none, b)
    else if tag == 1 then (loadText b).map fun r => (some r.1, r.2)
    else none

/-- Takes an integer with a sign off the front. -/
def loadInt (b : Bytes) : Option (Int64 × Bytes) := do
  let (word, b) ← b.splitAt? wordWidth
  some ((UInt64.ofNat word.toNat).toInt64, b)

/-- The artifact at the front of some bytes, unchecked. -/
def loadFields (b : Bytes) : Option Artifact := do
  let (bytes, b) ← loadBytes b
  let (contentHash, b) ← loadText b
  let (sourceMap, b) ← loadOption b
  let (toolchain, b) ← loadText b
  let (compiledAt, _) ← loadInt b
  some ⟨bytes, contentHash, sourceMap, toolchain, compiledAt⟩

/-- The artifact of a stored form. -/
def load (b : Bytes) : Except Corrupt Artifact :=
  match loadFields b with
  | none => .error .unreadable
  | some a => a.verify.map fun _ => a

/-! ### Artifacts as documents -/

/-- The artifact as a record, its bytes as a list. -/
def toJson (a : Artifact) : Json :=
  .obj [("bytes", .arr (a.bytes.map fun b => .nat b.toNat)), ("contentHash", .str a.contentHash),
    ("sourceMap", .orNull (a.sourceMap.map .str)), ("toolchain", .str a.toolchain),
    ("compiledAt", .int a.compiledAt.toInt)]

/-- The fields of an artifact under construction. -/
structure Draft where
  bytes : Option Bytes := none
  contentHash : Option String := none
  sourceMap : Option String := none
  toolchain : Option String := none
  compiledAt : Option Int := none

/-- The record of an artifact. -/
def schema : Json.Schema Draft Artifact where
  name := "Artifact"
  fields := [
    .of "bytes" false (Json.Decode.list Json.Decode.uint8) fun x d => { d with bytes := some x },
    .of "contentHash" false Json.Decode.str fun x d => { d with contentHash := some x },
    .of "sourceMap" false (Json.Decode.nullable Json.Decode.str) fun x d =>
      { d with sourceMap := x },
    .of "toolchain" false Json.Decode.str fun x d => { d with toolchain := some x },
    .of "compiledAt" false Json.Decode.int64 fun x d => { d with compiledAt := some x }]
  strict := false
  start := {}
  finish d := do
    let bytes ← Json.required "bytes" d.bytes
    let contentHash ← Json.required "contentHash" d.contentHash
    let toolchain ← Json.required "toolchain" d.toolchain
    let compiledAt ← Json.required "compiledAt" d.compiledAt
    .ok ⟨bytes, contentHash, d.sourceMap, toolchain, Int64.ofInt compiledAt⟩

end Artifact

end Arcade.Build
