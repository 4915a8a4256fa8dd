import Arcade.Digest.Sha256
import Arcade.Text.Blank
import Arcade.Text.Hex
/-!
# Content hashes

The hash string of some bytes is the lower-case hexadecimal text of their SHA-256. A string is
checked against bytes in either case and with white space around it; anything that is not the text
of 32 bytes fails.
-/

namespace Arcade.ContentHash

/-- The hash string of some bytes. -/
def ofBytes (b : Bytes) : String :=
  Hex.encode (Sha256.digest b)

/-- The bitwise difference of two byte lists, gathered into one byte. -/
def difference (a b : Bytes) : UInt8 :=
  (a.zip b).foldl (fun acc p => acc ||| (p.1 ^^^ p.2)) 0

/-- Whether a hash string is one of the given bytes. -/
def verify (b : Bytes) (hash : String) : Bool :=
  match Hex.decode? (Text.trim hash) with
  | some expected => expected.length == 32 && difference (Sha256.digest b) expected == 0
  | none => false

/-- The first characters of a text while they fill no more than `n` bytes, if they fill exactly
`n`. -/
def bytesPrefix? : (n : Nat) → List Char → Option (List Char)
  | 0, _ => some []
  | _, [] => none
  | n, c :: rest =>
    if c.utf8Size ≤ n then (bytesPrefix? (n - c.utf8Size) rest).map (c :: ·) else none

/-- The first twelve bytes of a hash string, or all of it where there is no cut at twelve. -/
def short (hash : String) : String :=
  match bytesPrefix? 12 hash.toList with
  | some cs => String.ofList cs
  | none => hash

end Arcade.ContentHash
