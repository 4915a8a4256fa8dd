import Arcade.Build.Toolchain
import Arcade.Json.Printer
/-!
# Envelopes

The built-in toolchain leaves a source as it is and puts it in an envelope: a mark of four bytes,
the size of the source in four more, and its UTF-8 bytes. Sources that fit get envelopes of their
own, and equal sources get equal ones.

* `Envelope.wrap?` makes an envelope, unless the size does not fit;
* `Envelope.unwrap?` takes the source out again; what follows it does not matter.
-/

namespace Arcade.Build

namespace Envelope

/-- The mark at the front of an envelope. -/
def mark : Bytes := [0x4D, 0x42, 0x58, 0x31]

/-- How many bytes the size takes. -/
def sizeWidth : Nat := 4

/-- The envelope of a source. -/
def wrap? (source : String) : Option Bytes :=
  let content := Bytes.ofText source
  if content.length ≤ Words.max32 then
    some (mark ++ Bytes.ofNat sizeWidth content.length ++ content)
  else none

/-- The source in an envelope. -/
def unwrap? (b : Bytes) : Option String := do
  let (start, b) ← b.splitAt? mark.length
  let (size, b) ← b.splitAt? sizeWidth
  let (content, _) ← b.splitAt? size.toNat
  if start = mark then content.toText? else none

/-- The source map of an envelope, which maps nothing. -/
def sourceMap : String :=
  (Json.obj [("mappings", .str ""), ("names", .arr []), ("sources", .strs ["submission"]),
    ("version", .nat 3)]).text

/-- What is said of a source that does not fit. -/
def tooLarge (size : Nat) : String :=
  "source of " ++ toString size ++ " bytes does not fit an envelope"

end Envelope

/-- The toolchain that puts sources in envelopes. -/
def Toolchain.envelope : Toolchain where
  name := "envelope"
  build source :=
    match Envelope.wrap? source with
    | some bytes => .ok ⟨bytes, some Envelope.sourceMap⟩
    | none => .error (.failed "envelope" "refused" (Envelope.tooLarge source.utf8ByteSize))

end Arcade.Build
