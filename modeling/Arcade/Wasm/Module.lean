import Arcade.Json.Decode
import Arcade.Wasm.Binary
/-!
# The imports of a module

A module is a header of eight bytes and then sections, each with a number, its size and its content.
Reading the imports walks all sections: those of imports are read in full and give their entries, in
order; of the others only what their frame promises is looked at.

* `importEntry` reads one entry: two names, the kind, and the type that goes with the kind;
* `sectionImports` reads the content of one section;
* `sections` walks the module, `imports` does so behind the header.
-/

namespace Arcade.Wasm

/-- What an import binds. -/
inductive ImportKind where
  | func
  | table
  | memory
  | global
  | tag
  deriving DecidableEq, Repr

def ImportKind.name : ImportKind → String
  | .func => "func"
  | .table => "table"
  | .memory => "memory"
  | .global => "global"
  | .tag => "tag"

def ImportKind.names : List (String × ImportKind) :=
  [ImportKind.func, .table, .memory, .global, .tag].map fun k => (k.name, k)

/-- One import of a module. -/
structure HostImport where
  /-- the module it comes from -/
  source : String
  name : String
  kind : ImportKind
  deriving DecidableEq, Repr

/-- Why the imports of a module are not known. -/
inductive Malformed where
  | missingHeader
  /-- the sections cannot be read -/
  | unreadable
  deriving DecidableEq, Repr

def Malformed.reason : Malformed → String
  | .missingHeader => "missing WASM header"
  | .unreadable => "unreadable section"

/-- The header of every module: the magic number, and version one. -/
def header : Bytes := [0x00, 0x61, 0x73, 0x6D, 0x01, 0x00, 0x00, 0x00]

/-- Whether some bytes begin like a module. -/
def isWasm (b : Bytes) : Bool :=
  header.isPrefixOf b

/-! ### Types -/

/-- Whether a byte is an abstract type that references point to. -/
def isAbstract (b : UInt8) : Bool :=
  0x68 ≤ b && b ≤ 0x75

/-- The largest index of a type that references may name. -/
def maxTypeIndex : Nat := 1048575

/-- The index of a type. It is read as a number with a sign, so that bit 6 of its last byte, where
that is not the fifth, makes it negative, and then it is no index. -/
def typeIndex : Reader Unit := fun b =>
  match var32 b with
  | some (n, rest) =>
    let last := b[b.length - rest.length - 1]?.getD 0
    if n ≤ maxTypeIndex && last < 0x40 then some ((), rest) else none
  | none => none

/-- The type of what a reference points to: an abstract type, the mark of a shared one and such a
type, or the index of a type. -/
def heapType : Reader Unit
  | [] => none
  | b :: rest =>
    if isAbstract b then some ((), rest)
    else if b == 0x65 then
      match rest with
      | c :: rest => if isAbstract c then some ((), rest) else none
      | [] => none
    else typeIndex (b :: rest)

/-- A reference type: a mark of what may be null, which may be left out, and what it points to. -/
def referenceType : Reader Unit
  | [] => none
  | b :: rest => if b == 0x63 || b == 0x64 then heapType rest else heapType (b :: rest)

/-- The type of a value: a number, a vector or a reference. -/
def valueType : Reader Unit
  | [] => none
  | b :: rest =>
    if 0x7B ≤ b && b ≤ 0x7F then some ((), rest) else referenceType (b :: rest)

/-- The bounds of a table or a memory. Bit 0 of the flags says that there is an upper one, bit 2
that both are wide, and bit 3, for memories, that a page size follows. -/
def limits (mask : UInt8) : Reader Unit := fun b => do
  let (flags, b) ← byte b
  if flags &&& mask != flags then none
  else
    let width := if flags &&& 4 == 4 then 64 else 32
    let (_, b) ← varNat width b
    let (_, b) ← if flags &&& 1 == 1 then varNat width b else some (0, b)
    let (_, b) ← if flags &&& 8 == 8 then var32 b else some (0, b)
    some ((), b)

/-- The type that goes with a kind of import. -/
def importType : ImportKind → Reader Unit
  | .func, b => do
    let (_, b) ← var32 b
    some ((), b)
  | .table, b => do
    let (_, b) ← referenceType b
    limits 7 b
  | .memory, b => limits 15 b
  | .global, b => do
    let (_, b) ← valueType b
    let (flags, b) ← byte b
    if flags ≤ 3 then some ((), b) else none
  | .tag, b => do
    let (detail, b) ← byte b
    let (_, b) ← var32 b
    if detail == 0 then some ((), b) else none

/-- The kind that a byte stands for. -/
def importKind? (b : UInt8) : Option ImportKind :=
  if b == 0 then some .func
  else if b == 1 then some .table
  else if b == 2 then some .memory
  else if b == 3 then some .global
  else if b == 4 then some .tag
  else none

/-- One import. -/
def importEntry : Reader HostImport := fun b => do
  let (source, b) ← name b
  let (field, b) ← name b
  let (tag, b) ← byte b
  let kind ← importKind? tag
  let (_, b) ← importType kind b
  some (⟨source, field, kind⟩, b)

/-! ### Sections -/

/-- The body of a function: a size and as many bytes. -/
def functionBody : Reader Unit := fun b => do
  let (size, b) ← var32 b
  let (_, b) ← b.splitAt? size
  some ((), b)

/-- The number of the section of imports. -/
def importSectionId : UInt8 := 2

/-- Whether a section starts with a count of entries that are not looked at. -/
def isCounted (id : UInt8) : Bool :=
  id == 1 || id == 3 || id == 4 || id == 5 || id == 6 || id == 7 || id == 9 || id == 11 || id == 13

/-- The imports in the content of a section. A section of an unknown number has none. -/
def sectionImports (id : UInt8) (content : Bytes) : Option (List HostImport) :=
  if id == importSectionId then whole (vector importEntry) content
  else if id == 0 then (name content).map fun _ => []
  else if id == 8 || id == 12 then (whole var32 content).map fun _ => []
  else if id == 10 then (whole (vector functionBody) content).map fun _ => []
  else if isCounted id then (var32 content).map fun _ => []
  else some []

/-- The imports of all sections, in order. Every section takes at least two bytes, so the number of
bytes bounds the number of sections. -/
def sections : (fuel : Nat) → Bytes → Option (List HostImport)
  | _, [] => some []
  | 0, _ :: _ => none
  | fuel + 1, id :: b =>
    if id < 0x80 then do
      let (size, b) ← var32 b
      let (content, b) ← b.splitAt? size
      let found ← sectionImports id content
      let more ← sections fuel b
      some (found ++ more)
    else none

/-- The imports of a module. -/
def imports (b : Bytes) : Except Malformed (List HostImport) :=
  if isWasm b then
    let body := b.drop header.length
    match sections body.length body with
    | some found => .ok found
    | none => .error .unreadable
  else .error .missingHeader

/-! ### Imports as documents -/

def HostImport.toJson (i : HostImport) : Json :=
  .obj [("module", .str i.source), ("name", .str i.name), ("kind", .str i.kind.name)]

/-- The fields of an import under construction. -/
structure HostImport.Draft where
  source : Option String := none
  name : Option String := none
  kind : Option ImportKind := none

/-- The record of an import. -/
def HostImport.schema : Json.Schema HostImport.Draft HostImport where
  name := "HostImport"
  fields := [
    .of "module" false Json.Decode.str fun x d => { d with source := some x },
    .of "name" false Json.Decode.str fun x d => { d with name := some x },
    .of "kind" false (Json.Decode.variant ImportKind.names) fun x d => { d with kind := some x }]
  strict := false
  start := {}
  finish d := do
    let source ← Json.required "module" d.source
    let name ← Json.required "name" d.name
    let kind ← Json.required "kind" d.kind
    .ok ⟨source, name, kind⟩

end Arcade.Wasm
