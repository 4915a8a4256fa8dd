import Arcade.Text.Word
import Arcade.Wasm.Module
/-!
# The import policy

What a module may take from the host: imports of allowed modules only, and none whose name
contains a denied fragment, in whichever case its letters are. This check stands behind the
review of the text, on what a toolchain has really built.
-/

namespace Arcade.Wasm

/-- Whether some text occurs within another. -/
def occursIn (part : List Char) : List Char → Bool
  | [] => part.isEmpty
  | c :: rest => part.isPrefixOf (c :: rest) || occursIn part rest

/-- The fragments of names that are refused unless said otherwise: those of connections, files,
clocks and chance. -/
def standardDenied : List String := [
  "fetch", "socket", "http", "net", "fd_", "path_", "file", "fs_", "clock", "time", "now", "random",
  "proc_", "process", "environ", "args_", "sock_", "poll_oneoff"]

/-- Which imports are let through. -/
structure ImportPolicy where
  /-- the modules that imports may come from -/
  allowedModules : List String := ["env"]
  /-- fragments in lower case that no name may contain -/
  deniedFragments : List String := standardDenied
  deriving DecidableEq, Repr

/-- Why a module may not be linked. -/
inductive Violation where
  | malformed (m : Malformed)
  /-- the first import that is refused -/
  | forbidden (i : HostImport)
  deriving DecidableEq, Repr

def Violation.message : Violation → String
  | .malformed m => "Malformed module: " ++ m.reason
  | .forbidden i => "Forbidden host import: " ++ i.source ++ "." ++ i.name

namespace ImportPolicy

/-- Whether an import is let through. -/
def permits (p : ImportPolicy) (i : HostImport) : Bool :=
  p.allowedModules.contains i.source
    && !p.deniedFragments.any fun f => occursIn f.toList (Text.asciiLowerText i.name).toList

/-- Lets imports through, up to the first that is refused. -/
def check (p : ImportPolicy) (imports : List HostImport) : Except Violation Unit :=
  match imports.find? fun i => !p.permits i with
  | some i => .error (.forbidden i)
  | none => .ok ()

/-- Checks what a toolchain has built. What is no module has no imports. -/
def checkBuilt (p : ImportPolicy) (b : Bytes) : Except Violation Unit :=
  if isWasm b then
    match imports b with
    | .ok found => p.check found
    | .error m => .error (.malformed m)
  else .ok ()

end ImportPolicy

end Arcade.Wasm
