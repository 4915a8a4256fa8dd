import Arcade.Pattern
/-!
# Forbidden capabilities

A submission must not reach for the network, for code made at run time, for files and processes, for
clocks and ambient chance, or for the global scope. Each `ForbiddenRule` is a pattern of such an
attempt with the message that a match raises. The rules are read on the text as it was handed in,
comments included.

Patterns cannot prove that a capability is absent: they are a first filter, and the import policy of
modules stands behind them.
-/

namespace Arcade.Submission

open Arcade.Pattern

/-- What a forbidden piece of text reaches for. -/
inductive Capability where
  /-- connections to the outside -/
  | network
  /-- code made at run time -/
  | dynamicCode
  /-- files and processes -/
  | fileSystem
  /-- clocks and ambient chance -/
  | nondeterminism
  /-- changes to the global scope -/
  | globalScope
  deriving DecidableEq, Repr

/-- The name of a capability in documents. -/
def Capability.name : Capability → String
  | .network => "network"
  | .dynamicCode => "dynamic_code"
  | .fileSystem => "file_system"
  | .nondeterminism => "nondeterminism"
  | .globalScope => "global_scope"

/-- Capabilities by their names. -/
def Capability.names : List (String × Capability) :=
  [Capability.network, .dynamicCode, .fileSystem, .nondeterminism, .globalScope].map
    fun c => (c.name, c)

/-- A pattern of text that no submission may contain. -/
structure ForbiddenRule where
  capability : Capability
  pattern : Pattern
  message : String

/-- A call of a function by its name. -/
def call (name : String) : Pattern :=
  all [.wordEdge, lit name, blanks, lit "("]

/-- A name as a whole word. -/
def mention (name : String) : Pattern :=
  wholeWord (lit name)

/-- A word, a dot, and what is taken from it. -/
def member (owner : Pattern) (taken : Pattern) : Pattern :=
  all [.wordEdge, owner, blanks, lit ".", blanks, taken]

/-- Any use of a name as an owner. -/
def ownerUse (name : String) : Pattern :=
  all [.wordEdge, lit name, blanks, lit "."]

/-- One of two quotes. -/
def importQuote : Pattern := oneOf "'\""

/-- An import of one of some modules. -/
def importOf (modules : List String) : Pattern :=
  all [.wordEdge, any [all [lit "require", blanks, lit "("], lit "from"], blanks, importQuote,
    opt (lit "node:"), anyLit modules, importQuote]

/-- The rules, in the order in which their messages are raised. -/
def forbiddenRules : List ForbiddenRule := [
  ⟨.network, call "fetch", "Network access via fetch() is not allowed"⟩,
  ⟨.network, mention "XMLHttpRequest", "Network access via XMLHttpRequest is not allowed"⟩,
  ⟨.network, mention "WebSocket", "Network access via WebSocket is not allowed"⟩,
  ⟨.network, mention "EventSource", "Network access via EventSource is not allowed"⟩,
  ⟨.network, member (lit "navigator") (all [lit "sendBeacon", .wordEdge]),
    "Network access via sendBeacon is not allowed"⟩,
  ⟨.network, importOf ["http", "https", "net", "dgram", "tls", "dns"],
    "Importing network modules is not allowed"⟩,
  ⟨.dynamicCode, call "eval", "Dynamic code evaluation via eval() is not allowed"⟩,
  ⟨.dynamicCode, all [.wordEdge, lit "new", blanks1, lit "Function", blanks, lit "("],
    "Dynamic code via new Function() is not allowed"⟩,
  ⟨.dynamicCode, all [.wordEdge, lit "set", anyLit ["Timeout", "Interval"], blanks, lit "(", blanks,
      oneOf "'\"\x60"],
    "String-evaluated timers are not allowed"⟩,
  ⟨.dynamicCode, call "import", "Dynamic import() is not allowed"⟩,
  ⟨.dynamicCode,
    member (lit "WebAssembly") (all [anyLit ["instantiate", "compile", "Module"], .wordEdge]),
    "Loading nested WebAssembly is not allowed"⟩,
  ⟨.fileSystem,
    importOf ["fs", "fs/promises", "child_process", "os", "worker_threads", "cluster", "vm"],
    "Filesystem or process modules are not allowed"⟩,
  ⟨.fileSystem,
    member (lit "process")
      (all [anyLit ["env", "exit", "argv", "cwd", "kill", "binding"], .wordEdge]),
    "Process access is not allowed"⟩,
  ⟨.fileSystem, ownerUse "Deno", "Runtime access via Deno is not allowed"⟩,
  ⟨.fileSystem, ownerUse "Bun", "Runtime access via Bun is not allowed"⟩,
  ⟨.nondeterminism, member (lit "Math") (all [lit "random", blanks, lit "("]),
    "Math.random() is non-deterministic; use the seeded RNG"⟩,
  ⟨.nondeterminism, member (lit "Date") (all [lit "now", blanks, lit "("]),
    "Date.now() is non-deterministic"⟩,
  ⟨.nondeterminism,
    all [.wordEdge, lit "new", blanks1, lit "Date", blanks, lit "(", blanks, lit ")"],
    "new Date() is non-deterministic"⟩,
  ⟨.nondeterminism, member (lit "performance") (all [lit "now", blanks, lit "("]),
    "performance.now() is non-deterministic"⟩,
  ⟨.nondeterminism,
    member (lit "crypto") (all [anyLit ["getRandomValues", "randomUUID"], .wordEdge]),
    "crypto randomness is non-deterministic"⟩,
  ⟨.globalScope, mention "globalThis", "Access to globalThis is not allowed"⟩,
  ⟨.globalScope, ownerUse "window", "Access to window is not allowed"⟩,
  ⟨.globalScope, ownerUse "global", "Access to global is not allowed"⟩,
  ⟨.globalScope, ownerUse "document", "Access to document is not allowed"⟩,
  ⟨.globalScope, lit "__proto__", "Prototype mutation via __proto__ is not allowed"⟩,
  ⟨.globalScope,
    member (anyLit ["Object", "Array", "Function", "String"]) (all [lit "prototype", .wordEdge]),
    "Built-in prototype mutation is not allowed"⟩]

end Arcade.Submission
