import Arcade.Pattern
import Arcade.Json.Decode
import Arcade.Number.Checked
import Arcade.Submission.Member
/-!
# Measuring a submission

Counts of lines, functions, types and branches. Lines are counted in the text as handed in, all else
in the text without comments.

* `complexity` is one more than the number of branch keywords and conditional operators, in a 32-bit
  word;
* `measure` puts all counts together with an estimate of the memory a module will need.
-/

namespace Arcade.Submission

open Arcade.Pattern
open Arcade.Text (isWord isAsciiLetter)

/-- The measurements of a submission. -/
structure Metrics where
  lines : Nat := 0
  functions : Nat := 0
  types : Nat := 0
  complexity : UInt32 := 0
  /-- bytes -/
  estimatedMemory : Nat := 0
  deriving DecidableEq, Repr

/-- A keyword that opens a branch. -/
def branchPattern : Pattern :=
  wholeWord (anyLit ["if", "for", "while", "case", "catch"])

/-- The first character of a name. -/
def isNameStart (c : Char) : Bool :=
  isAsciiLetter c || c == '_' || c == '$'

/-- A name. -/
def identifier : Pattern :=
  .seq (.one isNameStart) (.run fun c => isWord c || c == '$')

/-- A function, an arrow, or a name with parameters and a body at the start of a line. -/
def functionPattern : Pattern :=
  any [
    wholeWord (lit "function"),
    lit "=>",
    all [.lineStart, blanks,
      .many (.seq (anyLit ["public", "private", "protected", "static", "async", "override",
        "readonly"]) blanks1),
      identifier, blanks, parenthesised, blanks, opt (.seq (lit ":") (upTo "\x7b;=")), lit "\x7b"]]

/-- The declaration of a type. -/
def typePattern : Pattern :=
  all [.wordEdge, anyLit ["class", "interface", "type", "enum"], blanks1, identifier]

/-- Keywords that look like the name of a function in front of parentheses and a body. -/
def controlKeywords : List String :=
  ["if", "for", "while", "switch", "catch", "return"]

/-- Whether a text begins with a keyword that no letter, number or underscore prolongs. -/
def beginsWith (keyword : List Char) (cs : List Char) : Bool :=
  keyword.isPrefixOf cs
    && !((cs.drop keyword.length).head?.any fun c => Text.isAlphanumeric c || c == '_')

/-- How many functions a text defines. What begins with a control keyword is none. -/
def countFunctions (code : List Char) : Nat :=
  (functionPattern.findAll code).countP fun (start, _) =>
    !controlKeywords.any fun k => beginsWith k.toList (Text.trimStart start.after)

/-- Characters that, after a question mark, make it something else than a conditional operator. -/
def endsQuestion (c : Char) : Bool :=
  c == '.' || c == '?' || c == ':' || c == ')' || c == ',' || c == '='

/-- How many conditional operators a text has, given the character before it. -/
def countTernaries : (previous : Char) → List Char → Nat
  | _, [] => 0
  | previous, c :: rest =>
    (if c == '?' && previous != '?' && !rest.head?.any endsQuestion then 1 else 0)
      + countTernaries c rest

/-- How many branches a text has. -/
def countBranches (code : List Char) : Nat :=
  (branchPattern.findAll code).length + countTernaries ' ' code

/-- A number of branches in a word, before one is added. -/
def heldBranches (branches : Nat) : UInt32 :=
  UInt32.ofNat (if branches ≤ Words.max32 then branches else Words.max32 - 1)

/-- The complexity of some branches, in a word: one more than their number, as far as that fits. -/
def complexityOfBranches (branches : Nat) : UInt32 :=
  1 + heldBranches branches

/-- The complexity of a text without comments. -/
def complexity (code : String) : UInt32 :=
  complexityOfBranches (countBranches code.toList)

/-- The complexity of a text without comments, in a build that checks its sums. -/
def complexity? (code : String) : Option UInt32 :=
  Checked.next32? (heldBranches (countBranches code.toList))

/-- How many lines a text has. A line end at its end begins no further line. -/
def countLines (cs : List Char) : Nat :=
  cs.count '\n' + (match cs.getLast? with
    | none => 0
    | some c => if c = '\n' then 0 else 1)

/-- Measures a submission, given its text with and without comments. -/
def measure (source code : String) : Metrics :=
  let functions := countFunctions code.toList
  { lines := countLines source.toList
    functions := functions
    types := (typePattern.findAll code.toList).length
    complexity := complexity code
    estimatedMemory := source.utf8ByteSize * 4 + functions * 512 }

/-- The record of some measurements. -/
def Metrics.toJson (m : Metrics) : Json :=
  .obj [("lines", .nat m.lines), ("functions", .nat m.functions), ("types", .nat m.types),
    ("complexity", .nat m.complexity.toNat), ("estimatedMemory", .nat m.estimatedMemory)]

/-- The fields of measurements under construction. -/
structure Metrics.Draft where
  lines : Option Nat := none
  functions : Option Nat := none
  types : Option Nat := none
  complexity : Option UInt32 := none
  estimatedMemory : Option Nat := none

/-- The record of some measurements. -/
def Metrics.schema : Json.Schema Metrics.Draft Metrics where
  name := "Metrics"
  fields := [
    .of "lines" false Json.Decode.nat fun n d => { d with lines := some n },
    .of "functions" false Json.Decode.nat fun n d => { d with functions := some n },
    .of "types" false Json.Decode.nat fun n d => { d with types := some n },
    .of "complexity" false Json.Decode.uint32 fun n d => { d with complexity := some n },
    .of "estimatedMemory" false Json.Decode.nat fun n d => { d with estimatedMemory := some n }]
  strict := false
  start := {}
  finish d := do
    let lines ← Json.required "lines" d.lines
    let functions ← Json.required "functions" d.functions
    let types ← Json.required "types" d.types
    let complexity ← Json.required "complexity" d.complexity
    let estimatedMemory ← Json.required "estimatedMemory" d.estimatedMemory
    .ok ⟨lines, functions, types, complexity, estimatedMemory⟩

end Arcade.Submission
