import Arcade.Build.Artifact
import Arcade.Build.Envelope
import Arcade.Submission.Review
import Arcade.Wasm.Policy
/-!
# Builds

A submission is built in three steps, each of which may refuse it:

1. the review: its errors block, and in a strict build its warnings too;
2. the toolchain, which is not asked unless the review lets the submission through;
3. the imports of what the toolchain has made, where the policy says so.

What is left is an artifact under its content hash.
-/

namespace Arcade.Build

open Submission (Analysis review)

/-- All that decides about a build. -/
structure Compiler where
  limits : ReviewLimits := {}
  policy : BuildPolicy := {}
  imports : Wasm.ImportPolicy := {}
  toolchain : Toolchain := .envelope

/-- How a build has ended. -/
inductive Outcome where
  | built (artifact : Artifact) (analysis : Analysis)
  /-- refused, with the messages that block it -/
  | rejected (errors : List String) (analysis : Analysis)
  deriving DecidableEq

namespace Outcome

/-- Whether there is an artifact. -/
def success : Outcome → Bool
  | .built _ _ => true
  | .rejected _ _ => false

/-- The messages that block, none if there is an artifact. -/
def errors : Outcome → List String
  | .built _ _ => []
  | .rejected errors _ => errors

def artifact? : Outcome → Option Artifact
  | .built artifact _ => some artifact
  | .rejected _ _ => none

def analysis : Outcome → Analysis
  | .built _ analysis => analysis
  | .rejected _ analysis => analysis

end Outcome

namespace Compiler

/-- The review alone. -/
def analyze (c : Compiler) (source : String) : Analysis :=
  review c.limits source

/-- The messages of a review that block. -/
def blocking (c : Compiler) (a : Analysis) : List String :=
  if c.policy.strict then a.errors ++ a.warnings else a.errors

/-- Checks the imports of what was made, where the policy says so. -/
def checkImports (c : Compiler) (p : Product) : Except Wasm.Violation Unit :=
  if c.policy.enforceImports then c.imports.checkBuilt p.bytes else .ok ()

/-- Builds a submission at some time. -/
def build (c : Compiler) (now : Int64) (source : String) : Outcome :=
  let analysis := c.analyze source
  let blocking := c.blocking analysis
  if !blocking.isEmpty then .rejected blocking analysis
  else
    match c.toolchain.build source with
    | .error fault => .rejected ["Compilation failed: " ++ fault.message] analysis
    | .ok product =>
      match c.checkImports product with
      | .error violation => .rejected [violation.message] analysis
      | .ok () => .built (.ofProduct c.toolchain.name now product) analysis

end Compiler

/-! ### Reports -/

/-- What is told of a build. -/
structure Report where
  success : Bool
  /-- the bytes in hexadecimal -/
  artifactBytes : Option String := none
  contentHash : Option String := none
  sourceMap : Option String := none
  errors : List String := []
  deriving DecidableEq, Repr

namespace Report

/-- The report of a build. -/
def ofOutcome (o : Outcome) : Report where
  success := o.success
  artifactBytes := o.artifact?.map fun a => Hex.encode a.bytes
  contentHash := o.artifact?.map Artifact.contentHash
  sourceMap := o.artifact?.bind Artifact.sourceMap
  errors := o.errors

/-- The report as a record, without the fields that say nothing. -/
def toJson (r : Report) : Json :=
  let text (name : String) (s : Option String) : List (String × Json) :=
    s.toList.map fun s => (name, .str s)
  .obj ([("success", .bool r.success)] ++ text "artifactBytes" r.artifactBytes
    ++ text "contentHash" r.contentHash ++ text "sourceMap" r.sourceMap
    ++ if r.errors.isEmpty then [] else [("errors", .strs r.errors)])

/-- The fields of a report under construction. -/
structure Draft where
  success : Option Bool := none
  artifactBytes : Option String := none
  contentHash : Option String := none
  sourceMap : Option String := none
  errors : List String := []

/-- The record of a report. -/
def schema : Json.Schema Draft Report where
  name := "Report"
  fields := [
    .of "success" false Json.Decode.bool fun x d => { d with success := some x },
    .of "artifactBytes" false (Json.Decode.nullable Json.Decode.str) fun x d =>
      { d with artifactBytes := x },
    .of "contentHash" false (Json.Decode.nullable Json.Decode.str) fun x d =>
      { d with contentHash := x },
    .of "sourceMap" false (Json.Decode.nullable Json.Decode.str) fun x d =>
      { d with sourceMap := x },
    .of "errors" true (Json.Decode.list Json.Decode.str) fun x d => { d with errors := x }]
  strict := false
  start := {}
  finish d := do
    let success ← Json.required "success" d.success
    .ok ⟨success, d.artifactBytes, d.contentHash, d.sourceMap, d.errors⟩

end Report

end Arcade.Build
