import Arcade.Settings
import Arcade.Submission.Capability
import Arcade.Submission.Comments
import Arcade.Submission.Metrics
/-!
# Reviewing a submission

From the text alone a review decides whether a submission may be built. It collects issues in this
order and is safe if none of them is an error:

1. the size, which alone decides if it is too large;
2. an error for each forbidden rule that matches the text as handed in, with the line of the match;
3. an error for each required property and method that the text without comments does not define;
4. a warning if no module marker is declared;
5. a warning if the complexity is above the limit.
-/

namespace Arcade.Submission

/-- How grave an issue is. -/
inductive Severity where
  /-- a remark -/
  | info
  /-- blocks a strict build -/
  | warning
  /-- blocks every build -/
  | error
  deriving DecidableEq, Repr

/-- What an issue is about. -/
inductive Category where
  | size
  | security (capability : Capability)
  | interface
  | complexity
  deriving DecidableEq, Repr

/-- A finding of a review. -/
structure Issue where
  severity : Severity
  category : Category
  message : String
  /-- the line of the first occurrence, from one, where there is one -/
  line : Option Nat := none
  deriving DecidableEq, Repr

/-- The verdict on a submission. -/
structure Analysis where
  /-- whether no issue is an error -/
  safe : Bool
  issues : List Issue
  metrics : Metrics
  deriving DecidableEq, Repr

namespace Analysis

/-- The verdict that some issues lead to. -/
def ofIssues (issues : List Issue) (metrics : Metrics) : Analysis :=
  ⟨issues.all fun i => i.severity ≠ .error, issues, metrics⟩

/-- The messages of the issues of one severity. -/
def messages (a : Analysis) (severity : Severity) : List String :=
  (a.issues.filter fun i => i.severity = severity).map Issue.message

def errors (a : Analysis) : List String := a.messages .error
def warnings (a : Analysis) : List String := a.messages .warning

/-- The issues about required members and the marker. -/
def interfaceIssues (a : Analysis) : List Issue :=
  a.issues.filter fun i => i.category = .interface

end Analysis

/-- The line, from one, of a place in a text. -/
def lineOf (p : Place) : Nat :=
  p.before.count '\n' + 1

/-- The issue that a forbidden rule raises on a text. -/
def ForbiddenRule.issue? (rule : ForbiddenRule) (source : List Char) : Option Issue :=
  (rule.pattern.find? source).map fun m =>
    ⟨.error, .security rule.capability, rule.message, some (lineOf m.1)⟩

/-- The issue that a missing member raises. -/
def RequiredMember.issue? (kind : String) (m : RequiredMember) (code : List Char) : Option Issue :=
  if m.pattern.isIn code then none
  else some { severity := .error, category := .interface,
              message := "Missing required " ++ kind ++ ": " ++ m.signature }

/-- The issue of a source that is too large. -/
def sizeIssue (size limit : Nat) : Issue :=
  { severity := .error, category := .size,
    message := "Code size " ++ toString size ++ " bytes exceeds maximum of " ++ toString limit
      ++ " bytes" }

/-- The issue of a text that declares no marker. -/
def markerIssues (code : List Char) : List Issue :=
  if markerPattern.isIn code then []
  else [{ severity := .warning, category := .interface, message := missingMarker }]

/-- The issue of a complexity above the limit. -/
def complexityIssues (complexity limit : Nat) : List Issue :=
  if limit < complexity then
    [{ severity := .warning, category := .complexity,
       message := "Cyclomatic complexity " ++ toString complexity ++ " exceeds maximum of "
         ++ toString limit }]
  else []

/-- Reviews a submission. -/
def review (limits : ReviewLimits) (source : String) : Analysis :=
  if limits.maxCodeSize < source.utf8ByteSize then
    .ofIssues [sizeIssue source.utf8ByteSize limits.maxCodeSize] {}
  else
    let code := stripComments source
    let metrics := measure source code
    .ofIssues
      (forbiddenRules.filterMap (·.issue? source.toList)
        ++ requiredProperties.filterMap (·.issue? "property" code.toList)
        ++ requiredMethods.filterMap (·.issue? "method" code.toList)
        ++ markerIssues code.toList
        ++ complexityIssues metrics.complexity.toNat limits.maxComplexity)
      metrics

/-- Reviews a submission in a build that checks its sums. -/
def review? (limits : ReviewLimits) (source : String) : Option Analysis :=
  if limits.maxCodeSize < source.utf8ByteSize then some (review limits source)
  else (complexity? (stripComments source)).map fun _ => review limits source

/-! ### Reviews as documents -/

def Severity.name : Severity → String
  | .info => "info"
  | .warning => "warning"
  | .error => "error"

def Severity.names : List (String × Severity) :=
  [Severity.info, .warning, .error].map fun s => (s.name, s)

def Category.toJson : Category → Json
  | .size => .str "size"
  | .security c => .obj [("security", .str c.name)]
  | .interface => .str "interface"
  | .complexity => .str "complexity"

/-- Reads a category: a name, or an object whose only field is the name. -/
def Category.decode : Json.Reading → Json.Decoded Category
  | .obj [("security", r)] .closed => (Json.Decode.variant Capability.names r).map .security
  | r => Json.Decode.variant
      [("size", Category.size), ("interface", .interface), ("complexity", .complexity)] r

def Issue.toJson (i : Issue) : Json :=
  .obj ([("severity", .str i.severity.name), ("category", i.category.toJson),
    ("message", .str i.message)]
    ++ match i.line with
      | some n => [("line", .nat n)]
      | none => [])

def Analysis.toJson (a : Analysis) : Json :=
  .obj [("safe", .bool a.safe), ("issues", .arr (a.issues.map Issue.toJson)),
    ("metrics", a.metrics.toJson)]

/-- The fields of an issue under construction. -/
structure Issue.Draft where
  severity : Option Severity := none
  category : Option Category := none
  message : Option String := none
  line : Option Nat := none

/-- The record of an issue. -/
def Issue.schema : Json.Schema Issue.Draft Issue where
  name := "Issue"
  fields := [
    .of "severity" false (Json.Decode.variant Severity.names) fun x d =>
      { d with severity := some x },
    .of "category" false Category.decode fun x d => { d with category := some x },
    .of "message" false Json.Decode.str fun x d => { d with message := some x },
    .of "line" true (Json.Decode.nullable Json.Decode.nat) fun x d => { d with line := x }]
  strict := false
  start := {}
  finish d := do
    let severity ← Json.required "severity" d.severity
    let category ← Json.required "category" d.category
    let message ← Json.required "message" d.message
    .ok ⟨severity, category, message, d.line⟩

/-- The fields of a verdict under construction. -/
structure Analysis.Draft where
  safe : Option Bool := none
  issues : Option (List Issue) := none
  metrics : Option Metrics := none

/-- The record of a verdict. -/
def Analysis.schema : Json.Schema Analysis.Draft Analysis where
  name := "Analysis"
  fields := [
    .of "safe" false Json.Decode.bool fun x d => { d with safe := some x },
    .of "issues" false (Json.Decode.list Issue.schema.decode) fun x d =>
      { d with issues := some x },
    .of "metrics" false Metrics.schema.decode fun x d => { d with metrics := some x }]
  strict := false
  start := {}
  finish d := do
    let safe ← Json.required "safe" d.safe
    let issues ← Json.required "issues" d.issues
    let metrics ← Json.required "metrics" d.metrics
    .ok ⟨safe, issues, metrics⟩

end Arcade.Submission
