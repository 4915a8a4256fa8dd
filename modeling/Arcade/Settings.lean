import Arcade.Number.Words
import Arcade.Text.Blank
import Arcade.Text.Quoted
import Arcade.Text.Word
/-!
# Settings

Limits and policies of the host, read from named values such as environment variables. Names that
are not set keep their defaults; the first value in the order of the fields that cannot be read is
an error that repeats it.
-/

namespace Arcade

/-- The limits of a review. -/
structure ReviewLimits where
  /-- sources of more bytes are refused outright -/
  maxCodeSize : Nat := 500000
  /-- a complexity above this is a warning -/
  maxComplexity : Nat := 100
  deriving DecidableEq, Repr

/-- The policy of a build. -/
structure BuildPolicy where
  /-- whether warnings block -/
  strict : Bool := true
  /-- whether the imports of modules are checked -/
  enforceImports : Bool := true
  deriving DecidableEq, Repr

/-- All settings of the host. -/
structure Settings where
  limits : ReviewLimits := {}
  policy : BuildPolicy := {}
  /-- frames per second for games that ask for none -/
  tickRate : Nat := 60
  deriving DecidableEq, Repr

namespace Settings

/-- What a value should have been. -/
inductive Expectation where
  | number
  | flag
  | positiveRate
  deriving DecidableEq, Repr

def Expectation.text : Expectation → String
  | .number => "expected a non-negative integer"
  | .flag => "expected true/false"
  | .positiveRate => "tick rate must be positive"

/-- A value that cannot be read. -/
structure Invalid where
  key : String
  value : String
  expectation : Expectation
  deriving DecidableEq, Repr

/-- The wording of an unreadable value. -/
def Invalid.message (e : Invalid) : String :=
  "invalid value for " ++ e.key ++ ": " ++ Text.Quoted.quote e.value ++ " ("
    ++ e.expectation.text ++ ")"

/-- The number that some digits write, if it is at most `limit`. -/
def digitsValue? (limit : Nat) : List Char → (soFar : Nat) → Option Nat
  | [], n => some n
  | c :: rest, n =>
    if Text.isAsciiDigit c then
      let m := 10 * n + (c.toNat - 48)
      if m ≤ limit then digitsValue? limit rest m else none
    else none

/-- A natural number up to `limit`: digits, with a plus sign before them or not. -/
def number? (limit : Nat) (s : String) : Option Nat :=
  match (Text.trim s).toList with
  | [] => none
  | ['+'] => none
  | '+' :: digits => digitsValue? limit digits 0
  | digits => digitsValue? limit digits 0

/-- A flag: one of four words for each value, in any case. -/
def flag? (s : String) : Option Bool :=
  let word := Text.asciiLowerText (Text.trim s)
  if ["1", "true", "yes", "on"].contains word then some true
  else if ["0", "false", "no", "off"].contains word then some false
  else none

/-- Reads the value of a key with `parse`, if there is one. -/
def readWith {α : Type} (lookup : String → Option String) (key : String) (standard : α)
    (parse : String → Option α) (expectation : Expectation) : Except Invalid α :=
  match lookup key with
  | none => .ok standard
  | some value =>
    match parse value with
    | some a => .ok a
    | none => .error ⟨key, value, expectation⟩

/-- Reads all settings. -/
def ofLookup (lookup : String → Option String) : Except Invalid Settings := do
  let word := Words.max32
  let maxCodeSize ← readWith lookup "MOLTBLOX_MAX_CODE_SIZE" 500000 (number? Words.max64) .number
  let maxComplexity ← readWith lookup "MOLTBLOX_MAX_COMPLEXITY" 100 (number? word) .number
  let strict ← readWith lookup "MOLTBLOX_STRICT" true flag? .flag
  let enforceImports ← readWith lookup "MOLTBLOX_ENFORCE_IMPORTS" true flag? .flag
  let tickRate ← readWith lookup "MOLTBLOX_TICK_RATE" 60 (number? word) .number
  if tickRate = 0 then .error ⟨"MOLTBLOX_TICK_RATE", "0", .positiveRate⟩
  else .ok ⟨⟨maxCodeSize, maxComplexity⟩, ⟨strict, enforceImports⟩, tickRate⟩

end Settings

end Arcade
