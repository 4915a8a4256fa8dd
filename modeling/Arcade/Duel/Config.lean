import Arcade.Play.State
/-!
# The configuration of a duel

The clock of a round, the wins that decide the match, and the health at the start of a round. All
three are positive.
-/

namespace Arcade.Duel

/-- Frames per second. -/
def tickRate : Nat := 60

/-- The configuration of a duel. -/
structure Config where
  roundSeconds : UInt32 := 60
  winsNeeded : UInt32 := 2
  health : Int32 := 100
  deriving DecidableEq, Repr

namespace Config

/-- Why options are refused. -/
inductive Fault where
  | unreadable (error : Json.DecodeError)
  | notPositive

def Fault.message : Fault → String
  | .unreadable error => error.message
  | .notPositive => "round_seconds, wins_needed and health must be positive"

def schema : Json.Schema Config Config where
  name := "DuelConfig"
  fields := [
    .of "round_seconds" true Json.Decode.uint32 fun n c => { c with roundSeconds := n },
    .of "wins_needed" true Json.Decode.uint32 fun n c => { c with winsNeeded := n },
    .of "health" true Json.Decode.int32 fun n c => { c with health := n }]
  strict := true
  start := {}
  finish := .ok

/-- Whether every value is positive. -/
def isPositive (c : Config) : Bool :=
  c.roundSeconds != 0 && c.winsNeeded != 0 && 0 < c.health

/-- The configuration that some options describe; `null` stands for the standard one. -/
def ofOptions (options : Json) : Except Fault Config :=
  if options.isNull then .ok {}
  else
    match schema.decode (.ofJson options) with
    | .error e => .error (.unreadable e)
    | .ok c => if c.isPositive then .ok c else .error .notPositive

/-- The frames of a round, at most what a 32-bit word holds. -/
def roundFrames (c : Config) : UInt32 :=
  UInt32.ofNat (min (c.roundSeconds.toNat * tickRate) Words.max32)

end Config

end Arcade.Duel
