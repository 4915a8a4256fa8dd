import Arcade.Json.Decode
import Arcade.Json.Printer
/-!
# The state of a game

What a session keeps of its game between two calls: how many actions were processed, the phase, and
the data of the game, a dictionary of document values. Names that begin with an underscore are kept
for the host and its injectors.

`Phase.canAdvanceTo` orders the phases; a phase is never left for an earlier one.
-/

namespace Arcade

/-- The id of a player, as the transport hands it out. -/
abbrev PlayerId := String

/-- The data of a game. -/
abbrev Data := Dict Json

namespace Play

/-- The name under which the configuration is kept in the data. -/
def configKey : String := "_config"

/-- The name under which the multiplier of the last action is kept in the data. -/
def multiplierKey : String := "_injectorMultiplier"

/-- The phase of a session. -/
inductive Phase where
  /-- created, not yet started -/
  | init
  /-- taking actions and ticks -/
  | playing
  /-- decided -/
  | ended
  deriving DecidableEq, Repr, Inhabited

/-- The place of a phase in the order. -/
def Phase.rank : Phase → Nat
  | .init => 0
  | .playing => 1
  | .ended => 2

/-- Whether a phase may follow another: itself or a later one. -/
def Phase.canAdvanceTo (p next : Phase) : Bool :=
  p.rank ≤ next.rank

def Phase.name : Phase → String
  | .init => "init"
  | .playing => "playing"
  | .ended => "ended"

def Phase.names : List (String × Phase) :=
  [Phase.init, .playing, .ended].map fun p => (p.name, p)

/-- The state of a game. -/
structure GameState where
  /-- how many actions were processed -/
  turn : UInt64
  phase : Phase
  data : Data
  deriving Inhabited

namespace GameState

/-- The state of a game that begins with some data. -/
def playing (data : Data) : GameState := ⟨0, .playing, data⟩

/-- Whether the game is decided. -/
def isEnded (s : GameState) : Bool := s.phase = .ended

/-- The state in another phase, if that may follow. -/
def advancePhase (s : GameState) (next : Phase) : GameState :=
  if s.phase.canAdvanceTo next then { s with phase := next } else s

/-- An integer of the data. -/
def int? (s : GameState) (key : String) : Option Int :=
  (Dict.get? s.data key).bind Json.asInt64?

/-- The multiplier of the last action, one if it had none. -/
def multiplier (s : GameState) : Float :=
  ((Dict.get? s.data multiplierKey).bind Json.asReal?).getD 1.0

/-- The state as a record. -/
def toJson (s : GameState) : Json :=
  .obj [("turn", .nat s.turn.toNat), ("phase", .str s.phase.name), ("data", .obj s.data)]

/-- The fields of a state under construction. -/
structure Draft where
  turn : Option UInt64 := none
  phase : Option Phase := none
  data : Option Data := none

/-- The record of a state. -/
def schema : Json.Schema Draft GameState where
  name := "GameState"
  fields := [
    .of "turn" false Json.Decode.uint64 fun x d => { d with turn := some x },
    .of "phase" false (Json.Decode.variant Phase.names) fun x d => { d with phase := some x },
    .of "data" false (Json.Decode.dict Json.Decode.json) fun x d => { d with data := some x }]
  strict := false
  start := {}
  finish d := do
    let turn ← Json.required "turn" d.turn
    let phase ← Json.required "phase" d.phase
    let data ← Json.required "data" d.data
    .ok ⟨turn, phase, data⟩

end GameState

/-- An injector that a configuration asks for. -/
structure InjectorSpec where
  name : String
  options : Json := .null

/-- The configuration of one game. -/
structure GameConfig where
  gameType : String := ""
  /-- lowers the number of seats -/
  maxPlayers : Option Nat := none
  /-- in the order in which they act -/
  injectors : List InjectorSpec := []
  options : Json := .null

/-- The record of an injector that is asked for. -/
def InjectorSpec.toJson (s : InjectorSpec) : Json :=
  .obj [("name", .str s.name), ("options", s.options)]

def InjectorSpec.schema : Json.Schema (Option String × Json) InjectorSpec where
  name := "InjectorSpec"
  fields := [
    .of "name" false Json.Decode.str fun x d => (some x, d.2),
    .of "options" true Json.Decode.json fun x d => (d.1, x)]
  strict := false
  start := (none, .null)
  finish d := (Json.required "name" d.1).map fun name => ⟨name, d.2⟩

/-- The record of a configuration. -/
def GameConfig.toJson (c : GameConfig) : Json :=
  .obj ([("gameType", .str c.gameType)]
    ++ (match c.maxPlayers with
      | some n => [("maxPlayers", .nat n)]
      | none => [])
    ++ [("injectors", .arr (c.injectors.map InjectorSpec.toJson)), ("options", c.options)])

def GameConfig.schema : Json.Schema GameConfig GameConfig where
  name := "GameConfig"
  fields := [
    .of "gameType" true Json.Decode.str fun x d => { d with gameType := x },
    .of "maxPlayers" true (Json.Decode.nullable Json.Decode.nat) fun x d =>
      { d with maxPlayers := x },
    .of "injectors" true (Json.Decode.list InjectorSpec.schema.decode) fun x d =>
      { d with injectors := x },
    .of "options" true Json.Decode.json fun x d => { d with options := x }]
  strict := false
  start := {}
  finish := .ok

end Play

end Arcade
