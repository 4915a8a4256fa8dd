import Arcade.Duel.Checked
import Arcade.Live.Adapter
/-!
# Duels as real-time games

A duel engine holds a configuration and the match under way, if one was started. It seats exactly
two players. `resume` takes a match to the moment that a frame shows; what frames do not show
begins anew.

`Game` is the game: the engine behind the adapter of real-time games.
-/

namespace Arcade.Duel

open Live
open Play (GameConfig Descriptor)

/-- The engine of a duel. -/
structure DuelEngine where
  config : Config := {}
  /-- absent before the start and after the shutdown -/
  current : Option Match := none
  deriving DecidableEq, Repr

namespace DuelEngine

/-- Seats two players and begins a match. -/
def start (e : DuelEngine) (players : List String) (seed : UInt64) :
    Except EngineFailure Unit × DuelEngine :=
  match players with
  | [left, right] => (.ok (), { e with current := some (Match.begin e.config left right seed) })
  | _ => (.error (.playerCount players.length), e)

/-- Takes the fighters from a frame, up to the first one who has no seat. -/
def adoptAll : List Entity → Match → Except EngineFailure Unit × Match
  | [], m => (.ok (), m)
  | e :: rest, m =>
    match m.updateFighter? e.id (·.adopt e) with
    | none => (.error (.unknownPlayer e.id), m)
    | some m => adoptAll rest m

/-- The wins of a frame, for the players who have some. -/
def adoptWins (wins : Dict UInt32) : List (String × UInt32) → Dict UInt32
  | [] => wins
  | (p, n) :: rest => adoptWins (if Dict.contains wins p then Dict.insert wins p n else wins) rest

/-- The frames that a phase which is taken up again has left. -/
def resumedPhaseFrames : MatchPhase → UInt32
  | .waiting => countdownFrames
  | .roundOver => intermissionFrames
  | _ => 0

/-- Takes the standing of the match from a frame. -/
def adoptStanding (frame : Frame) (m : Match) : Match :=
  { m with
    frame := frame.frame
    phase := frame.info.phase
    round := frame.info.round
    timerFrames := frame.info.timerFrames
    winner := frame.info.winner
    roundWins := adoptWins m.roundWins frame.info.roundWins
    phaseFrames := resumedPhaseFrames frame.info.phase }

/-- Goes on from a frame. -/
def resume (e : DuelEngine) (frame : Frame) : Except EngineFailure Unit × DuelEngine :=
  match e.current with
  | none => (.error .notStarted, e)
  | some m =>
    match adoptAll frame.entities m with
    | (.error failure, m) => (.error failure, { e with current := some m })
    | (.ok (), m) => (.ok (), { e with current := some (adoptStanding frame m) })

/-- Sets the input of a player for the next frame. -/
def setInput (e : DuelEngine) (player : String) (input : Buttons) :
    Except EngineFailure Unit × DuelEngine :=
  match e.current with
  | none => (.error .notStarted, e)
  | some m =>
    match m.updateFighter? player fun f => { f with input := input } with
    | none => (.error (.unknownPlayer player), e)
    | some m => (.ok (), { e with current := some m })

/-- Simulates one frame. -/
def step (e : DuelEngine) : Except EngineFailure Unit × DuelEngine :=
  match e.current with
  | none => (.error .notStarted, e)
  | some m => (.ok (), { e with current := some (m.step e.config) })

/-- Simulates one frame as a build does that checks its sums: it stops at one that does not fit. -/
def step? (e : DuelEngine) : Option (Except EngineFailure Unit × DuelEngine) :=
  match e.current with
  | none => some (.error .notStarted, e)
  | some m => (m.stepCounted? e.config).map fun next => (.ok (), { e with current := some next })

/-- A match as a frame. -/
def frameOf (m : Match) : Frame :=
  ⟨m.frame, [m.left.entity, m.right.entity],
    ⟨m.phase, m.round, m.timerFrames, m.roundWins, m.winner⟩⟩

/-- Shows the current frame. -/
def snapshot (e : DuelEngine) : Except EngineFailure Frame :=
  match e.current with
  | none => .error .notStarted
  | some m => .ok (frameOf m)

instance : Engine DuelEngine where
  start := start
  resume := resume
  setInput := setInput
  step := step
  stepFits e := e.step?.isSome
  snapshot := snapshot
  shutdown e := (.ok (), { e with current := none })

end DuelEngine

/-- A duel as a game. -/
abbrev Game := Adapter DuelEngine

/-- Fixed facts about duels. -/
def descriptor : Descriptor := .byFrames "duel" 2 tickRate

/-- The duel that a configuration describes. -/
def ofConfig (config : GameConfig) : Except Config.Fault Game :=
  (Config.ofOptions config.options).map fun c => .attached descriptor { config := c }

end Arcade.Duel
