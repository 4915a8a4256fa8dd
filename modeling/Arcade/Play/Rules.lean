import Arcade.Generator
import Arcade.Play.Action
import Arcade.Play.Failure
/-!
# The rules of a game

Rules are the only part of the host that knows a particular game. The session calls them at fixed
points and owns all else. A value `γ` holds the options of the game and whatever the rules keep
beside the state, such as the engine of a real-time game; every call that may change it gives the
new value back, whether or not the call succeeds.

The rules never change a state that they are shown: they give data to put in place of its data, or
nothing to leave it as it is. During a call they may draw from the session's generator and emit
events, both of which are on the `Stage`.

Rules calculate with words, and sums of words wrap around where they do not fit. `actFits` and `tickFits` say
whether a call takes such a sum; a build that checks its sums stops there.
-/

namespace Arcade.Play

/-- Fixed facts about a game. -/
structure Descriptor where
  gameType : String
  maxPlayers : Nat
  /-- whether the game goes by actions rather than by frames -/
  turnBased : Bool
  /-- frames per second, zero for a game that goes by actions -/
  tickRate : Nat
  deriving DecidableEq, Repr

namespace Descriptor

/-- A game that goes by actions. -/
def byTurns (gameType : String) (maxPlayers : Nat) : Descriptor := ⟨gameType, maxPlayers, true, 0⟩

/-- A game that goes by frames. -/
def byFrames (gameType : String) (maxPlayers tickRate : Nat) : Descriptor :=
  ⟨gameType, maxPlayers, false, tickRate⟩

def toJson (d : Descriptor) : Json :=
  .obj [("gameType", .str d.gameType), ("maxPlayers", .nat d.maxPlayers),
    ("turnBased", .bool d.turnBased), ("tickRate", .nat d.tickRate)]

end Descriptor

/-- What the session lends the rules for one call. -/
structure Stage where
  random : Generator
  events : EventQueue := {}

namespace Stage

/-- Adds an event to those of the call. -/
def emit (s : Stage) (kind : String) (player : Option PlayerId) (data : Json) : Stage :=
  { s with events := s.events.emit kind player data }

/-- Draws a word. -/
def draw (s : Stage) : UInt64 × Stage :=
  let (word, random) := s.random.next
  (word, { s with random := random })

/-- Draws a number between two bounds. -/
def drawBetween (s : Stage) (lo hi : Int32) : Int32 × Stage :=
  let (n, random) := s.random.between lo hi
  (n, { s with random := random })

end Stage

/-- What a call of the rules leaves behind: its answer, the rules' own value and the stage. -/
structure Ran (γ ε α : Type) where
  answer : Except ε α
  rules : γ
  stage : Stage

/-- The rules of a game. -/
class GameRules (γ : Type) where
  descriptor : γ → Descriptor
  /-- the data of a fresh game for the given players -/
  prepare : γ → List PlayerId → Stage → Ran γ Failure Data
  /-- goes on with a state that was prepared before -/
  resume : γ → List PlayerId → GameState → Except Failure Unit × γ := fun g _ _ => (.ok (), g)
  /-- applies an action, whose effect is scaled by a multiplier -/
  act : γ → GameState → PlayerId → Action → (multiplier : Float) → Stage →
    Ran γ Refusal (Option Data)
  /-- whether every sum of an action fits its word -/
  actFits : γ → GameState → PlayerId → Action → (multiplier : Float) → Bool :=
    fun _ _ _ _ _ => true
  /-- advances one frame -/
  tick : γ → GameState → (seconds : Float) → Stage → Ran γ Failure (Option Data) :=
    fun g _ _ stage => ⟨.ok none, g, stage⟩
  /-- whether every sum of a frame fits its word -/
  tickFits : γ → GameState → (seconds : Float) → Bool := fun _ _ _ => true
  /-- whether a state is decided -/
  isOver : γ → GameState → Bool
  /-- the winner in a state, if there is one -/
  winner : γ → GameState → Option PlayerId
  /-- the score of every player -/
  scores : γ → GameState → Dict Int
  /-- what a player may see of a state -/
  view : γ → GameState → PlayerId → GameState := fun _ state _ => state
  /-- the kinds of action open to a player; none if they cannot be listed -/
  validActions : γ → GameState → PlayerId → List String := fun _ _ _ => []
  /-- whether an action would be allowed, without applying it -/
  validate : γ → GameState → PlayerId → Action → Except Refusal Unit :=
    fun g state player action =>
      let allowed := validActions g state player
      if allowed.isEmpty || allowed.contains action.kind then .ok ()
      else .error (.byRules ("Unknown action: " ++ action.kind))
  /-- gives up what the rules hold outside the state -/
  release : γ → Except Failure Unit × γ := fun g => (.ok (), g)

end Arcade.Play
