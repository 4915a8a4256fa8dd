/-!
# Failures of engines

The causes for which an engine of a real-time game can fail, with their wording.
-/

namespace Arcade.Live

/-- Why an engine failed. -/
inductive EngineFailure where
  /-- used before it was started -/
  | notStarted
  /-- used after it was released -/
  | disposed
  /-- a number of players that it cannot seat -/
  | playerCount (n : Nat)
  /-- a player who has no seat -/
  | unknownPlayer (player : String)
  /-- a fault of its own -/
  | engine (reason : String)
  deriving DecidableEq, Repr

/-- The wording of a failure. -/
def EngineFailure.message : EngineFailure → String
  | .notStarted => "Bridge has not been started"
  | .disposed => "Bridge has been disposed"
  | .playerCount n => "Unsupported player count: " ++ toString n
  | .unknownPlayer player => "Unknown player: " ++ player
  | .engine reason => "Engine failure: " ++ reason

end Arcade.Live
