import Arcade.Json.Decode
import Arcade.Live.EngineFailure
/-!
# Failures and refusals

A `Failure` is an error of the host that calls a session in the wrong way or meets a broken part.
A `Refusal` is the answer to a player whose action is not allowed; it is no error of the host.
-/

namespace Arcade.Play

/-- Why a call on a session failed. -/
inductive Failure where
  | noPlayers
  | tooManyPlayers (max got : Nat)
  | duplicatePlayer (player : String)
  | notInitialized
  | alreadyInitialized
  /-- a state that cannot be taken over -/
  | invalidState (reason : String)
  | disposed
  | engine (failure : Live.EngineFailure)
  /-- a stored session that cannot be read -/
  | unreadable (error : Json.DecodeError)

/-- The wording of a failure. -/
def Failure.message : Failure → String
  | .noPlayers => "At least one player is required"
  | .tooManyPlayers max got =>
    "Too many players: maximum is " ++ toString max ++ ", got " ++ toString got
  | .duplicatePlayer player => "Duplicate player: " ++ player
  | .notInitialized => "Game has not been initialized"
  | .alreadyInitialized => "Game is already initialized"
  | .invalidState reason => "Invalid state: " ++ reason
  | .disposed => "Session has been disposed"
  | .engine failure => "Bridge failure: " ++ failure.message
  | .unreadable error => "Serialization error: " ++ error.message

/-- Why an action is not allowed. -/
inductive Refusal where
  | disposed
  | notInitialized
  | notParticipant
  | gameOver
  /-- the rules of the game forbid it -/
  | byRules (reason : String)
  deriving DecidableEq, Repr

/-- The wording of a refusal. -/
def Refusal.message : Refusal → String
  | .disposed => "Session has been disposed"
  | .notInitialized => "Game has not been initialized"
  | .notParticipant => "Not a valid player"
  | .gameOver => "Game is already over"
  | .byRules reason => reason

end Arcade.Play
