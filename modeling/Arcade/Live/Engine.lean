import Arcade.Live.Buttons
import Arcade.Live.EngineFailure
import Arcade.Live.Frame
/-!
# Engines

An engine simulates a real-time game frame by frame. It is given the players and a seed, takes one
input per player before each step, and shows itself as a frame. Any call may fail; the value that it
gives back is what the engine is afterwards, also then. A step may also take a sum that does not fit its
word: a build that checks its sums stops there (`stepFits`).
-/

namespace Arcade.Live

/-- A simulation that is stepped from outside. -/
class Engine (β : Type) where
  /-- seats the players and begins anew -/
  start : β → List String → (seed : UInt64) → Except EngineFailure Unit × β
  /-- goes on from a frame, after a start -/
  resume : β → Frame → Except EngineFailure Unit × β := fun b _ => (.ok (), b)
  /-- sets the input of a player for the next step -/
  setInput : β → String → Buttons → Except EngineFailure Unit × β
  /-- simulates one frame -/
  step : β → Except EngineFailure Unit × β
  /-- whether every sum of a step fits its word -/
  stepFits : β → Bool := fun _ => true
  /-- shows the current frame -/
  snapshot : β → Except EngineFailure Frame
  /-- gives up what the engine holds -/
  shutdown : β → Except EngineFailure Unit × β := fun b => (.ok (), b)

end Arcade.Live
