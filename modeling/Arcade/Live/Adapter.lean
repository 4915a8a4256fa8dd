import Arcade.Digest.Framed
import Arcade.Live.Engine
import Arcade.Live.Patch
import Arcade.Number.Checked
import Arcade.Play.Rules
/-!
# Real-time games as rules

An engine becomes the rules of a game. Actions only press buttons, which are gathered until the next
frame; a frame hands each player's buttons to the engine, steps it, and stores the new frame and the
patches from the one before in the data. When the standing of the match changes phase, an event says
so. A match that the engine calls finished is over.

Without an engine the adapter shows neutral frames; after its release every use fails. A failed
frame keeps the buttons for the next attempt.
-/

namespace Arcade.Live

open Play

/-- Who simulates the game. -/
inductive Slot (β : Type) where
  | attached (engine : β)
  /-- nobody: frames are neutral -/
  | detached
  /-- the engine was released -/
  | disposed

/-- A real-time game around an engine. -/
structure Adapter (β : Type) where
  descriptor : Descriptor
  slot : Slot β
  players : List PlayerId := []
  inputs : InputBuffer := []
  /-- the frame shown last -/
  last : Option Frame := none

/-- The name under which the frame is kept in the data. -/
def frameKey : String := "snapshot"

/-- The name under which the patches are kept in the data. -/
def patchesKey : String := "delta"

/-- The frame in a state. -/
def storedFrame? (state : GameState) : Option Frame :=
  (Dict.get? state.data frameKey).bind Frame.ofJson?

/-- The patches in a state, none if there are none. -/
def storedPatches (state : GameState) : Json :=
  (Dict.get? state.data patchesKey).getD (.arr [])

/-- Some data with a frame and patches in it. -/
def storeFrame (data : Data) (frame : Frame) (patches : List Patch) : Data :=
  Dict.insert (Dict.insert data frameKey frame.toJson.canonical) patchesKey
    (.arr (patches.map fun p => p.toJson.canonical))

/-- The event of a new phase. -/
def phaseEvent (before : MatchPhase) (frame : Frame) : Event :=
  ⟨"phase_changed", none,
    .obj [("frame", .nat frame.frame.toNat), ("from", .str before.name),
      ("round", .nat frame.info.round.toNat), ("to", .str frame.info.phase.name)]⟩

namespace Adapter

variable {β : Type}

/-- A game around an engine. -/
def attached (descriptor : Descriptor) (engine : β) : Adapter β :=
  { descriptor := descriptor, slot := .attached engine }

/-- A game without an engine. -/
def detached (descriptor : Descriptor) : Adapter β :=
  { descriptor := descriptor, slot := .detached }

def isDisposed (a : Adapter β) : Bool :=
  match a.slot with
  | .disposed => true
  | _ => false

/-- How many frames were shown, by the last one. -/
def frameCount (a : Adapter β) : UInt64 :=
  match a.last with
  | some f => f.frame
  | none => 0

variable [Engine β]

/-- Hands every player's buttons to the engine, up to the first failure. -/
def setInputs (inputs : InputBuffer) : List PlayerId → β → Except EngineFailure Unit × β
  | [], engine => (.ok (), engine)
  | p :: rest, engine =>
    match Engine.setInput engine p (inputs.pressed p) with
    | (.error e, engine) => (.error e, engine)
    | (.ok (), engine) => setInputs inputs rest engine

/-- Simulates one frame with the gathered buttons: the new frame, and the engine. -/
def simulate (inputs : InputBuffer) (players : List PlayerId) (engine : β) :
    Except EngineFailure Frame × β :=
  match setInputs inputs players engine with
  | (.error e, engine) => (.error e, engine)
  | (.ok (), engine) =>
    match Engine.step engine with
    | (.error e, engine) => (.error e, engine)
    | (.ok (), engine) => (Engine.snapshot engine, engine)

/-- The next frame, and the game after it. The buttons stay. -/
def advance (a : Adapter β) : Except EngineFailure Frame × Adapter β :=
  match a.slot with
  | .attached engine =>
    let (frame, engine) := simulate a.inputs a.players engine
    (frame, { a with slot := .attached engine })
  | .detached => (.ok (.neutral (a.frameCount + 1) a.players), a)
  | .disposed => (.error .disposed, a)

/-- The current frame. -/
def capture (a : Adapter β) : Except EngineFailure Frame :=
  match a.slot with
  | .attached engine => Engine.snapshot engine
  | .detached => .ok (.neutral a.frameCount a.players)
  | .disposed => .error .disposed

/-- Starts the engine, if there is one. -/
def startEngine (slot : Slot β) (players : List PlayerId) (seed : UInt64) :
    Except EngineFailure Unit × Slot β :=
  match slot with
  | .attached engine =>
    let (answer, engine) := Engine.start engine players seed
    (answer, .attached engine)
  | .detached => (.ok (), .detached)
  | .disposed => (.error .disposed, .disposed)

/-- Starts a match and shows its first frame. -/
def prepare (a : Adapter β) (players : List PlayerId) (stage : Stage) :
    Ran (Adapter β) Failure Data :=
  let (seed, stage) := stage.draw
  match startEngine a.slot players seed with
  | (.error e, slot) => ⟨.error (.engine e), { a with slot := slot }, stage⟩
  | (.ok (), slot) =>
    let a := { a with slot := slot, players := players, inputs := [], last := none }
    match a.capture with
    | .error e => ⟨.error (.engine e), a, stage⟩
    | .ok frame => ⟨.ok (storeFrame [] frame []), { a with last := some frame }, stage⟩

/-- The seed of a match that goes on from a frame: that of the hash of its text. -/
def frameSeed (frame : Frame) : UInt64 :=
  Framed.seedOf (Sha256.digest (Bytes.ofText frame.toJson.text))

/-- Starts the engine anew and takes it to a frame, if there is an engine. -/
def resumeEngine (slot : Slot β) (players : List PlayerId) (frame : Frame) :
    Except EngineFailure Unit × Slot β :=
  match slot with
  | .attached engine =>
    match Engine.start engine players (frameSeed frame) with
    | (.error e, engine) => (.error e, .attached engine)
    | (.ok (), engine) =>
      let (answer, engine) := Engine.resume engine frame
      (answer, .attached engine)
  | .detached => (.ok (), .detached)
  | .disposed => (.error .disposed, .disposed)

/-- Goes on from the frame in a state. -/
def resume (a : Adapter β) (players : List PlayerId) (state : GameState) :
    Except Failure Unit × Adapter β :=
  match storedFrame? state with
  | none => (.error (.invalidState "missing real-time snapshot"), a)
  | some frame =>
    match resumeEngine a.slot players frame with
    | (.error e, slot) => (.error (.engine e), { a with slot := slot })
    | (.ok (), slot) =>
      (.ok (), { a with slot := slot, players := players, inputs := [], last := some frame })

/-- Presses the buttons of an action. -/
def act (a : Adapter β) (player : PlayerId) (action : Action) (stage : Stage) :
    Ran (Adapter β) Refusal (Option Data) :=
  if a.isDisposed then ⟨.error (.byRules EngineFailure.disposed.message), a, stage⟩
  else
    match Buttons.ofAction action with
    | .error e => ⟨.error (.byRules e.message), a, stage⟩
    | .ok buttons => ⟨.ok none, { a with inputs := a.inputs.press player buttons }, stage⟩

/-- Advances one frame. -/
def tick (a : Adapter β) (state : GameState) (stage : Stage) :
    Ran (Adapter β) Failure (Option Data) :=
  match a.advance with
  | (.error e, a) => ⟨.error (.engine e), a, stage⟩
  | (.ok frame, a) =>
    let changes := match a.last with
      | some prev => patches prev frame
      | none => []
    let before := match a.last with
      | some prev => prev.info.phase
      | none => .waiting
    let stage :=
      if before = frame.info.phase then stage
      else { stage with events := stage.events.push (phaseEvent before frame) }
    ⟨.ok (some (storeFrame state.data frame changes)),
      { a with inputs := [], last := some frame }, stage⟩

/-- Whether every sum of the next frame fits its word: those of the engine's step, or the number of a
neutral frame. -/
def tickFits (a : Adapter β) : Bool :=
  match a.slot with
  | .attached engine =>
    match setInputs a.inputs a.players engine with
    | (.error _, _) => true
    | (.ok (), engine) => Engine.stepFits engine
  | .detached => (Checked.next64? a.frameCount).isSome
  | .disposed => true

/-- Releases the engine and forgets all that was gathered. -/
def release (a : Adapter β) : Except Failure Unit × Adapter β :=
  let released := { a with slot := .disposed, inputs := [], last := none }
  match a.slot with
  | .attached engine => ((Engine.shutdown engine).1.mapError .engine, released)
  | .detached => (.ok (), released)
  | .disposed => (.error (.engine .disposed), released)

instance : GameRules (Adapter β) where
  descriptor a := a.descriptor
  prepare := prepare
  resume := resume
  act a _ player action _ stage := a.act player action stage
  tick a state _ stage := a.tick state stage
  tickFits a _ _ := a.tickFits
  isOver _ state := (storedFrame? state).any fun f => f.info.phase.isFinished
  winner _ state := (storedFrame? state).bind fun f => f.info.winner
  scores _ state :=
    match storedFrame? state with
    | some f => Dict.mapValues (fun n => (n.toNat : Int)) f.info.roundWins
    | none => []
  validActions a _ _ := if a.isDisposed then [] else Buttons.named.map Prod.fst
  validate _ _ _ action :=
    match Buttons.ofAction action with
    | .ok _ => .ok ()
    | .error e => .error (.byRules e.message)
  release := release

end Adapter

end Arcade.Live
