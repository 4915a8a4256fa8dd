import Arcade.Live.Adapter
/-!
# A recording engine

The smallest engine of a real-time game: it counts frames and adds up what every seat presses. It
can be told to fail once, at a given frame, and to finish after another.
-/

namespace Arcade.Sample

open Live

/-- A seat of the recorder. -/
structure Seat where
  player : String
  /-- what is pressed, until something else is -/
  pressed : Buttons := .none
  /-- the bits of all frames so far, added up -/
  sum : Nat := 0
  deriving DecidableEq, Repr

/-- The recorder. -/
structure Recorder where
  /-- finished from this frame on -/
  finishAfter : Option Nat := none
  /-- fails once when this frame comes up -/
  failAt : Option Nat := none
  maxSeats : Nat := 2
  seats : List Seat := []
  /-- the low 16 bits of the seed -/
  seedBits : UInt64 := 0
  frame : UInt64 := 0
  failed : Bool := false
  deriving DecidableEq, Repr

namespace Recorder

/-- The recorder that some options describe. -/
def ofOptions (options : Json) : Recorder where
  finishAfter := (options.field? "finish_after").bind Json.asUInt64?
  failAt := (options.field? "fail_at").bind Json.asUInt64?
  maxSeats := ((options.field? "max_seats").bind Json.asUInt64?).getD 2

/-- Seats the players. -/
def start (r : Recorder) (players : List String) (seed : UInt64) :
    Except EngineFailure Unit × Recorder :=
  if r.maxSeats < players.length then (.error (.playerCount players.length), r)
  else
    (.ok (),
      { r with
        seats := players.map fun p => { player := p }
        seedBits := seed &&& 0xFFFF
        frame := 0 })

/-- Keeps what a player presses. -/
def setInput (r : Recorder) (player : String) (pressed : Buttons) :
    Except EngineFailure Unit × Recorder :=
  if r.seats.any fun s => s.player == player then
    (.ok (),
      { r with
        seats := r.seats.map fun s =>
          if s.player = player then { s with pressed := pressed } else s })
  else (.error (.unknownPlayer player), r)

/-- One frame. -/
def step (r : Recorder) : Except EngineFailure Unit × Recorder :=
  if !r.failed && r.failAt = some (r.frame.toNat + 1) then
    (.error (.engine "physics exploded"), { r with failed := true })
  else
    (.ok (),
      { r with
        frame := r.frame + 1
        seats := r.seats.map fun s => { s with sum := s.sum + s.pressed.bits.toNat } })

/-- Whether the match is decided. -/
def isFinished (r : Recorder) : Bool :=
  r.finishAfter.any fun n => n ≤ r.frame.toNat

def phase (r : Recorder) : MatchPhase :=
  if r.isFinished then .finished else if r.frame = 0 then .waiting else .fighting

/-- A seat as it appears in a frame. -/
def entity (r : Recorder) (s : Seat) : Entity :=
  ⟨s.player, Int32.ofNat r.frame.toNat, Int32.ofNat s.pressed.bits.toNat, 0, 0,
    Int32.ofNat s.sum, 0, "idle"⟩

/-- The current frame. -/
def snapshot (r : Recorder) : Frame :=
  let won : UInt32 := if r.isFinished then 1 else 0
  ⟨r.frame, r.seats.map r.entity,
    ⟨r.phase, 1, r.seedBits.toUInt32, Dict.ofList (r.seats.map fun s => (s.player, won)),
      if r.isFinished then r.seats.head?.map Seat.player else none⟩⟩

instance : Engine Recorder where
  start := start
  resume r frame := (.ok (), { r with frame := frame.frame })
  setInput := setInput
  step := step
  snapshot r := .ok r.snapshot

end Recorder

end Arcade.Sample
