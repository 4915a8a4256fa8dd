import Arcade.Json.Decode
import Arcade.Number.Fixed
/-!
# Frames

A frame is what an engine shows of itself at one moment: the fighters or other entities, and where
the match stands. Frames are stored in the data of a game and sent to players, so they are records
of documents too.
-/

namespace Arcade.Live

/-- Where a match stands. -/
inductive MatchPhase where
  /-- counting down -/
  | waiting
  | fighting
  /-- between two rounds -/
  | roundOver
  /-- decided -/
  | finished
  deriving DecidableEq, Repr, Inhabited

def MatchPhase.name : MatchPhase → String
  | .waiting => "waiting"
  | .fighting => "fighting"
  | .roundOver => "round_over"
  | .finished => "finished"

def MatchPhase.names : List (String × MatchPhase) :=
  [MatchPhase.waiting, .fighting, .roundOver, .finished].map fun p => (p.name, p)

/-- Whether the match is decided. -/
def MatchPhase.isFinished (p : MatchPhase) : Bool := p = .finished

/-- An entity at one moment. -/
structure Entity where
  id : String
  x : Fixed
  /-- zero is the ground -/
  y : Fixed
  velX : Fixed
  velY : Fixed
  health : Int32
  /-- one to the right, minus one to the left -/
  facing : Int8
  /-- the name of what it is doing -/
  action : String
  deriving DecidableEq, Repr

/-- Where a match stands at one moment. -/
structure MatchInfo where
  phase : MatchPhase
  /-- from one; zero before the first -/
  round : UInt32
  /-- frames left on the clock of the round -/
  timerFrames : UInt32
  roundWins : Dict UInt32
  winner : Option String
  deriving DecidableEq, Repr

/-- A moment. -/
structure Frame where
  /-- how many frames were simulated -/
  frame : UInt64
  entities : List Entity
  info : MatchInfo
  deriving DecidableEq, Repr

namespace Entity

/-- The entity as a record. -/
def toJson (e : Entity) : Json :=
  .obj [("id", .str e.id), ("x", .int e.x.toInt), ("y", .int e.y.toInt),
    ("velX", .int e.velX.toInt), ("velY", .int e.velY.toInt), ("health", .int e.health.toInt),
    ("facing", .int e.facing.toInt), ("action", .str e.action)]

/-- The fields of an entity under construction. -/
structure Draft where
  id : Option String := none
  x : Option Fixed := none
  y : Option Fixed := none
  velX : Option Fixed := none
  velY : Option Fixed := none
  health : Option Int32 := none
  facing : Option Int8 := none
  action : Option String := none

/-- The record of an entity. -/
def schema : Json.Schema Draft Entity where
  name := "Entity"
  fields := [
    .of "id" false Json.Decode.str fun v d => { d with id := some v },
    .of "x" false Json.Decode.int32 fun v d => { d with x := some v },
    .of "y" false Json.Decode.int32 fun v d => { d with y := some v },
    .of "velX" false Json.Decode.int32 fun v d => { d with velX := some v },
    .of "velY" false Json.Decode.int32 fun v d => { d with velY := some v },
    .of "health" false Json.Decode.int32 fun v d => { d with health := some v },
    .of "facing" false Json.Decode.int8 fun v d => { d with facing := some v },
    .of "action" false Json.Decode.str fun v d => { d with action := some v }]
  strict := false
  start := {}
  finish d := do
    let id ← Json.required "id" d.id
    let x ← Json.required "x" d.x
    let y ← Json.required "y" d.y
    let velX ← Json.required "velX" d.velX
    let velY ← Json.required "velY" d.velY
    let health ← Json.required "health" d.health
    let facing ← Json.required "facing" d.facing
    let action ← Json.required "action" d.action
    .ok ⟨id, x, y, velX, velY, health, facing, action⟩

end Entity

namespace MatchInfo

/-- The standing of a match as a record. -/
def toJson (m : MatchInfo) : Json :=
  .obj ([("phase", .str m.phase.name), ("round", .nat m.round.toNat),
    ("timerFrames", .nat m.timerFrames.toNat),
    ("roundWins", .obj (Dict.mapValues (fun n => Json.nat n.toNat) m.roundWins))]
    ++ match m.winner with
      | some p => [("winner", .str p)]
      | none => [])

/-- The fields of a standing under construction. -/
structure Draft where
  phase : Option MatchPhase := none
  round : Option UInt32 := none
  timerFrames : Option UInt32 := none
  roundWins : Option (Dict UInt32) := none
  winner : Option String := none

/-- The record of a standing. -/
def schema : Json.Schema Draft MatchInfo where
  name := "MatchInfo"
  fields := [
    .of "phase" false (Json.Decode.variant MatchPhase.names) fun v d => { d with phase := some v },
    .of "round" false Json.Decode.uint32 fun v d => { d with round := some v },
    .of "timerFrames" false Json.Decode.uint32 fun v d => { d with timerFrames := some v },
    .of "roundWins" false (Json.Decode.dict Json.Decode.uint32) fun v d =>
      { d with roundWins := some v },
    .of "winner" true (Json.Decode.nullable Json.Decode.str) fun v d => { d with winner := v }]
  strict := false
  start := {}
  finish d := do
    let phase ← Json.required "phase" d.phase
    let round ← Json.required "round" d.round
    let timerFrames ← Json.required "timerFrames" d.timerFrames
    let roundWins ← Json.required "roundWins" d.roundWins
    .ok ⟨phase, round, timerFrames, roundWins, d.winner⟩

end MatchInfo

namespace Frame

/-- The frame of a game that no engine plays. -/
def neutral (frame : UInt64) (players : List String) : Frame :=
  ⟨frame, [], ⟨.waiting, 0, 0, Dict.ofList (players.map fun p => (p, 0)), none⟩⟩

/-- The first entity with an id. -/
def entity? (f : Frame) (id : String) : Option Entity :=
  f.entities.find? fun e => e.id == id

/-- The frame as a record. -/
def toJson (f : Frame) : Json :=
  .obj [("frame", .nat f.frame.toNat), ("entities", .arr (f.entities.map Entity.toJson)),
    ("match", f.info.toJson)]

/-- The fields of a frame under construction. -/
structure Draft where
  frame : Option UInt64 := none
  entities : Option (List Entity) := none
  info : Option MatchInfo := none

/-- The record of a frame. -/
def schema : Json.Schema Draft Frame where
  name := "Frame"
  fields := [
    .of "frame" false Json.Decode.uint64 fun v d => { d with frame := some v },
    .of "entities" false (Json.Decode.list Entity.schema.decode) fun v d =>
      { d with entities := some v },
    .of "match" false MatchInfo.schema.decode fun v d => { d with info := some v }]
  strict := false
  start := {}
  finish d := do
    let frame ← Json.required "frame" d.frame
    let entities ← Json.required "entities" d.entities
    let info ← Json.required "match" d.info
    .ok ⟨frame, entities, info⟩

/-- Reads a frame from a document value. -/
def ofJson? (j : Json) : Option Frame :=
  (schema.decode (.ofJson j)).toOption

end Frame

end Arcade.Live
