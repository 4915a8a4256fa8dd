import Arcade.Live.Frame
/-!
# Patches

Between two frames a player needs only what has changed. A `Patch` holds the new values of the
fields of one entity that differ; `patches` lists one for each entity of the newer frame that was
there before and has changed. A new entity has none: its first frame is sent in full.
-/

namespace Arcade.Live

/-- The changed fields of an entity. -/
structure Patch where
  id : String
  x : Option Fixed := none
  y : Option Fixed := none
  velX : Option Fixed := none
  velY : Option Fixed := none
  health : Option Int32 := none
  facing : Option Int8 := none
  action : Option String := none
  deriving DecidableEq, Repr

/-- The new value, if it differs from the old one. -/
def changed? {α : Type} [DecidableEq α] (old new : α) : Option α :=
  if old = new then none else some new

namespace Patch

/-- What changed between two states of an entity. -/
def between (old new : Entity) : Patch where
  id := new.id
  x := changed? old.x new.x
  y := changed? old.y new.y
  velX := changed? old.velX new.velX
  velY := changed? old.velY new.velY
  health := changed? old.health new.health
  facing := changed? old.facing new.facing
  action := changed? old.action new.action

/-- Whether nothing changed. -/
def isEmpty (p : Patch) : Bool :=
  p.x.isNone && p.y.isNone && p.velX.isNone && p.velY.isNone && p.health.isNone
    && p.facing.isNone && p.action.isNone

/-- The patch as a record of the changed fields. -/
def toJson (p : Patch) : Json :=
  let int32 (name : String) (v : Option Int32) : List (String × Json) :=
    v.toList.map fun n => (name, .int n.toInt)
  .obj ([("id", .str p.id)] ++ int32 "x" p.x ++ int32 "y" p.y ++ int32 "velX" p.velX
    ++ int32 "velY" p.velY ++ int32 "health" p.health
    ++ p.facing.toList.map (fun n => ("facing", .int n.toInt))
    ++ p.action.toList.map (fun s => ("action", .str s)))

end Patch

/-- The patch of one entity of the newer frame, if it was there before and has changed. -/
def patch? (prev : Frame) (now : Entity) : Option Patch :=
  match prev.entity? now.id with
  | none => none
  | some before =>
    let p := Patch.between before now
    if p.isEmpty then none else some p

/-- The patches from one frame to another, in the order of the newer one. -/
def patches (prev curr : Frame) : List Patch :=
  curr.entities.filterMap (patch? prev)

end Arcade.Live
