import Arcade.Live.Buttons
import Arcade.Live.Frame
/-!
# Fighters

One of the two fighters of a duel, and what a frame of fighting does to him alone: he may block,
walk, jump and fall, and may fire an attack. Positions and velocities are fixed-point numbers.

* `Fighter.move` is the movement of one frame, together with the attack that it fires;
* `Fighter.hurt` and `Fighter.settle` are what remains to be done once the damage is known;
* `Fighter.entity`, `Fighter.adopt` show a fighter in a frame and take him from one.
-/

namespace Arcade.Duel

open Live (Buttons Entity)

/-! ### The arena -/

/-- Half the width of the lane: eight units. -/
def arenaHalfWidth : Fixed := 524288

/-- The distance from the centre at the start: three units. -/
def startX : Fixed := 196608

/-- Fighters never come closer than three quarters of a unit. -/
def minGap : Fixed := 49152

/-- A tenth of a unit per frame, cut off. -/
def walkSpeed : Fixed := 6553

/-- The upward speed at the start of a jump: three tenths of a unit per frame, cut off. -/
def jumpVelocity : Fixed := 19660

/-- What the upward speed loses with each frame: a fiftieth of a unit, cut off. -/
def gravity : Fixed := 1310

/-- For how many frames an attack or a hit stays visible. -/
def reactionFrames : UInt32 := 8

/-! ### Attacks -/

/-- The attacks, strongest first. -/
inductive Attack where
  | special
  | heavy
  | light
  deriving DecidableEq, Repr

namespace Attack

def all : List Attack := [.special, .heavy, .light]

def name : Attack → String
  | .special => "special"
  | .heavy => "attack2"
  | .light => "attack1"

/-- The button that fires it. -/
def button : Attack → Buttons
  | .special => .special
  | .heavy => .attack2
  | .light => .attack1

/-- The damage without the bonus. -/
def damage : Attack → Int32
  | .special => 20
  | .heavy => 9
  | .light => 5

/-- How far it reaches: three, two, and one and a half units. -/
def range : Attack → Fixed
  | .special => 196608
  | .heavy => 131072
  | .light => 98304

/-- For how many frames no further attack can be fired. -/
def cooldown : Attack → UInt32
  | .special => 90
  | .heavy => 24
  | .light => 12

end Attack

/-! ### Poses -/

/-- What a fighter is seen to do. -/
inductive Pose where
  | idle
  | walk
  | jump
  | block
  | strike (attack : Attack)
  | hit
  | ko
  deriving DecidableEq, Repr

/-- The name of a pose in frames. -/
def Pose.name : Pose → String
  | .idle => "idle"
  | .walk => "walk"
  | .jump => "jump"
  | .block => "block"
  | .strike attack => attack.name
  | .hit => "hit"
  | .ko => "ko"

/-- The pose of a name; any other name stands for idleness. -/
def Pose.ofName (name : String) : Pose :=
  match name with
  | "walk" => .walk
  | "jump" => .jump
  | "block" => .block
  | "hit" => .hit
  | "ko" => .ko
  | "special" => .strike .special
  | "attack2" => .strike .heavy
  | "attack1" => .strike .light
  | _ => .idle

/-! ### Fighters -/

/-- A fighter. -/
structure Fighter where
  id : String
  x : Fixed
  y : Fixed := 0
  velX : Fixed := 0
  velY : Fixed := 0
  health : Int32
  facing : Int8
  pose : Pose := .idle
  /-- for how many frames the pose stays -/
  poseFrames : UInt32 := 0
  /-- for how many frames no attack can be fired -/
  cooldown : UInt32 := 0
  blocking : Bool := false
  /-- the buttons for the next frame -/
  input : Buttons := .none
  deriving DecidableEq, Repr

/-- One less, or zero. -/
def countDown (n : UInt32) : UInt32 :=
  if n = 0 then 0 else n - 1

namespace Fighter

/-- Whether he stands on the ground and does not rise. -/
def grounded (f : Fighter) : Bool :=
  f.y = 0 && f.velY ≤ 0

/-- The direction that the buttons give: one, zero or minus one. -/
def direction (input : Buttons) : Int32 :=
  (if input.contains .moveRight then 1 else 0) - (if input.contains .moveLeft then 1 else 0)

/-- Whether the buttons ask for a jump. -/
def wantsJump (input : Buttons) : Bool :=
  input.contains .jump || input.contains .moveUp

/-- The frame begins: timers run, and he blocks if he stands and holds down. -/
def ready (f : Fighter) : Fighter :=
  { f with
    cooldown := countDown f.cooldown
    poseFrames := countDown f.poseFrames
    blocking := f.grounded && f.input.contains .moveDown }

/-- The velocity that the buttons give to a fighter who is ready. -/
def steer (f : Fighter) : Fighter :=
  let f := { f with velX := if f.blocking then 0 else direction f.input * walkSpeed }
  if f.grounded && !f.blocking && wantsJump f.input then { f with velY := jumpVelocity } else f

/-- The flight of one frame, for a fighter who is off the ground or about to be. -/
def fly (f : Fighter) : Fighter :=
  if !f.grounded || 0 < f.velY then
    let y := f.y + f.velY
    let velY := f.velY - gravity
    if y ≤ 0 then { f with y := 0, velY := 0 } else { f with y := y, velY := velY }
  else f

/-- The walk of one frame, within the arena. A sum that does not fit its word wraps around in a build that
does not check its sums; `walk?` is the walk of one that does. -/
def walk (f : Fighter) : Fighter :=
  { f with x := Fixed.clamp (f.x + f.velX) (-arenaHalfWidth) arenaHalfWidth }

/-- The attack that he fires: the strongest one held, if he neither blocks nor has to wait. -/
def attack? (f : Fighter) : Option Attack :=
  if f.blocking || f.cooldown != 0 then none
  else Attack.all.find? fun a => f.input.contains a.button

/-- Fires an attack. -/
def fire (f : Fighter) (attack : Attack) : Fighter :=
  { f with
    cooldown := attack.cooldown
    pose := .strike attack
    poseFrames := reactionFrames }

/-- The movement of one frame, and the attack fired with it. -/
def move (f : Fighter) : Fighter × Option Attack :=
  let f := f.ready.steer.fly.walk
  match f.attack? with
  | some attack => (f.fire attack, some attack)
  | none => (f, none)

/-- The fighter after some damage. Who blocks is not thrown off. -/
def hurt (f : Fighter) (damage : Int32) : Fighter :=
  if 0 < damage then
    let left := f.health - damage
    let f := { f with health := if left < 0 then 0 else left }
    if f.blocking then f else { f with pose := .hit, poseFrames := reactionFrames }
  else f

/-- The pose at the end of a frame. -/
def settle (f : Fighter) : Fighter :=
  if f.health ≤ 0 then { f with pose := .ko }
  else if f.poseFrames = 0 then
    { f with
      pose :=
        if f.blocking then .block
        else if !f.grounded then .jump
        else if f.velX ≠ 0 then .walk
        else .idle }
  else f

/-- The fighter as he appears in a frame. -/
def entity (f : Fighter) : Entity :=
  ⟨f.id, f.x, f.y, f.velX, f.velY, f.health, f.facing, f.pose.name⟩

/-- The fighter as a frame shows him; what frames do not show stays. -/
def adopt (f : Fighter) (e : Entity) : Fighter :=
  { f with
    x := e.x, y := e.y, velX := e.velX, velY := e.velY
    health := e.health, facing := e.facing, pose := .ofName e.action }

end Fighter

end Arcade.Duel
