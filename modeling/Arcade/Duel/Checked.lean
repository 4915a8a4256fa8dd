import Arcade.Duel.Match
import Arcade.Number.Checked
/-!
# Frames that check their sums

A frame as a build makes it that checks every sum, difference, product and negation, and every count: it has
no result as soon as one of them does not fit, and the match is then over for good, for the program stops.
Where everything fits, the frame is that of `Match.step`.

* `Fighter.move?`, `Match.exchange?` are the movement and the exchange;
* `Match.stepCounted?` is a frame of any phase, with the counters of frames, rounds and wins.
-/

namespace Arcade.Duel

open Live Checked

namespace Fighter

def direction? (input : Buttons) : Option Int32 :=
  minus? (if input.contains .moveRight then 1 else 0) (if input.contains .moveLeft then 1 else 0)

def steer? (f : Fighter) : Option Fighter := do
  let direction ← direction? f.input
  let velX ← if f.blocking then some 0 else times? direction walkSpeed
  let f := { f with velX := velX }
  return if f.grounded && !f.blocking && wantsJump f.input then { f with velY := jumpVelocity } else f

def fly? (f : Fighter) : Option Fighter :=
  if !f.grounded || 0 < f.velY then do
    let y ← plus? f.y f.velY
    let velY ← minus? f.velY gravity
    return if y ≤ 0 then { f with y := 0, velY := 0 } else { f with y := y, velY := velY }
  else some f

def walk? (f : Fighter) : Option Fighter := do
  let x ← plus? f.x f.velX
  let lowest ← negated? arenaHalfWidth
  return { f with x := Fixed.clamp x lowest arenaHalfWidth }

/-- The attack of a fighter who has moved. -/
def strike (f : Fighter) : Fighter × Option Attack :=
  match f.attack? with
  | some attack => (f.fire attack, some attack)
  | none => (f, none)

def move? (f : Fighter) : Option (Fighter × Option Attack) := do
  let f ← f.ready.steer?
  let f ← f.fly?
  let f ← f.walk?
  return f.strike

def hurt? (f : Fighter) (damage : Int32) : Option Fighter :=
  if 0 < damage then do
    let left ← minus? f.health damage
    let f := { f with health := if left < 0 then 0 else left }
    return if f.blocking then f else { f with pose := .hit, poseFrames := reactionFrames }
  else some f

end Fighter

namespace Match

def distance? (f g : Fighter) : Option Fixed := do
  let difference ← minus? f.x g.x
  if difference < 0 then negated? difference else some difference

def separate? (before after : Fighter × Fighter) : Option (Fighter × Fighter) := do
  let distance ← distance? after.1 after.2
  return if distance < minGap then
    ({ after.1 with x := before.1.x }, { after.2 with x := before.2.x })
  else after

def connects? (attack : Attack) (attacker defender : Fighter) : Option Bool := do
  let distance ← distance? attacker defender
  return distance ≤ attack.range && 0 < defender.health

def blow? (attack : Attack) (attacker defender : Fighter) (bonus : Int32) : Option Int32 := do
  let full ← plus? attack.damage bonus
  return if blocks attacker defender then reduced full else full

/-- The damage of an attack. It is counted from nothing. -/
def damageOf? (attack : Option Attack) (attacker defender : Fighter) (random : Generator) :
    Option (Int32 × Generator) :=
  match attack with
  | none => some (0, random)
  | some a => do
    let hits ← connects? a attacker defender
    if hits then
      let (bonus, random) := random.between 0 2
      let dealt ← blow? a attacker defender bonus
      let total ← plus? 0 dealt
      return (total, random)
    else return (0, random)

def moved? (m : Match) : Option ((Fighter × Fighter) × Option Attack × Option Attack) := do
  let left ← m.left.move?
  let right ← m.right.move?
  let fighters ← separate? (m.left, m.right) (left.1, right.1)
  return (face fighters, left.2, right.2)

def exchange? (f : Fighter × Fighter) (leftAttack rightAttack : Option Attack)
    (random : Generator) : Option ((Fighter × Fighter) × Generator) := do
  let toRight ← damageOf? leftAttack f.1 f.2 random
  let toLeft ← damageOf? rightAttack f.2 f.1 toRight.2
  let left ← f.1.hurt? toLeft.1
  let right ← f.2.hurt? toRight.1
  return ((left.settle, right.settle), toLeft.2)

/-- The next round. The first seat begins as far to the left as the second to the right. -/
def beginRound? (config : Config) (m : Match) : Option Match := do
  let x ← negated? startX
  let m := m.beginRound config
  return { m with left := { m.left with x := x } }

/-! ### Frames that check their counters -/

/-- Whether the round is over, as it is seen after an exchange. -/
def roundEnds (m : Match) : Bool :=
  m.left.health ≤ 0 || m.right.health ≤ 0 || m.timerFrames = 0

/-- A match after the exchange of a frame of fighting. -/
def fought? (m : Match) : Option Match := do
  let moved ← m.moved?
  let exchanged ← exchange? moved.1 moved.2.1 moved.2.2 m.random
  return { m with
    left := exchanged.1.1, right := exchanged.1.2, random := exchanged.2
    timerFrames := countDown m.timerFrames }

/-- The wins of a player. -/
def winsOf (m : Match) (player : String) : UInt32 :=
  (Dict.get? m.roundWins player).getD 0

/-- The wins once the round is over. -/
def winsAfter? (m : Match) : Option (Dict UInt32) :=
  match m.roundWinner? with
  | some p => do
    let wins ← next32? (m.winsOf p)
    return Dict.insert m.roundWins p wins
  | none => some m.roundWins

/-- The match after the end of a round. -/
def endRound? (config : Config) (m : Match) : Option Match := do
  let wins ← m.winsAfter?
  let m := { m with roundWins := wins }
  match decided? config wins with
  | some p => return { m with winner := some p, phase := .finished }
  | none =>
    if maxRounds ≤ m.round then return { m with winner := leader? wins, phase := .finished }
    else return { m with phase := .roundOver, phaseFrames := intermissionFrames }

def fightCounted? (config : Config) (m : Match) : Option Match := do
  let m ← m.fought?
  if m.roundEnds then m.endRound? config else some m

def nextRound? (config : Config) (m : Match) : Option Match := do
  let round ← next32? m.round
  let next ← m.beginRound? config
  return { next with round := round }

def advanceCounted? (config : Config) (m : Match) : Option Match :=
  match m.phase with
  | .waiting =>
    let left := countDown m.phaseFrames
    some { m with phaseFrames := left, phase := if left = 0 then .fighting else .waiting }
  | .fighting => m.fightCounted? config
  | .roundOver =>
    let m := { m with phaseFrames := countDown m.phaseFrames }
    if m.phaseFrames = 0 then m.nextRound? config else some m
  | .finished => some m

/-- One frame, if nothing in it overflows, neither what is simulated nor what is counted. -/
def stepCounted? (config : Config) (m : Match) : Option Match :=
  if m.phase.isFinished then some m
  else do
    let frame ← next64? m.frame
    let next ← ({ m with frame := frame } : Match).advanceCounted? config
    return next.releaseInputs

end Match

end Arcade.Duel
