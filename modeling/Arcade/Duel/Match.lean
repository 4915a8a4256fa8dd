import Arcade.Duel.Config
import Arcade.Duel.Fighter
import Arcade.Generator
/-!
# Matches

A match of two fighters goes by rounds: a countdown, fighting until somebody is knocked out or
the clock runs out, an intermission. Whoever first wins enough rounds wins the match; after the
last round the leader wins, if there is one.

In a frame of fighting both fighters move first, and then both attacks are resolved on the positions
after the movement, so the order of the seats never decides an exchange.

* `Match.begin`, `Match.beginRound` set a match and a round up;
* `Match.exchange` is the damage that two attacks do;
* `Match.fight`, `Match.endRound`, `Match.step` are one frame of fighting, the end of a round,
  and one frame of any phase.
-/

namespace Arcade.Duel

open Live (Buttons MatchPhase)

/-- Frames of countdown before each round. -/
def countdownFrames : UInt32 := 60

/-- Frames between the end of a round and the next countdown. -/
def intermissionFrames : UInt32 := 90

/-- After so many rounds the match ends in any case. -/
def maxRounds : UInt32 := 9

/-- A match under way. -/
structure Match where
  /-- the fighter of the first seat, who starts on the left -/
  left : Fighter
  right : Fighter
  frame : UInt64 := 0
  phase : MatchPhase := .waiting
  /-- frames left of a countdown or an intermission -/
  phaseFrames : UInt32 := 0
  round : UInt32 := 0
  /-- frames left on the clock of the round -/
  timerFrames : UInt32 := 0
  roundWins : Dict UInt32
  winner : Option String := none
  random : Generator
  deriving DecidableEq, Repr

namespace Match

/-! ### Setting up -/

/-- A fresh fighter of the first seat. -/
def freshLeft (config : Config) (id : String) : Fighter :=
  { id := id, x := -startX, health := config.health, facing := 1 }

/-- A fresh fighter of the second seat. -/
def freshRight (config : Config) (id : String) : Fighter :=
  { id := id, x := startX, health := config.health, facing := -1 }

/-- The next round, from its countdown on. -/
def beginRound (config : Config) (m : Match) : Match :=
  { m with
    round := m.round + 1
    timerFrames := config.roundFrames
    phase := .waiting
    phaseFrames := countdownFrames
    left := freshLeft config m.left.id
    right := freshRight config m.right.id }

/-- A match of two players, in its first round. -/
def begin (config : Config) (left right : String) (seed : UInt64) : Match :=
  beginRound config
    { left := freshLeft config left, right := freshRight config right
      roundWins := Dict.ofList [(left, 0), (right, 0)], random := .ofSeed seed }

/-! ### Fighting -/

/-- Undoes the walk of both fighters if it has brought them too close. -/
def separate (before after : Fighter × Fighter) : Fighter × Fighter :=
  if Fixed.abs (after.1.x - after.2.x) < minGap then
    ({ after.1 with x := before.1.x }, { after.2 with x := before.2.x })
  else after

/-- Turns both fighters toward each other. -/
def face (f : Fighter × Fighter) : Fighter × Fighter :=
  let toward : Int8 := if f.1.x ≤ f.2.x then 1 else -1
  ({ f.1 with facing := toward }, { f.2 with facing := -toward })

/-- Whether an attack connects: the defender stands within its range and is not yet down. -/
def connects (attack : Attack) (attacker defender : Fighter) : Bool :=
  Fixed.abs (attacker.x - defender.x) ≤ attack.range && 0 < defender.health

/-- Whether the defender blocks an attacker whom he faces. -/
def blocks (attacker defender : Fighter) : Bool :=
  defender.blocking && defender.facing == -attacker.facing

/-- The damage of a blow that a block reduces to a quarter, one at least. -/
def reduced (blow : Int32) : Int32 :=
  let quarter := blow / 4
  if quarter < 1 then 1 else quarter

/-- The damage of a connecting attack with its bonus. -/
def blow (attack : Attack) (attacker defender : Fighter) (bonus : Int32) : Int32 :=
  let full := attack.damage + bonus
  if blocks attacker defender then reduced full else full

/-- The damage of an attack, if there is one. A bonus is drawn only for one that connects. -/
def damageOf (attack : Option Attack) (attacker defender : Fighter) (random : Generator) :
    Int32 × Generator :=
  match attack with
  | none => (0, random)
  | some a =>
    if connects a attacker defender then
      let (bonus, random) := random.between 0 2
      (blow a attacker defender bonus, random)
    else (0, random)

/-- The end of a round: the healthier fighter has won it. The match is decided once a player has
enough wins, or after the last round. -/
def roundWinner? (m : Match) : Option String :=
  if m.right.health < m.left.health then some m.left.id
  else if m.left.health < m.right.health then some m.right.id
  else none

/-- Adds a win to a player's. -/
def addWin (wins : Dict UInt32) (player : String) : Dict UInt32 :=
  Dict.insert wins player ((Dict.get? wins player).getD 0 + 1)

/-- The first player, by id, who has enough wins. -/
def decided? (config : Config) (wins : Dict UInt32) : Option String :=
  (wins.find? fun e => config.winsNeeded ≤ e.2).map Prod.fst

/-- The player with more wins than the other. -/
def leader? : Dict UInt32 → Option String
  | [a, b] => if b.2 < a.2 then some a.1 else if a.2 < b.2 then some b.1 else none
  | _ => none

/-- The match after the end of a round. -/
def endRound (config : Config) (m : Match) : Match :=
  let wins := match m.roundWinner? with
    | some p => addWin m.roundWins p
    | none => m.roundWins
  let m := { m with roundWins := wins }
  match decided? config wins with
  | some p => { m with winner := some p, phase := .finished }
  | none =>
    if maxRounds ≤ m.round then { m with winner := leader? wins, phase := .finished }
    else { m with phase := .roundOver, phaseFrames := intermissionFrames }

/-- The fighters after their movement, with the attacks they fire. -/
def moved (m : Match) : (Fighter × Fighter) × Option Attack × Option Attack :=
  let (left, leftAttack) := m.left.move
  let (right, rightAttack) := m.right.move
  (face (separate (m.left, m.right) (left, right)), leftAttack, rightAttack)

/-- Both fighters, and the generator, after an exchange of attacks. -/
def exchange (f : Fighter × Fighter) (leftAttack rightAttack : Option Attack)
    (random : Generator) : (Fighter × Fighter) × Generator :=
  let (toRight, random) := damageOf leftAttack f.1 f.2 random
  let (toLeft, random) := damageOf rightAttack f.2 f.1 random
  (((f.1.hurt toLeft).settle, (f.2.hurt toRight).settle), random)

/-- One frame of fighting. -/
def fight (config : Config) (m : Match) : Match :=
  let (fighters, leftAttack, rightAttack) := m.moved
  let (fighters, random) := exchange fighters leftAttack rightAttack m.random
  let m : Match :=
    { m with
      left := fighters.1, right := fighters.2, random := random
      timerFrames := countDown m.timerFrames }
  if m.left.health ≤ 0 || m.right.health ≤ 0 || m.timerFrames = 0 then m.endRound config else m

/-! ### Frames -/

/-- Takes the inputs back: they hold for one frame only. -/
def releaseInputs (m : Match) : Match :=
  { m with left := { m.left with input := .none }, right := { m.right with input := .none } }

/-- What one frame does in the phase that the match is in. -/
def advance (config : Config) (m : Match) : Match :=
  match m.phase with
  | .waiting =>
    let left := countDown m.phaseFrames
    { m with phaseFrames := left, phase := if left = 0 then .fighting else .waiting }
  | .fighting => m.fight config
  | .roundOver =>
    let m := { m with phaseFrames := countDown m.phaseFrames }
    if m.phaseFrames = 0 then m.beginRound config else m
  | .finished => m

/-- One frame, whose sums wrap around. A finished match stays as it is. -/
def step (config : Config) (m : Match) : Match :=
  if m.phase.isFinished then m
  else (({ m with frame := m.frame + 1 } : Match).advance config).releaseInputs

/-- Changes the fighter of an id, the first one if both have it. -/
def updateFighter? (m : Match) (id : String) (f : Fighter → Fighter) : Option Match :=
  if m.left.id = id then some { m with left := f m.left }
  else if m.right.id = id then some { m with right := f m.right }
  else none

end Match

end Arcade.Duel
