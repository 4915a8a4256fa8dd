import Arcade.Number.Checked
import Arcade.Number.Real
import Arcade.Play.Rules
/-!
# Clicker

Players take turns, one action each, and click for points; who reaches the target first wins. Every
player has a secret lucky number: the click that crosses it brings a bonus, once.

The data holds the `scores`, the `order` of the seats, the `lucky` numbers, the players who have
claimed their bonus (`luckyClaimed`) and the `target`. The rules read all of it from the data each
time, since a stored game comes back as data only; only the target that decides a game is their own.

* `checkTurn`, `clickCount` are the conditions on an action;
* `click` is the effect of a click, whose sums wrap around; `click?` checks them;
* a tie goes to the earlier seat.
-/

namespace Arcade

open Play

/-- The rules of clicker: the points that win, at least two. -/
structure Clicker where
  target : Int
  deriving DecidableEq, Repr

namespace Clicker

/-- The points that win unless the configuration says otherwise. -/
def standardTarget : Nat := 50

/-- How many clicks one action may make. -/
def maxClicks : Int := 5

/-- The points for crossing the lucky number. -/
def luckyBonus : Int64 := 5

/-- How many players may take part. -/
def maxPlayers : Nat := 4

/-- A target that is not an integer of at least two. -/
structure BadTarget where
  found : Json

def BadTarget.message (b : BadTarget) : String :=
  "target must be an integer >= 2, got " ++ b.found.text

/-- The rules with a target, held at the largest integer of 64 bits with a sign. -/
def ofTarget (target : Nat) : Clicker :=
  ⟨min target Words.maxInt64⟩

/-- The rules that a configuration describes. -/
def ofConfig (config : GameConfig) : Except BadTarget Clicker :=
  match config.options.field? "target" with
  | none => .ok (ofTarget standardTarget)
  | some j =>
    match j.asUInt64? with
    | some n => if 2 ≤ n then .ok (ofTarget n) else .error ⟨j⟩
    | none => .error ⟨j⟩

/-- Why the rules forbid an action. -/
inductive Fault where
  | notYourTurn
  | badCount
  | unknownAction (kind : String)
  deriving DecidableEq, Repr

/-- The wording of a fault. -/
def Fault.message : Fault → String
  | .notYourTurn => "Not your turn"
  | .badCount => "count must be between 1 and " ++ toString maxClicks
  | .unknownAction kind => "Unknown action: " ++ kind

/-! ### Reading the data -/

/-- The players in the order of their seats. -/
def order (data : Data) : List PlayerId :=
  match Dict.get? data "order" with
  | none => []
  | some j => ((Json.Decode.list Json.Decode.str (.ofJson j)).toOption).getD []

/-- Whose turn it is. -/
def whoseTurn? (state : GameState) : Option PlayerId :=
  let seats := order state.data
  seats[state.turn.toNat % seats.length]?

/-- The scores, if they are a dictionary; else none. -/
def scoreTable (data : Data) : Dict Json :=
  ((Dict.get? data "scores").bind Json.asObj?).getD []

/-- The score of a player, zero if there is none. -/
def score (data : Data) (player : PlayerId) : Int :=
  ((Dict.get? (scoreTable data) player).bind Json.asInt64?).getD 0

/-- The lucky number of a player. -/
def lucky? (data : Data) (player : PlayerId) : Option Int :=
  ((Dict.get? data "lucky").bind (·.field? player)).bind Json.asInt64?

/-- Whether a document value is the text `s`. -/
def isText (s : String) : Json → Bool
  | .str t => t == s
  | _ => false

/-- Whether a player has claimed the bonus. -/
def hasClaimed (data : Data) (player : PlayerId) : Bool :=
  (((Dict.get? data "luckyClaimed").bind Json.asArr?).getD []).any (isText player)

/-! ### Conditions on an action -/

/-- Whether it is the player's turn. -/
def checkTurn (state : GameState) (player : PlayerId) : Except Fault Unit :=
  if whoseTurn? state = some player then .ok () else .error .notYourTurn

/-- How many clicks an action makes: one, unless it says otherwise. -/
def clickCount (action : Action) : Except Fault Int :=
  match action.field? "count" with
  | none => .ok 1
  | some j =>
    match j.asInt64? with
    | some n => if 1 ≤ n ∧ n ≤ maxClicks then .ok n else .error .badCount
    | none => .error .badCount

/-- Whether the rules allow an action. -/
def check (state : GameState) (player : PlayerId) (action : Action) : Except Fault Unit := do
  checkTurn state player
  if action.kind = "pass" then .ok ()
  else if action.kind = "click" then
    let _ ← clickCount action
    .ok ()
  else .error (.unknownAction action.kind)

/-! ### Effects -/

/-- The points for some clicks, scaled by a multiplier, to the nearest integer. -/
def points (count : Int) (multiplier : Float) : Int64 :=
  Real.roundToInt64 (Float.ofInt count * multiplier)

/-- The lucky number that a click from one score to another crosses, if the bonus is still open. -/
def crossed? (data : Data) (player : PlayerId) (before total : Int64) : Option Int :=
  (lucky? data player).filter fun n =>
    !hasClaimed data player && before.toInt < n && n ≤ total.toInt

/-- Some data with a player among those who have claimed the bonus. -/
def claim (data : Data) (player : PlayerId) : Data :=
  match Dict.get? data "luckyClaimed" with
  | some (.arr claimed) => Dict.insert data "luckyClaimed" (.arr (claimed ++ [.str player]))
  | _ => data

/-- Some data with a new score for a player. -/
def setScore (data : Data) (player : PlayerId) (total : Int64) : Data :=
  Dict.insert data "scores" (.obj (Dict.insert (scoreTable data) player (.int total.toInt)))

/-- The event of a bonus. -/
def bonusEvent (player : PlayerId) (lucky : Int) : Event :=
  ⟨"lucky_bonus", some player, .obj [("bonus", .int luckyBonus.toInt), ("number", .int lucky)]⟩

/-- The event of a click. -/
def clickEvent (player : PlayerId) (points total : Int64) : Event :=
  ⟨"clicked", some player, .obj [("points", .int points.toInt), ("total", .int total.toInt)]⟩

/-- The effect of a click that makes some points: the new data, and the events. A score that does not fit
its word wraps around in a build that does not check its sums; `click?` is the click of one that does. -/
def click (data : Data) (player : PlayerId) (points : Int64) : Data × List Event :=
  let before := Int64.ofInt (score data player)
  let total := before + points
  match crossed? data player before total with
  | some lucky =>
    let total := total + luckyBonus
    (setScore (claim data player) player total,
      [bonusEvent player lucky, clickEvent player points total])
  | none => (setScore data player total, [clickEvent player points total])

/-- The effect of a click in a build that checks its sums: there is none where the score, with the points or
with the bonus, does not fit its word. -/
def click? (data : Data) (player : PlayerId) (points : Int64) : Option (Data × List Event) := do
  let before := Int64.ofInt (score data player)
  let total ← Checked.plus64? before points
  match crossed? data player before total with
  | some lucky =>
    let total ← Checked.plus64? total luckyBonus
    return (setScore (claim data player) player total,
      [bonusEvent player lucky, clickEvent player points total])
  | none => return (setScore data player total, [clickEvent player points total])

/-- The effect of an allowed action. -/
def apply (state : GameState) (player : PlayerId) (action : Action) (multiplier : Float) :
    Except Fault (Data × List Event) := do
  checkTurn state player
  if action.kind = "pass" then .ok (state.data, [⟨"passed", some player, .obj []⟩])
  else if action.kind = "click" then
    let count ← clickCount action
    .ok (click state.data player (points count multiplier))
  else .error (.unknownAction action.kind)

/-- The answer to an action in a build that checks its sums, if it has one. Only a click adds. -/
def applied? (state : GameState) (player : PlayerId) (action : Action) (multiplier : Float) :
    Option (Except Fault (Data × List Event)) :=
  match checkTurn state player, action.kind, clickCount action with
  | .ok (), "click", .ok count => (click? state.data player (points count multiplier)).map .ok
  | _, _, _ => some (apply state player action multiplier)

/-! ### The start -/

/-- The largest lucky number: one less than the target, as far as it fits 32 bits. -/
def luckyLimit (c : Clicker) : Int32 :=
  Int32.ofInt (min (c.target - 1) Words.maxInt32)

/-- Draws a lucky number for every player, in the order of the seats. -/
def drawLucky (c : Clicker) : List PlayerId → Stage → List (String × Json) × Stage
  | [], stage => ([], stage)
  | p :: rest, stage =>
    let (n, stage) := stage.drawBetween 1 c.luckyLimit
    let (more, stage) := drawLucky c rest stage
    ((p, .int n.toInt) :: more, stage)

/-- The data of a fresh game. -/
def freshData (c : Clicker) (players : List PlayerId) (lucky : List (String × Json)) : Data :=
  Dict.ofList [
    ("scores", .obj (Dict.ofList (players.map fun p => (p, .int 0)))),
    ("order", .strs players),
    ("lucky", .obj (Dict.ofList lucky)),
    ("luckyClaimed", .arr []),
    ("target", .int c.target)]

/-! ### The rules -/

/-- Whether a score has reached the target. -/
def isOver (c : Clicker) (state : GameState) : Bool :=
  (Dict.values (scoreTable state.data)).any fun s => c.target ≤ s.asInt64?.getD 0

/-- The first of the players with the highest score, of those that have reached the target. -/
def leader (c : Clicker) (data : Data) : List PlayerId → Option (PlayerId × Int) → Option PlayerId
  | [], best => best.map Prod.fst
  | p :: rest, best =>
    let s := score data p
    if c.target ≤ s && best.all fun b => b.2 < s then leader c data rest (some (p, s))
    else leader c data rest best

/-- What a player may see: of the lucky numbers, his own. -/
def viewOf (state : GameState) (player : PlayerId) : GameState :=
  match Dict.get? state.data "lucky" with
  | some (.obj lucky) =>
    { state with
      data := Dict.insert state.data "lucky" (.obj (lucky.filter fun e => e.1 == player)) }
  | _ => state

instance : GameRules Clicker where
  descriptor _ := .byTurns "clicker" maxPlayers
  prepare c players stage :=
    let (lucky, stage) := c.drawLucky players stage
    ⟨.ok (c.freshData players lucky), c, stage⟩
  act c state player action multiplier stage :=
    match apply state player action multiplier with
    | .error e => ⟨.error (.byRules e.message), c, stage⟩
    | .ok (data, events) =>
      ⟨.ok (some data), c, { stage with events := ⟨stage.events.pending ++ events⟩ }⟩
  actFits _ state player action multiplier := (applied? state player action multiplier).isSome
  isOver := isOver
  winner c state := c.leader state.data (order state.data) none
  scores _ state := Dict.ofList ((order state.data).map fun p => (p, score state.data p))
  view _ state player := viewOf state player
  validActions _ state player :=
    if state.isEnded || (checkTurn state player).toBool == false then [] else ["click", "pass"]
  validate _ state player action :=
    (check state player action).mapError fun e => .byRules e.message

end Clicker

end Arcade
