import Arcade.Play.Rules
/-!
# A counting game

The smallest game that uses all that rules may do: players add to their numbers until one of them
reaches a target. It may refuse to start, it draws, it emits, and it refuses actions after having
drawn and emitted. The numbers stand in the data under the names of the players, which begin with
`p`.
-/

namespace Arcade.Sample

open Play

/-- The rules of the counting game. -/
structure Counter where
  /-- how many players may take part -/
  cap : Nat := 3
  /-- the number that wins -/
  target : Int := 10
  /-- whether no game can be started -/
  failsToStart : Bool := false
  deriving DecidableEq, Repr

namespace Counter

/-- The target that a word stands for: words from the half of the range on count down from zero. -/
def toTarget (word : Nat) : Int :=
  (UInt64.ofNat word).toInt64.toInt

/-- The game that some options describe; what they do not say, or not in the right type, stays. -/
def ofOptions (options : Json) : Counter where
  cap := ((options.field? "cap").bind Json.asUInt64?).getD 3
  target := (((options.field? "target").bind Json.asUInt64?).map toTarget).getD 10
  failsToStart := ((options.field? "fail_init").bind Json.asBool?).getD false

/-- The numbers of the players. -/
def scores (data : Data) : Dict Int :=
  data.filterMap fun e =>
    if e.1.startsWith "p" then e.2.asInt64?.map fun n => (e.1, n) else none

/-- The data of a fresh game. -/
def freshData (players : List PlayerId) : Data :=
  Dict.ofList (players.map fun p => (p, .int 0))

/-- Adds to the number of a player. -/
def add (state : GameState) (player : PlayerId) (action : Action) (multiplier : Float)
    (stage : Stage) : Data × Stage :=
  let amount := ((action.field? "amount").bind Json.asInt64?).getD 1
  let total := ((Dict.get? state.data player).bind Json.asInt64?).getD 0 + amount
  (Dict.insert state.data player (.int total),
    stage.emit "added" (some player)
      (.obj [("multiplier", .real multiplier), ("total", .int total), ("turn", .nat state.turn.toNat)]))

instance : GameRules Counter where
  descriptor c := .byTurns "counter" c.cap
  prepare c players stage :=
    let stage := stage.emit "preparing" none (.obj [("players", .nat players.length)])
    if c.failsToStart then ⟨.error (.invalidState "refused"), c, stage⟩
    else ⟨.ok (freshData players), c, stage⟩
  act c state player action multiplier stage :=
    if action.kind = "add" then
      let (data, stage) := add state player action multiplier stage
      ⟨.ok (some data), c, stage⟩
    else if action.kind = "noop" then ⟨.ok none, c, stage⟩
    else if action.kind = "draw" then
      let (n, stage) := stage.drawBetween 1 1000000
      ⟨.ok (some (Dict.insert state.data "drawn" (.int n.toInt))), c, stage⟩
    else
      let stage := stage.draw.2.emit "never_seen" (some player) .null
      ⟨.error (.byRules ("Rejected: " ++ action.kind)), c, stage⟩
  isOver c state := (scores state.data).any fun e => c.target ≤ e.2
  winner c state := ((scores state.data).find? fun e => c.target ≤ e.2).map Prod.fst
  scores _ state := scores state.data
  validActions _ _ player := if player = "p3" then [] else ["add", "noop"]

end Counter

end Arcade.Sample
