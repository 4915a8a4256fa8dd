import Arcade.Play.Injector
/-!
# Energy

Every action costs energy, and every processed action gives each player some of it back. A player
who cannot pay is held back and told why. The balances are kept in the data, so they are stored with
it; an unknown player, or an unreadable balance, counts as full.

* `Energy.balance` reads a balance;
* `spend` charges a player, `regenerate` gives to all;
* the price is checked before the action and charged after it, so an action that the game refuses
  costs nothing.
-/

namespace Arcade.Mechanics

open Play

/-- The options of the energy injector. -/
structure Energy where
  /-- the highest balance, and the first -/
  max : Nat := 100
  /-- the price of an action -/
  cost : Nat := 10
  /-- what every player gets back with each processed action -/
  regen : Nat := 5
  deriving DecidableEq, Repr

namespace Energy

/-- The name under which the balances are kept. -/
def key : String := "_energy"

/-- Why options are refused. -/
inductive Fault where
  | unreadable (error : Json.DecodeError)
  | costExceedsMax (cost max : Nat)

def Fault.message : Fault → String
  | .unreadable error => error.message
  | .costExceedsMax cost max => "cost " ++ toString cost ++ " exceeds max " ++ toString max

def schema : Json.Schema Energy Energy where
  name := "EnergyOptions"
  fields := [
    .of "max" true Json.Decode.nat fun n e => { e with max := n },
    .of "cost" true Json.Decode.nat fun n e => { e with cost := n },
    .of "regen" true Json.Decode.nat fun n e => { e with regen := n }]
  strict := true
  start := {}
  finish := .ok

/-- The injector that some options describe; `null` stands for the standard ones. -/
def ofOptions (options : Json) : Except Fault Energy :=
  if options.isNull then .ok {}
  else
    match schema.decode (.ofJson options) with
    | .error e => .error (.unreadable e)
    | .ok e => if e.max < e.cost then .error (.costExceedsMax e.cost e.max) else .ok e

/-- A balance as it is stored. -/
def balanceOf (e : Energy) (stored : Option Json) : Nat :=
  (stored.bind Json.asUInt64?).getD e.max

/-- The balance of a player. -/
def balance (e : Energy) (data : Data) (player : PlayerId) : Nat :=
  e.balanceOf ((Dict.get? data key).bind (·.field? player))

/-- The balances of a fresh game: all full. -/
def initialBalances (e : Energy) (players : List PlayerId) : Dict Json :=
  Dict.ofList (players.map fun p => (p, .nat e.max))

/-- What a player who cannot pay is told. -/
def shortage (energy required : Nat) : Json :=
  .obj [("energy", .nat energy), ("reason", .str "insufficient_energy"),
    ("required", .nat required)]

/-- The balances in the data, if they are a dictionary; else none. -/
def storedBalances (data : Data) : Dict Json :=
  ((Dict.get? data key).bind Json.asObj?).getD []

/-- Takes the price from a player's balance, down to zero at most. -/
def spend (e : Energy) (player : PlayerId) (balances : Dict Json) : Dict Json :=
  Dict.insert balances player (.nat (e.balanceOf (Dict.get? balances player) - e.cost))

/-- Gives every balance its share, up to the highest at most. -/
def regenerate (e : Energy) (balances : Dict Json) : Dict Json :=
  Dict.mapValues (fun b => .nat (min (e.balanceOf (some b) + e.regen) e.max)) balances

/-- The balances after a processed action of a player. -/
def charged (e : Energy) (player : PlayerId) (data : Data) : Dict Json :=
  e.regenerate (e.spend player (storedBalances data))

instance : Injector Energy where
  name _ := "energy"
  prepare e players := (Dict.insert [] key (.obj (e.initialBalances players)), e)
  before e player _ data :=
    let energy := e.balance data player
    (if energy < e.cost then .veto (shortage energy e.cost) else .pass, e)
  after e player _ outcome :=
    let balances := e.charged player outcome.data
    let outcome := { outcome with data := Dict.insert outcome.data key (.obj balances) }
    (outcome.emit "energy_changed" (some player)
      (.obj [("energy", .orNull (Dict.get? balances player))]), e)

end Energy

end Arcade.Mechanics
