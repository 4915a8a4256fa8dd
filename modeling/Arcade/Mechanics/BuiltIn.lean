import Arcade.Mechanics.Challenge
import Arcade.Mechanics.Energy
/-!
# The built-in injectors

The injectors that every host offers, as one type, and the catalog under whose names configurations
ask for them.
-/

namespace Arcade.Mechanics

open Play

/-- A built-in injector. -/
inductive BuiltIn where
  | energy (e : Energy)
  | challenge (c : Challenge)

instance : Injector BuiltIn where
  name
    | .energy e => Injector.name e
    | .challenge c => Injector.name c
  prepare
    | .energy e, players => (Injector.prepare e players).map id .energy
    | .challenge c, players => (Injector.prepare c players).map id .challenge
  before
    | .energy e, player, action, data => (Injector.before e player action data).map id .energy
    | .challenge c, player, action, data => (Injector.before c player action data).map id .challenge
  after
    | .energy e, player, action, outcome => (Injector.after e player action outcome).map id .energy
    | .challenge c, player, action, outcome =>
      (Injector.after c player action outcome).map id .challenge

/-- The built-in injectors by their names. -/
def BuiltIn.catalog : Catalog BuiltIn :=
  [("challenge", fun options =>
      ((Challenge.ofOptions options).map BuiltIn.challenge).mapError Challenge.Fault.message),
    ("energy", fun options =>
      ((Energy.ofOptions options).map BuiltIn.energy).mapError Energy.Fault.message)]

end Arcade.Mechanics
