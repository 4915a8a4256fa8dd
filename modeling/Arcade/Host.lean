import Arcade.Clicker
import Arcade.Duel.Engine
import Arcade.Mechanics.BuiltIn
import Arcade.Play.Session
/-!
# The host

The games that a host offers, by their names, and one type for a session of any of them. A game is
created from its configuration: the options of the game are looked at first, then the injectors in
their order.
-/

namespace Arcade

open Play

/-- The names of the games, in increasing order. -/
def Host.gameTypes : List String := ["clicker", "duel"]

/-- A session of one of the games. -/
inductive HostedGame (ι : Type) where
  | clicker (session : Session Clicker ι)
  | duel (session : Session Duel.Game ι)

namespace HostedGame

variable {ι : Type} [Injector ι]

/-- Does something with the session, whatever the game. -/
def run {α : Type} (g : HostedGame ι)
    (f : {γ : Type} → [GameRules γ] → Session γ ι → α × Session γ ι) : α × HostedGame ι :=
  match g with
  | .clicker s => (f s).map id .clicker
  | .duel s => (f s).map id .duel

/-- Does something with the session that a build which checks its sums may not come through. -/
def run? {α : Type} (g : HostedGame ι)
    (f : {γ : Type} → [GameRules γ] → Session γ ι → Option (α × Session γ ι)) :
    Option (α × HostedGame ι) :=
  match g with
  | .clicker s => (f s).map fun r => r.map id .clicker
  | .duel s => (f s).map fun r => r.map id .duel

/-- Asks the session something, whatever the game. -/
def ask {α : Type} (g : HostedGame ι)
    (f : {γ : Type} → [GameRules γ] → Session γ ι → α) : α :=
  match g with
  | .clicker s => f s
  | .duel s => f s

end HostedGame

namespace Host

variable {ι : Type} [Injector ι]

/-- Creates a game, with injectors from the catalog. -/
def create (catalog : Catalog ι) (id : String) (config : GameConfig) :
    Except ConfigFault (HostedGame ι) :=
  if config.gameType = "clicker" then
    match Clicker.ofConfig config with
    | .error e => .error (.invalidGameOptions config.gameType e.message)
    | .ok rules => (Session.ofConfig catalog id rules config).map .clicker
  else if config.gameType = "duel" then
    match Duel.ofConfig config with
    | .error e => .error (.invalidGameOptions config.gameType e.message)
    | .ok rules => (Session.ofConfig catalog id rules config).map .duel
  else .error (.unknownGameType config.gameType)

end Host

end Arcade
