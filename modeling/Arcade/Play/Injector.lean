import Arcade.Play.Action
/-!
# Injectors

An injector wraps every action of any game. Before the game sees an action, an injector may veto
it, replace it or scale its effect; after the game has accepted it, an injector may change the
outcome. A list of injectors is a pipeline: both hooks run in the order of the list, and every
injector sees what the ones before it made of the action or the outcome.

* `Verdict`, `Outcome` are what one injector answers;
* `Pipeline.prepare`, `Pipeline.before`, `Pipeline.after` run the whole list. The hook before an
  action stops at the first veto; injectors after it are not asked and keep their state.
-/

namespace Arcade.Play

/-- What one injector says to an action. -/
structure Verdict where
  /-- a veto when false -/
  proceed : Bool := true
  /-- an action in place of the one submitted -/
  action : Option Action := none
  /-- a factor for the effect of the action -/
  multiplier : Option Float := none
  /-- what the player should know -/
  challenge : Option Json := none

/-- Lets an action through. -/
def Verdict.pass : Verdict := {}

/-- Stops an action, with what the player should know about it. -/
def Verdict.veto (challenge : Json) : Verdict :=
  { proceed := false, challenge := some challenge }

/-- An accepted action on its way back to the player. -/
structure Outcome where
  data : Data
  events : List Event
  challenge : Option Json

/-- Adds an event to an outcome. -/
def Outcome.emit (o : Outcome) (kind : String) (player : Option PlayerId) (data : Json) : Outcome :=
  { o with events := o.events ++ [⟨kind, player, data⟩] }

/-- A rule that wraps the actions of any game. Each hook also gives the injector's new value. -/
class Injector (ι : Type) where
  name : ι → String
  /-- what the injector adds to the data of a fresh game -/
  prepare : ι → List PlayerId → Data × ι := fun i _ => ([], i)
  /-- the verdict on an action, given the data before it -/
  before : ι → PlayerId → Action → Data → Verdict × ι
  /-- the outcome of an accepted action -/
  after : ι → PlayerId → Action → Outcome → Outcome × ι := fun i _ _ outcome => (outcome, i)

namespace Pipeline

variable {ι : Type} [Injector ι]

/-- The names of the injectors, in order. -/
def names (injectors : List ι) : List String :=
  injectors.map Injector.name

/-- What all injectors add to the data of a fresh game; of two values under one name the later
stays. -/
def prepare (players : List PlayerId) : List ι → Data × List ι
  | [] => ([], [])
  | i :: rest =>
    let (fragment, i) := Injector.prepare i players
    let (fragments, rest) := prepare players rest
    (Dict.insertAll fragment fragments, i :: rest)

/-- The joint verdict. -/
inductive Joint where
  /-- the game runs the action, scaled by the multiplier -/
  | proceed (action : Action) (multiplier : Float) (challenge : Option Json)
  /-- an injector stopped the action -/
  | vetoed (injector : String) (challenge : Option Json)

/-- The factor so far times a further one; a factor that is not finite is ignored. -/
def scaled (multiplier : Float) : Option Float → Float
  | some m => if m.isFinite then multiplier * m else multiplier
  | none => multiplier

/-- Asks the injectors in turn, given what the ones before them made of the action. -/
def beforeFrom (player : PlayerId) (data : Data) :
    List ι → Action → (multiplier : Float) → (challenge : Option Json) → Joint × List ι
  | [], action, multiplier, challenge => (.proceed action multiplier challenge, [])
  | i :: rest, action, multiplier, challenge =>
    let (verdict, i) := Injector.before i player action data
    if verdict.proceed then
      let (joint, rest) := beforeFrom player data rest (verdict.action.getD action)
        (scaled multiplier verdict.multiplier) (verdict.challenge.or challenge)
      (joint, i :: rest)
    else (.vetoed (Injector.name i) verdict.challenge, i :: rest)

/-- The joint verdict on an action, given the data before it. -/
def before (player : PlayerId) (action : Action) (data : Data) (injectors : List ι) :
    Joint × List ι :=
  beforeFrom player data injectors action 1.0 none

/-- Hands the outcome of an accepted action from injector to injector. -/
def after (player : PlayerId) (action : Action) : List ι → Outcome → Outcome × List ι
  | [], outcome => (outcome, [])
  | i :: rest, outcome =>
    let (outcome, i) := Injector.after i player action outcome
    let (outcome, rest) := after player action rest outcome
    (outcome, i :: rest)

end Pipeline

/-! ### Catalogs -/

/-- Why a game or an injector cannot be built from a configuration. -/
inductive ConfigFault where
  | unknownGameType (name : String)
  | unknownInjector (name : String)
  | invalidInjectorOptions (name reason : String)
  | invalidGameOptions (gameType reason : String)
  deriving DecidableEq, Repr

/-- The wording of a fault. -/
def ConfigFault.message : ConfigFault → String
  | .unknownGameType name => "Unknown game type: " ++ name
  | .unknownInjector name => "Unknown injector: " ++ name
  | .invalidInjectorOptions name reason =>
    "Invalid options for injector " ++ name ++ ": " ++ reason
  | .invalidGameOptions gameType reason =>
    "Invalid options for game " ++ gameType ++ ": " ++ reason

/-- The injectors that configurations may ask for: how each is built from its options. -/
abbrev Catalog (ι : Type) := Dict (Json → Except String ι)

namespace Catalog

variable {ι : Type}

/-- Builds one injector. -/
def build (catalog : Catalog ι) (spec : InjectorSpec) : Except ConfigFault ι :=
  match Dict.get? catalog spec.name with
  | none => .error (.unknownInjector spec.name)
  | some make =>
    match make spec.options with
    | .ok i => .ok i
    | .error reason => .error (.invalidInjectorOptions spec.name reason)

/-- Builds injectors in order, up to the first that cannot be built. -/
def buildAll (catalog : Catalog ι) : List InjectorSpec → Except ConfigFault (List ι)
  | [] => .ok []
  | spec :: rest => do
    let i ← catalog.build spec
    let is ← buildAll catalog rest
    .ok (i :: is)

end Catalog

end Arcade.Play
