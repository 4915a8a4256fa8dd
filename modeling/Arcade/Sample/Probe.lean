import Arcade.Mechanics.BuiltIn
import Arcade.Number.RealReading
/-!
# A scripted injector

An injector whose verdicts and changes are given by its options, to try pipelines out with:

* before an action it may veto it, scale it, give it another kind, and say something;
* after an action it may drop the events, leave a stamp, put values into the data, and say
  something.

`Trial` is the type of the injectors that such a pipeline may hold: the built-in ones and probes.
-/

namespace Arcade.Sample

open Play

/-- A factor as options write it: a number, or a text of one. -/
def factorOf? : Json → Option Float
  | .num n => some n.toReal
  | .str s => Real.ofText? s
  | _ => none

/-- A probe. -/
structure Probe where
  name : String := "probe"
  /-- what it adds to a fresh game -/
  fragment : Data := []
  /-- the kind of action that it vetoes, or `*` for all -/
  vetoOn : Option String := none
  multiplier : Option Float := none
  /-- new kinds for kinds of actions -/
  renames : Dict Json := []
  challenge : Option Json := none
  dropEvents : Bool := false
  stamp : Option String := none
  afterData : Data := []
  afterChallenge : Option Json := none

namespace Probe

/-- The fields of an option that is an object; none if it is not. -/
def entriesOf (options : Json) (key : String) : Dict Json :=
  ((options.field? key).bind Json.asObj?).getD []

/-- The probe that some options describe. -/
def ofOptions (options : Json) : Except String Probe :=
  match options with
  | .obj _ => .ok {
      name := ((options.field? "name").bind Json.asStr?).getD "probe"
      fragment := entriesOf options "init"
      vetoOn := (options.field? "veto_on").bind Json.asStr?
      multiplier := (options.field? "multiplier").bind factorOf?
      renames := entriesOf options "rename"
      challenge := options.field? "challenge"
      dropEvents := ((options.field? "drop_events").bind Json.asBool?).getD false
      stamp := (options.field? "stamp").bind Json.asStr?
      afterData := entriesOf options "after_data"
      afterChallenge := options.field? "after_challenge" }
  | _ => .error "probe options must be an object"

/-- The verdict on an action. -/
def judge (p : Probe) (action : Action) : Verdict where
  proceed := !(p.vetoOn = some action.kind || p.vetoOn = some "*")
  action := ((Dict.get? p.renames action.kind).bind Json.asStr?).map fun kind =>
    { action with kind := kind }
  multiplier := p.multiplier
  challenge := p.challenge

/-- Leaves a stamp: on the trail in the data, and as an event. -/
def leaveStamp (stamp : String) (player : PlayerId) (action : Action) (o : Outcome) : Outcome :=
  let trail := ((Dict.get? o.data "trail").bind Json.asStr?).getD ""
  let o := { o with data := Dict.insert o.data "trail" (.str (trail ++ stamp)) }
  o.emit "stamped" (some player) (.obj [("action", .str action.kind), ("by", .str stamp)])

/-- The outcome of an action, changed as the options say. -/
def revise (p : Probe) (player : PlayerId) (action : Action) (o : Outcome) : Outcome :=
  let o := if p.dropEvents then { o with events := [] } else o
  let o := match p.stamp with
    | some s => leaveStamp s player action o
    | none => o
  { o with data := Dict.insertAll o.data p.afterData, challenge := p.afterChallenge.or o.challenge }

instance : Injector Probe where
  name := name
  prepare p _ := (p.fragment, p)
  before p _ action _ := (p.judge action, p)
  after p player action o := (p.revise player action o, p)

end Probe

/-- An injector of a pipeline that is tried out. -/
inductive Trial where
  | builtIn (i : Mechanics.BuiltIn)
  | probe (p : Probe)

namespace Trial

instance : Injector Trial where
  name
    | .builtIn i => Injector.name i
    | .probe p => Injector.name p
  prepare
    | .builtIn i, players => (Injector.prepare i players).map id .builtIn
    | .probe p, players => (Injector.prepare p players).map id .probe
  before
    | .builtIn i, player, action, data => (Injector.before i player action data).map id .builtIn
    | .probe p, player, action, data => (Injector.before p player action data).map id .probe
  after
    | .builtIn i, player, action, o => (Injector.after i player action o).map id .builtIn
    | .probe p, player, action, o => (Injector.after p player action o).map id .probe

/-- The built-in injectors alone. -/
def builtIns : Catalog Trial :=
  Dict.mapValues (fun make options => (make options).map Trial.builtIn) Mechanics.BuiltIn.catalog

/-- The built-in injectors and the probe. -/
def catalog : Catalog Trial :=
  Dict.insert builtIns "probe" fun options => (Probe.ofOptions options).map Trial.probe

end Trial

end Arcade.Sample
