import Arcade.Digest.Framed
import Arcade.Generator
import Arcade.Play.Injector
/-!
# Challenges

Every `every`-th action of a player is held back, and the player is asked to add two numbers. The
right answer releases the held action, scaled by a reward; until then nothing else of that player
passes.

A held action stays pending until the game accepts it: if the released action is refused, or a later
injector stops it, the question can be answered again. Counts go up with processed actions only.

Pending questions, counts and the generator of questions are the injector's own; they are not part
of the data, and are set afresh when a game starts.
-/

namespace Arcade.Mechanics

open Play

/-- The options of the challenge injector. -/
structure ChallengeOptions where
  /-- the action of a player that is held back, counted from one, and each multiple of it -/
  every : Nat := 5
  /-- the factor for a released action -/
  reward : Float := 2.0
  /-- the largest number in a question -/
  maxOperand : UInt32 := 20

/-- A question that was asked, and the action that waits for its answer. -/
structure Pending where
  left : Int
  right : Int
  held : Action

namespace Pending

/-- The question as it is put. -/
def question (p : Pending) : String :=
  toString p.left ++ " + " ++ toString p.right

/-- The right answer. -/
def answer (p : Pending) : Int := p.left + p.right

end Pending

/-- The challenge injector. -/
structure Challenge where
  options : ChallengeOptions
  random : Generator := .ofSeed 0
  /-- how many actions of each player were processed -/
  counts : Dict Nat := []
  /-- the questions that wait for an answer -/
  pending : Dict Pending := []
  /-- the player whose held action the current call has released -/
  releasing : Option PlayerId := none

namespace Challenge

/-- The kind of action that answers a question. -/
def answerKind : String := "answer_challenge"

/-- Why options are refused. -/
inductive Fault where
  | unreadable (error : Json.DecodeError)
  | everyIsZero
  | rewardNotPositive (reward : Float)

def Fault.message : Fault → String
  | .unreadable error => error.message
  | .everyIsZero => "every must be at least 1"
  | .rewardNotPositive reward =>
    "reward must be a positive number, got " ++ RealText.plain reward

def schema : Json.Schema ChallengeOptions ChallengeOptions where
  name := "ChallengeOptions"
  fields := [
    .of "every" true Json.Decode.nat fun n o => { o with every := n },
    .of "reward" true Json.Decode.real fun x o => { o with reward := x },
    .of "max_operand" true Json.Decode.uint32 fun n o => { o with maxOperand := n }]
  strict := true
  start := {}
  finish := .ok

/-- The injector that some options describe; `null` stands for the standard ones. -/
def ofOptions (options : Json) : Except Fault Challenge :=
  if options.isNull then .ok { options := {} }
  else
    match schema.decode (.ofJson options) with
    | .error e => .error (.unreadable e)
    | .ok o =>
      if o.every = 0 then .error .everyIsZero
      else if !o.reward.isFinite || o.reward ≤ 0.0 then .error (.rewardNotPositive o.reward)
      else .ok { options := o }

/-- The question that waits for a player's answer. -/
def pendingQuestion? (c : Challenge) (player : PlayerId) : Option String :=
  (Dict.get? c.pending player).map Pending.question

/-- What a player is told along with a question. -/
def notice (reason : String) (p : Pending) : Json :=
  .obj [("question", .str p.question), ("reason", .str reason)]

/-- What a player is told who has answered. -/
def solved (reward : Float) : Json :=
  .obj [("multiplier", .real reward), ("reason", .str "solved")]

/-- What a player is told who answers without a question. -/
def noPending : Json :=
  .obj [("reason", .str "no_pending_challenge")]

/-- Asks a new question, and holds the action back. -/
def issue (c : Challenge) (player : PlayerId) (held : Action) : Verdict × Challenge :=
  let bound := if c.options.maxOperand = 0 then 1 else c.options.maxOperand
  let (left, random) := c.random.below bound
  let (right, random) := random.below bound
  let p : Pending := ⟨(left.toNat : Int) + 1, (right.toNat : Int) + 1, held⟩
  (.veto (notice "challenge" p),
    { c with random := random, pending := Dict.insert c.pending player p })

/-- Judges an answer. -/
def judge (c : Challenge) (player : PlayerId) (action : Action) : Verdict × Challenge :=
  match Dict.get? c.pending player with
  | none => (.veto noPending, c)
  | some p =>
    if (action.field? "answer").bind Json.asInt64? = some p.answer then
      ({ action := some p.held, multiplier := some c.options.reward
         challenge := some (solved c.options.reward) },
        { c with releasing := some player })
    else (.veto (notice "wrong_answer" p), c)

/-- How many actions of a player were processed. -/
def count (c : Challenge) (player : PlayerId) : Nat :=
  (Dict.get? c.counts player).getD 0

/-- The verdict on an action. -/
def before (c : Challenge) (player : PlayerId) (action : Action) : Verdict × Challenge :=
  let c := { c with releasing := none }
  if action.kind = answerKind then c.judge player action
  else
    match Dict.get? c.pending player with
    | some p => (.veto (notice "challenge" p), c)
    | none =>
      if (c.count player + 1) % c.options.every = 0 then c.issue player action else (.pass, c)

/-- Counts a processed action, and forgets the question whose answer has released it. -/
def after (c : Challenge) (player : PlayerId) : Challenge :=
  { c with
    releasing := none
    pending := if c.releasing = some player then Dict.erase c.pending player else c.pending
    counts := Dict.insert c.counts player (c.count player + 1) }

/-- The injector at the start of a game. Its questions depend on the seating alone. -/
def fresh (c : Challenge) (players : List PlayerId) : Challenge :=
  { options := c.options, random := .ofSeed (Framed.sessionSeed "challenge" players) }

instance : Injector Challenge where
  name _ := "challenge"
  prepare c players := ([], c.fresh players)
  before c player action _ := c.before player action
  after c player _ outcome := (outcome, c.after player)

end Challenge

end Arcade.Mechanics
