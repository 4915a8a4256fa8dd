import Arcade.Digest.Framed
import Arcade.Number.Checked
import Arcade.Play.Injector
import Arcade.Play.Rules
/-!
# Sessions

A session drives one game, from its start through actions and frames to its end, and may be stored
and taken up again. It owns the players, the state, the seed and the generator; the rules and the
injectors keep what they need beside the state. Every call gives its answer and the session after
it.

## An action

A disposed or unstarted session, a stranger, and a decided game refuse it. Then the injectors are
asked: a veto leaves the state as it was. Then the rules apply it: a refusal leaves the state and
the generator as they were. An accepted action puts the new data in place, counts as a turn, runs
through the injectors again, and may decide the game.

## A frame

The rules advance one frame, and the game may be decided. A failure leaves the state as it was.

## Sums

Scores, positions and counts are words, turns among them, and their sums wrap around where they do not fit.
So goes a build that does not check its sums. One that does stops at such a sum, and the call has no answer:
`handleAction?` and `tick?` are its actions and frames.

Events belong to the call that emits them. They gather in the session's queue, which is emptied
whichever way the call ends: a call that refuses or fails hands none over, and leaves none behind.
-/

namespace Arcade.Play

/-- A running game. -/
structure Session (γ ι : Type) where
  id : String
  rules : γ
  config : GameConfig
  /-- how many players may take part -/
  maxPlayers : Nat
  injectors : List ι
  /-- in the order of their seats -/
  players : List PlayerId := []
  /-- absent before the start -/
  state : Option GameState := none
  seed : UInt64 := 0
  random : Generator := .ofSeed 0
  /-- the events of the call under way -/
  events : EventQueue := {}
  disposed : Bool := false

/-- What a frame brought. -/
structure TickReport where
  state : GameState
  events : List Event
  /-- whether a frame was simulated -/
  advanced : Bool
  /-- whether this frame decided the game -/
  ended : Bool

/-- The result of a decided game. -/
structure Result where
  winner : Option PlayerId
  scores : Dict Int

/-- All that is needed to take a session up again. -/
structure SavedSession where
  id : String
  players : List PlayerId
  seed : UInt64
  state : GameState
  random : Generator

namespace Session

variable {γ ι : Type} [GameRules γ] [Injector ι]

/-- A session that has not started, around rules and injectors. The configuration may only lower
the number of seats. -/
def create (id : String) (rules : γ) (config : GameConfig) (injectors : List ι) : Session γ ι :=
  let cap := (GameRules.descriptor rules).maxPlayers
  { id := id, rules := rules, config := config, injectors := injectors
    maxPlayers := match config.maxPlayers with
      | some n => min n cap
      | none => cap }

/-- A session with the injectors that its configuration asks for. -/
def ofConfig (catalog : Catalog ι) (id : String) (rules : γ) (config : GameConfig) :
    Except ConfigFault (Session γ ι) :=
  (catalog.buildAll config.injectors).map (create id rules config)

def descriptor (s : Session γ ι) : Descriptor := GameRules.descriptor s.rules

/-- The phase; a session that has not started is in the first one. -/
def phase (s : Session γ ι) : Phase :=
  match s.state with
  | some state => state.phase
  | none => .init

def isParticipant (s : Session γ ι) (player : PlayerId) : Bool :=
  s.players.contains player

/-- The first player of a list who is also among the ones before. -/
def firstRepeated? (seen : List PlayerId) : List PlayerId → Option PlayerId
  | [] => none
  | p :: rest => if seen.contains p then some p else firstRepeated? (p :: seen) rest

/-- Whether the players can be seated. -/
def checkPlayers (s : Session γ ι) (players : List PlayerId) : Except Failure Unit :=
  if players.isEmpty then .error .noPlayers
  else if s.maxPlayers < players.length then .error (.tooManyPlayers s.maxPlayers players.length)
  else
    match firstRepeated? [] players with
    | some p => .error (.duplicatePlayer p)
    | none => .ok ()

/-! ### Starting -/

/-- Starts a game with the given seed, or with the one that the id and the seating give. -/
def begin (s : Session γ ι) (players : List PlayerId) (seed : Option UInt64) :
    Except Failure (List Event) × Session γ ι :=
  match s.checkPlayers players with
  | .error e => (.error e, s)
  | .ok () =>
    let seed := seed.getD (Framed.sessionSeed s.id players)
    let ran := GameRules.prepare s.rules players { random := .ofSeed seed }
    match ran.answer with
    | .error e => (.error e, { s with rules := ran.rules, events := {} })
    | .ok data =>
      let (fragment, injectors) := Pipeline.prepare players s.injectors
      let data := Dict.insert (Dict.insertAll data fragment) configKey s.config.toJson.canonical
      let (events, queue) := (ran.stage.events.push (.started players)).drain
      (.ok events,
        { s with
          rules := ran.rules, injectors := injectors, players := players
          state := some (.playing data), seed := seed, random := ran.stage.random
          events := queue })

/-- Starts a session that has not started. -/
def start (s : Session γ ι) (players : List PlayerId) (seed : Option UInt64) :
    Except Failure (List Event) × Session γ ι :=
  if s.disposed then (.error .disposed, s)
  else if s.state.isSome then (.error .alreadyInitialized, s)
  else s.begin players seed

/-- Starts again with the same players and the same seed. -/
def reset (s : Session γ ι) : Except Failure (List Event) × Session γ ι :=
  if s.disposed then (.error .disposed, s)
  else if s.state.isNone then (.error .notInitialized, s)
  else s.begin s.players (some s.seed)

/-! ### Taking up a stored game -/

/-- Takes up a state with its players, seed and generator. -/
def adopt (s : Session γ ι) (players : List PlayerId) (state : GameState) (seed : UInt64)
    (random : Generator) : Except Failure Unit × Session γ ι :=
  if s.disposed then (.error .disposed, s)
  else
    match s.checkPlayers players with
    | .error e => (.error e, s)
    | .ok () =>
      if state.phase = .init then
        (.error (.invalidState "cannot restore a state that was never initialized"), s)
      else
        match GameRules.resume s.rules players state with
        | (.error e, rules) => (.error e, { s with rules := rules })
        | (.ok (), rules) =>
          (.ok (),
            { s with
              rules := rules, players := players, state := some state, seed := seed
              random := random, events := {} })

/-- The seed of a state: that of the hash of its text. -/
def stateSeed (state : GameState) : UInt64 :=
  Framed.seedOf (Sha256.digest (Bytes.ofText state.toJson.text))

/-- Takes up a bare state. The generator is seeded from the state's text. -/
def restoreState (s : Session γ ι) (players : List PlayerId) (state : GameState) :
    Except Failure Unit × Session γ ι :=
  s.adopt players state (stateSeed state) (.ofSeed (stateSeed state))

/-- Takes up a stored session, with its id. -/
def restore (s : Session γ ι) (saved : SavedSession) : Except Failure Unit × Session γ ι :=
  match s.adopt saved.players saved.state saved.seed saved.random with
  | (.ok (), s) => (.ok (), { s with id := saved.id })
  | (.error e, s) => (.error e, s)

/-! ### Actions -/

/-- Keeps the multiplier of an action in the data, unless it is one. -/
def mergeMultiplier (data : Data) (multiplier : Float) : Data :=
  if (multiplier - 1.0).abs > Float.ofBits 0x3CB0000000000000 then
    Dict.insert data multiplierKey (.real multiplier)
  else Dict.erase data multiplierKey

/-- The decided state, and the event that tells the result. -/
def conclude (rules : γ) (state : GameState) : GameState × Event :=
  let state := state.advancePhase .ended
  (state, .ended (GameRules.winner rules state) (GameRules.scores rules state))

/-- Decides the game if the rules say so: the state, the events with the last one, and whether the
game was decided. -/
def settle (rules : γ) (state : GameState) (events : EventQueue) :
    GameState × EventQueue × Bool :=
  if GameRules.isOver rules state then
    let (state, event) := conclude rules state
    (state, events.push event, true)
  else (state, events, false)

/-- Why a player's action is not even looked at. -/
def refusal? (s : Session γ ι) (player : PlayerId) : Option Refusal :=
  if s.disposed then some .disposed
  else
    match s.state with
    | none => some .notInitialized
    | some state =>
      if !s.isParticipant player then some .notParticipant
      else if state.isEnded then some .gameOver
      else none

/-- Completes an action that the rules accepted: new data, one more turn, the injectors' view of the
outcome, and perhaps the end. -/
def completeAction (s : Session γ ι) (player : PlayerId) (action : Action) (multiplier : Float)
    (challenge : Option Json) (state : GameState) (ran : Ran γ Refusal (Option Data))
    (replacement : Option Data) : ActionResult × Session γ ι :=
  let data := replacement.getD state.data
  let (outcome, injectors) := Pipeline.after player action s.injectors
    ⟨data, ran.stage.events.pending, challenge⟩
  let state : GameState :=
    { state with turn := state.turn + 1, data := mergeMultiplier outcome.data multiplier }
  let (state, queue, _) := settle ran.rules state ⟨outcome.events⟩
  let (events, queue) := queue.drain
  (.accepted state events outcome.challenge,
    { s with
      rules := ran.rules, injectors := injectors, state := some state
      random := ran.stage.random, events := queue })

/-- Runs an action on a state that takes actions. -/
def runAction (s : Session γ ι) (player : PlayerId) (action : Action) (state : GameState) :
    ActionResult × Session γ ι :=
  match Pipeline.before player action state.data s.injectors with
  | (.vetoed _ challenge, injectors) =>
    (.accepted state [] challenge, { s with injectors := injectors })
  | (.proceed action multiplier challenge, injectors) =>
    let s := { s with injectors := injectors }
    let ran := GameRules.act s.rules state player action multiplier
      { random := s.random, events := s.events }
    match ran.answer with
    | .error refusal =>
      (.rejected refusal.message challenge, { s with rules := ran.rules, events := {} })
    | .ok replacement =>
      s.completeAction player action multiplier challenge state ran replacement

/-- The answer to an action of a player, before the queue is emptied. -/
def answerAction (s : Session γ ι) (player : PlayerId) (action : Action) :
    ActionResult × Session γ ι :=
  match s.refusal? player with
  | some refusal => (.rejected refusal.message none, s)
  | none =>
    match s.state with
    | none => (.rejected Refusal.notInitialized.message none, s)
    | some state => s.runAction player action state

/-- Handles one action of a player. Whichever way it goes, no event stays in the queue. -/
def handleAction (s : Session γ ι) (player : PlayerId) (action : Action) :
    ActionResult × Session γ ι :=
  let (result, s) := s.answerAction player action
  (result, { s with events := {} })

/-! ### Frames -/

/-- Advances one frame. A decided game stays as it is. -/
def tick (s : Session γ ι) (seconds : Float) : Except Failure TickReport × Session γ ι :=
  if s.disposed then (.error .disposed, s)
  else
    match s.state with
    | none => (.error .notInitialized, s)
    | some state =>
      if state.isEnded then (.ok ⟨state, [], false, false⟩, s)
      else
        let ran := GameRules.tick s.rules state seconds { random := s.random, events := s.events }
        let s := { s with rules := ran.rules, random := ran.stage.random }
        match ran.answer with
        | .error e => (.error e, { s with events := {} })
        | .ok replacement =>
          let state := { state with data := replacement.getD state.data }
          let (state, queue, ended) := settle ran.rules state ran.stage.events
          let (events, queue) := queue.drain
          (.ok ⟨state, events, true, ended⟩, { s with state := some state, events := queue })

/-! ### Sums that are checked -/

/-- Whether every sum of an action fits its word: those of the rules, and the count of turns if the rules
accept it. -/
def actionFits (s : Session γ ι) (player : PlayerId) (action : Action) : Bool :=
  match s.refusal? player, s.state with
  | none, some state =>
    match Pipeline.before player action state.data s.injectors with
    | (.vetoed _ _, _) => true
    | (.proceed action multiplier _, _) =>
      let ran := GameRules.act s.rules state player action multiplier
        { random := s.random, events := s.events }
      GameRules.actFits s.rules state player action multiplier &&
        (!ran.answer.toBool || (Checked.next64? state.turn).isSome)
  | _, _ => true

/-- Handles one action in a build that checks its sums. -/
def handleAction? (s : Session γ ι) (player : PlayerId) (action : Action) :
    Option (ActionResult × Session γ ι) :=
  if s.actionFits player action then some (s.handleAction player action) else none

/-- Whether every sum of the next frame fits its word. -/
def frameFits (s : Session γ ι) (seconds : Float) : Bool :=
  match s.state with
  | some state => s.disposed || state.isEnded || GameRules.tickFits s.rules state seconds
  | none => true

/-- Advances one frame in a build that checks its sums. -/
def tick? (s : Session γ ι) (seconds : Float) :
    Option (Except Failure TickReport × Session γ ι) :=
  if s.frameFits seconds then some (s.tick seconds) else none

/-! ### Questions -/

/-- Whether the game is decided, by its phase or by its rules. -/
def isOver (s : Session γ ι) : Bool :=
  match s.state with
  | none => false
  | some state => state.isEnded || GameRules.isOver s.rules state

/-- The winner by the rules. -/
def winner (s : Session γ ι) : Option PlayerId :=
  s.state.bind (GameRules.winner s.rules)

/-- The scores by the rules. -/
def scores (s : Session γ ι) : Dict Int :=
  match s.state with
  | none => []
  | some state => GameRules.scores s.rules state

/-- The result, once the game is decided. -/
def result? (s : Session γ ι) : Option Result :=
  if s.isOver then some ⟨s.winner, s.scores⟩ else none

/-- What a participant may see. -/
def view? (s : Session γ ι) (player : PlayerId) : Option GameState :=
  match s.state with
  | none => none
  | some state =>
    if s.isParticipant player then some (GameRules.view s.rules state player) else none

/-- The kinds of action that a player may submit now. -/
def validActions (s : Session γ ι) (player : PlayerId) : List String :=
  match s.state with
  | none => []
  | some state =>
    if !state.isEnded && s.isParticipant player then GameRules.validActions s.rules state player
    else []

/-- Whether an action would be allowed, apart from what injectors may say. -/
def validate (s : Session γ ι) (player : PlayerId) (action : Action) : Except Refusal Unit :=
  match s.state with
  | none => .error .notInitialized
  | some state =>
    if !s.isParticipant player then .error .notParticipant
    else if state.isEnded then .error .gameOver
    else GameRules.validate s.rules state player action

/-! ### Storing and giving up -/

/-- What is stored of a session. -/
def save? (s : Session γ ι) : Except Failure SavedSession :=
  match s.state with
  | none => .error .notInitialized
  | some state => .ok ⟨s.id, s.players, s.seed, state, s.random⟩

/-- Gives up what the session holds. -/
def dispose (s : Session γ ι) : Except Failure Unit × Session γ ι :=
  if s.disposed then (.error .disposed, s)
  else
    let (answer, rules) := GameRules.release s.rules
    (answer, { s with disposed := true, rules := rules, events := {} })

end Session

/-! ### Stored sessions as texts -/

namespace SavedSession

/-- The stored session as a record. -/
def toJson (saved : SavedSession) : Json :=
  .obj [("sessionId", .str saved.id), ("playerIds", .strs saved.players),
    ("seed", .nat saved.seed.toNat), ("state", saved.state.toJson), ("rng", saved.random.toJson)]

/-- The fields of a stored session under construction. -/
structure Draft where
  id : Option String := none
  players : Option (List PlayerId) := none
  seed : Option UInt64 := none
  state : Option GameState := none
  random : Option Generator := none

/-- The record of a stored session. -/
def schema : Json.Schema Draft SavedSession where
  name := "SavedSession"
  fields := [
    .of "sessionId" false Json.Decode.str fun x d => { d with id := some x },
    .of "playerIds" false (Json.Decode.list Json.Decode.str) fun x d =>
      { d with players := some x },
    .of "seed" false Json.Decode.uint64 fun x d => { d with seed := some x },
    .of "state" false GameState.schema.decode fun x d => { d with state := some x },
    .of "rng" false Generator.decode fun x d => { d with random := some x }]
  strict := false
  start := {}
  finish d := do
    let id ← Json.required "sessionId" d.id
    let players ← Json.required "playerIds" d.players
    let seed ← Json.required "seed" d.seed
    let state ← Json.required "state" d.state
    let random ← Json.required "rng" d.random
    .ok ⟨id, players, seed, state, random⟩

/-- The text of a stored session. -/
def text (saved : SavedSession) : String := saved.toJson.text

/-- Reads a stored session. -/
def ofText (s : String) : Json.Decoded SavedSession :=
  Json.decodeText schema.decode s

end SavedSession

namespace Session

variable {γ ι : Type} [GameRules γ] [Injector ι]

/-- The text that a session is stored as. -/
def toText (s : Session γ ι) : Except Failure String :=
  s.save?.map SavedSession.text

/-- Takes up a session from its text. -/
def restoreText (s : Session γ ι) (text : String) : Except Failure Unit × Session γ ι :=
  match SavedSession.ofText text with
  | .error e => (.error (.unreadable e), s)
  | .ok saved => s.restore saved

end Session

end Arcade.Play
