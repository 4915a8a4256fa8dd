import Arcade.Play.Session
import Arcade.Proofs.Run
/-!
# Calls on a session

Every way in which a session may change is a `Call`, so that a run of a session is a list of them
(`Session.perform`, `Session.after`, `Session.answers`).

What each call can do is said once, by the cases of `Handled` (actions), `Ticked` (frames), `Begun`
(starts) and `Adopted` (restores): one for each way out of the call, with all that decided on it and
the whole session afterwards. Proofs about sessions go by these cases and leave the definitions
closed.

The queue of events is empty between two calls (`events_perform`).
-/

namespace Arcade.Play

/-- A call that may change a session. -/
inductive Call where
  | start (players : List PlayerId) (seed : Option UInt64)
  | reset
  | act (player : PlayerId) (action : Action)
  | tick (seconds : Float)
  /-- takes up a bare state -/
  | restoreState (players : List PlayerId) (state : GameState)
  /-- takes up a stored session -/
  | restore (saved : SavedSession)
  /-- takes up the text of a stored session -/
  | restoreText (text : String)
  | dispose

/-- The answer to a call. -/
inductive Answer where
  | started (result : Except Failure (List Event))
  | acted (result : ActionResult)
  | ticked (result : Except Failure TickReport)
  | restored (result : Except Failure Unit)
  | disposed (result : Except Failure Unit)

/-- The events that an answer hands over. -/
def Answer.events : Answer → List Event
  | .started (.ok events) => events
  | .acted result => result.events
  | .ticked (.ok report) => report.events
  | _ => []

namespace Call

/-- Whether a call plays on, as an action or a frame. -/
def isMove : Call → Bool
  | .act _ _ => true
  | .tick _ => true
  | _ => false

/-- Whether a call takes up a game that was stored. -/
def isRestore : Call → Bool
  | .restoreState _ _ => true
  | .restore _ => true
  | .restoreText _ => true
  | _ => false

end Call

namespace Session

variable {γ ι : Type} [GameRules γ] [Injector ι]

/-- One call: its answer, and the session afterwards. -/
def perform (s : Session γ ι) : Call → Answer × Session γ ι
  | .start players seed => (.started (s.start players seed).1, (s.start players seed).2)
  | .reset => (.started s.reset.1, s.reset.2)
  | .act player action =>
    (.acted (s.handleAction player action).1, (s.handleAction player action).2)
  | .tick seconds => (.ticked (s.tick seconds).1, (s.tick seconds).2)
  | .restoreState players state =>
    (.restored (s.restoreState players state).1, (s.restoreState players state).2)
  | .restore saved => (.restored (s.restore saved).1, (s.restore saved).2)
  | .restoreText text => (.restored (s.restoreText text).1, (s.restoreText text).2)
  | .dispose => (.disposed s.dispose.1, s.dispose.2)

/-- The session after a run of calls. -/
abbrev after (s : Session γ ι) (calls : List Call) : Session γ ι :=
  Run.after perform s calls

/-- The answers to a run of calls. -/
abbrev answers (s : Session γ ι) (calls : List Call) : List Answer :=
  Run.answers perform s calls

/-! ### What an action can do -/

/-- Whether an injector holds an action back. -/
def Vetoes (s : Session γ ι) (player : PlayerId) (action : Action) : Prop :=
  ∃ state name challenge injectors, s.refusal? player = none ∧ s.state = some state ∧
    Pipeline.before player action state.data s.injectors = (.vetoed name challenge, injectors)

/-- The action that the rules apply when a player submits one: what the injectors make of it, unless
it is refused, held back or rejected. -/
def processed? (s : Session γ ι) (player : PlayerId) (action : Action) : Option Action :=
  match s.refusal? player, s.state with
  | none, some state =>
    match Pipeline.before player action state.data s.injectors with
    | (.vetoed _ _, _) => none
    | (.proceed forwarded multiplier _, _) =>
      match (GameRules.act s.rules state player forwarded multiplier ⟨s.random, s.events⟩).answer
        with
      | .error _ => none
      | .ok _ => some forwarded
  | _, _ => none

/-- The ways in which an action can go, each with its result and the session afterwards. -/
inductive Handled (s : Session γ ι) (player : PlayerId) (action : Action) :
    ActionResult → Session γ ι → Prop
  /-- not even looked at -/
  | refused {refusal : Refusal} (hrefusal : s.refusal? player = some refusal) :
      Handled s player action (.rejected refusal.message none) { s with events := {} }
  /-- held back by an injector -/
  | vetoed {state : GameState} {name : String} {challenge : Option Json} {injectors : List ι}
      (hrefusal : s.refusal? player = none) (hstate : s.state = some state)
      (hbefore : Pipeline.before player action state.data s.injectors
        = (.vetoed name challenge, injectors)) :
      Handled s player action (.accepted state [] challenge)
        { s with injectors := injectors, events := {} }
  /-- let through by the injectors, and forbidden by the rules -/
  | rejected {state : GameState} {forwarded : Action} {multiplier : Float}
      {challenge : Option Json} {injectors : List ι} {refusal : Refusal} {rules : γ} {stage : Stage}
      (hrefusal : s.refusal? player = none) (hstate : s.state = some state)
      (hbefore : Pipeline.before player action state.data s.injectors
        = (.proceed forwarded multiplier challenge, injectors))
      (hact : GameRules.act s.rules state player forwarded multiplier ⟨s.random, s.events⟩
        = ⟨.error refusal, rules, stage⟩) :
      Handled s player action (.rejected refusal.message challenge)
        { s with injectors := injectors, rules := rules, events := {} }
  /-- applied: one more turn, and perhaps the end -/
  | processed {state : GameState} {forwarded : Action} {multiplier : Float}
      {challenge : Option Json} {injectors : List ι} {replacement : Option Data} {rules : γ}
      {stage : Stage} {outcome : Outcome} {injectors' : List ι} {state' : GameState}
      {queue : EventQueue} {ended : Bool}
      (hrefusal : s.refusal? player = none) (hstate : s.state = some state)
      (hbefore : Pipeline.before player action state.data s.injectors
        = (.proceed forwarded multiplier challenge, injectors))
      (hact : GameRules.act s.rules state player forwarded multiplier ⟨s.random, s.events⟩
        = ⟨.ok replacement, rules, stage⟩)
      (hafter : Pipeline.after player forwarded injectors
          ⟨replacement.getD state.data, stage.events.pending, challenge⟩ = (outcome, injectors'))
      (hsettle : settle rules
          ⟨state.turn + 1, state.phase, mergeMultiplier outcome.data multiplier⟩ ⟨outcome.events⟩
        = (state', queue, ended)) :
      Handled s player action (.accepted state' queue.pending outcome.challenge)
        { s with
          injectors := injectors', rules := rules, state := some state', random := stage.random
          events := {} }

omit [GameRules γ] [Injector ι] in
theorem state_of_refusal?_eq_none {s : Session γ ι} {player : PlayerId}
    (h : s.refusal? player = none) :
    s.disposed = false ∧ ∃ state, s.state = some state ∧ player ∈ s.players ∧
      state.phase ≠ .ended := by
  unfold refusal? at h
  cases hd : s.disposed with
  | true => simp [hd] at h
  | false =>
      cases hs : s.state with
      | none => simp [hd, hs] at h
      | some state =>
          simp only [hd, hs, Bool.false_eq_true, if_false] at h
          by_cases hp : s.isParticipant player = true
          · rw [hp] at h
            by_cases he : state.isEnded = true
            · simp [he] at h
            · refine ⟨rfl, state, rfl, by simpa [isParticipant] using hp, ?_⟩
              simpa [GameState.isEnded] using he
          · simp [hp] at h

omit [GameRules γ] [Injector ι] in
/-- Sessions of one phase are either both unstarted, or both hold a state. -/
theorem states_of_phase {s s' : Session γ ι}
    (h : s'.state.map GameState.phase = s.state.map GameState.phase) :
    (s.state = none ∧ s'.state = none) ∨ ∃ state state', s.state = some state ∧
      s'.state = some state' ∧ state'.phase = state.phase ∧ state'.isEnded = state.isEnded := by
  cases hs : s.state with
  | none =>
      rw [hs, Option.map_none, Option.map_eq_none_iff] at h
      exact Or.inl ⟨rfl, h⟩
  | some state =>
      rw [hs, Option.map_some, Option.map_eq_some_iff] at h
      obtain ⟨state', hs', hphase⟩ := h
      refine Or.inr ⟨state, state', rfl, hs', hphase, ?_⟩
      rw [GameState.isEnded, GameState.isEnded, hphase]

omit [GameRules γ] [Injector ι] in
/-- Whether an action is looked at depends on the seats and the phase alone. -/
theorem refusal?_congr {s s' : Session γ ι} (hdisposed : s'.disposed = s.disposed)
    (hplayers : s'.players = s.players)
    (hphase : s'.state.map GameState.phase = s.state.map GameState.phase) :
    s'.refusal? = s.refusal? := by
  funext player
  unfold refusal? isParticipant
  rw [hdisposed, hplayers]
  rcases states_of_phase hphase with ⟨hs, hs'⟩ | ⟨state, state', hs, hs', -, hended⟩
  · rw [hs, hs']
  · simp only [hs, hs', hended]

theorem processed?_of_refused {s : Session γ ι} {player : PlayerId} {action : Action}
    {refusal : Refusal} (h : s.refusal? player = some refusal) :
    s.processed? player action = none := by
  simp only [processed?, h]

theorem processed?_of_vetoed {s : Session γ ι} {player : PlayerId} {action : Action}
    (h : s.Vetoes player action) : s.processed? player action = none := by
  obtain ⟨state, name, challenge, injectors, hrefusal, hstate, hbefore⟩ := h
  simp only [processed?, hrefusal, hstate, hbefore]

/-- An action that the injectors let through is processed unless the rules forbid it. -/
theorem processed?_of_proceed {s : Session γ ι} {player : PlayerId} {action forwarded : Action}
    {state : GameState} {multiplier : Float} {challenge : Option Json} {injectors : List ι}
    {answer : Except Refusal (Option Data)} {rules : γ} {stage : Stage}
    (hrefusal : s.refusal? player = none) (hstate : s.state = some state)
    (hbefore : Pipeline.before player action state.data s.injectors
      = (.proceed forwarded multiplier challenge, injectors))
    (hact : GameRules.act s.rules state player forwarded multiplier ⟨s.random, s.events⟩
      = ⟨answer, rules, stage⟩) :
    s.processed? player action = match answer with
      | .ok _ => some forwarded
      | .error _ => none := by
  simp only [processed?, hrefusal, hstate, hbefore, hact]
  cases answer <;> rfl

/-- Every action goes one of these ways. -/
theorem handled (s : Session γ ι) (player : PlayerId) (action : Action) :
    Handled s player action (s.handleAction player action).1 (s.handleAction player action).2 := by
  unfold handleAction answerAction
  cases hr : s.refusal? player with
  | some refusal => exact .refused hr
  | none =>
      obtain ⟨-, state, hs, -, -⟩ := state_of_refusal?_eq_none hr
      obtain ⟨id, rules, config, maxPlayers, injectors, players, _, seed, random, events, disposed⟩ :=
        s
      obtain rfl : _ = some state := hs
      dsimp only [runAction]
      rcases hb : Pipeline.before player action state.data injectors with ⟨joint, injectors'⟩
      cases joint with
      | vetoed name challenge => exact .vetoed hr rfl hb
      | proceed forwarded multiplier challenge =>
          rcases ha : GameRules.act rules state player forwarded multiplier ⟨random, events⟩
            with ⟨answer, rules', stage⟩
          cases answer with
          | error refusal =>
              dsimp only
              rw [ha]
              exact .rejected hr rfl hb ha
          | ok replacement =>
              dsimp only
              rw [ha]
              exact .processed hr rfl hb ha rfl rfl

theorem handled_of_eq {s s' : Session γ ι} {player : PlayerId} {action : Action}
    {result : ActionResult} (h : s.handleAction player action = (result, s')) :
    Handled s player action result s' := by
  have hhandled := handled s player action
  rw [h] at hhandled
  exact hhandled

/-- An action goes one way only. -/
theorem Handled.handleAction_eq {s s' : Session γ ι} {player : PlayerId} {action : Action}
    {result : ActionResult} (h : Handled s player action result s') :
    s.handleAction player action = (result, s') := by
  cases h with
  | refused hrefusal => simp only [handleAction, answerAction, hrefusal]
  | vetoed hrefusal hstate hbefore =>
      simp only [handleAction, answerAction, hrefusal, hstate, runAction, hbefore]
  | rejected hrefusal hstate hbefore hact =>
      simp only [handleAction, answerAction, hrefusal, hstate, runAction, hbefore, hact]
  | processed hrefusal hstate hbefore hact hafter hsettle =>
      simp only [handleAction, answerAction, hrefusal, hstate, runAction, hbefore, hact, completeAction,
        hafter, hsettle, EventQueue.drain]

/-! ### What becomes of the state -/

omit [Injector ι] in
/-- A state is settled by leaving it as it is, or by the last phase and the event that tells it. -/
theorem settle_cases {rules : γ} {next state' : GameState} {events queue : EventQueue}
    {ended : Bool} (h : settle rules next events = (state', queue, ended)) :
    (GameRules.isOver rules next = false ∧ state' = next ∧ queue = events) ∨
      (GameRules.isOver rules next = true ∧ state' = { next with phase := .ended } ∧
        queue.pending = events.pending
          ++ [.ended (GameRules.winner rules state') (GameRules.scores rules state')]) := by
  have hlast : next.advancePhase .ended = { next with phase := .ended } := by
    cases next with
    | mk turn phase data => cases phase <;> rfl
  unfold settle at h
  cases hover : GameRules.isOver rules next with
  | false =>
      rw [hover] at h
      cases h
      exact Or.inl ⟨rfl, rfl, rfl⟩
  | true =>
      rw [hover] at h
      simp only [conclude, hlast] at h
      cases h
      exact Or.inr ⟨rfl, rfl, rfl⟩

omit [Injector ι] in
theorem data_of_settle {rules : γ} {next state' : GameState} {events queue : EventQueue}
    {ended : Bool} (h : settle rules next events = (state', queue, ended)) :
    state'.data = next.data := by
  rcases settle_cases h with ⟨-, rfl, -⟩ | ⟨-, rfl, -⟩
  · rfl
  · rfl

/-- The multiplier is kept under its own name. -/
theorem get?_mergeMultiplier (data : Data) (multiplier : Float) {key : String}
    (hkey : key ≠ multiplierKey) :
    Dict.get? (mergeMultiplier data multiplier) key = Dict.get? data key := by
  unfold mergeMultiplier
  split
  · exact Dict.get?_insert_of_ne _ _ hkey.symm
  · exact Dict.get?_erase_of_ne _ hkey.symm

/-! ### What a frame can do -/

/-- The ways in which a frame can go, each with its answer and the session afterwards. -/
inductive Ticked (s : Session γ ι) (seconds : Float) :
    Except Failure TickReport → Session γ ι → Prop
  | disposed (hdisposed : s.disposed = true) : Ticked s seconds (.error .disposed) s
  | unstarted (hdisposed : s.disposed = false) (hstate : s.state = none) :
      Ticked s seconds (.error .notInitialized) s
  /-- the game is decided: nothing is simulated -/
  | decided {state : GameState} (hdisposed : s.disposed = false) (hstate : s.state = some state)
      (hended : state.phase = .ended) : Ticked s seconds (.ok ⟨state, [], false, false⟩) s
  | failed {state : GameState} {failure : Failure} {rules : γ} {stage : Stage}
      (hdisposed : s.disposed = false) (hstate : s.state = some state)
      (hphase : state.phase ≠ .ended)
      (htick : GameRules.tick s.rules state seconds ⟨s.random, s.events⟩
        = ⟨.error failure, rules, stage⟩) :
      Ticked s seconds (.error failure)
        { s with rules := rules, random := stage.random, events := {} }
  | advanced {state : GameState} {replacement : Option Data} {rules : γ} {stage : Stage}
      {state' : GameState} {queue : EventQueue} {ended : Bool}
      (hdisposed : s.disposed = false) (hstate : s.state = some state)
      (hphase : state.phase ≠ .ended)
      (htick : GameRules.tick s.rules state seconds ⟨s.random, s.events⟩
        = ⟨.ok replacement, rules, stage⟩)
      (hsettle : settle rules { state with data := replacement.getD state.data } stage.events
        = (state', queue, ended)) :
      Ticked s seconds (.ok ⟨state', queue.pending, true, ended⟩)
        { s with rules := rules, state := some state', random := stage.random, events := {} }

omit [Injector ι] in
/-- Every frame goes one of these ways. -/
theorem ticked (s : Session γ ι) (seconds : Float) :
    Ticked s seconds (s.tick seconds).1 (s.tick seconds).2 := by
  obtain ⟨id, rules, config, maxPlayers, injectors, players, state, seed, random, events, disposed⟩ :=
    s
  cases disposed with
  | true => exact .disposed rfl
  | false =>
      cases state with
      | none => exact .unstarted rfl rfl
      | some state =>
          by_cases he : state.phase = .ended
          · have : state.isEnded = true := by simpa [GameState.isEnded] using he
            simp only [tick, this, if_true, Bool.false_eq_true, if_false]
            exact .decided rfl rfl he
          · have : state.isEnded = false := by simpa [GameState.isEnded] using he
            simp only [tick, this, if_false, Bool.false_eq_true]
            rcases ht : GameRules.tick rules state seconds ⟨random, events⟩
              with ⟨answer, rules', stage⟩
            cases answer with
            | error failure => exact .failed rfl rfl he ht
            | ok replacement => exact .advanced rfl rfl he ht rfl

omit [Injector ι] in
theorem ticked_of_eq {s s' : Session γ ι} {seconds : Float} {answer : Except Failure TickReport}
    (h : s.tick seconds = (answer, s')) : Ticked s seconds answer s' := by
  have hticked := ticked s seconds
  rw [h] at hticked
  exact hticked

/-! ### What a start can do -/

/-- The seed that a start uses. -/
def seedFor (s : Session γ ι) (players : List PlayerId) (seed : Option UInt64) : UInt64 :=
  seed.getD (Framed.sessionSeed s.id players)

/-- The data of a fresh game: that of the rules, of the injectors, and the configuration. -/
def openingData (s : Session γ ι) (data fragment : Data) : Data :=
  Dict.insert (Dict.insertAll data fragment) configKey s.config.toJson.canonical

/-- The ways in which a start can go, each with its answer and the session afterwards. -/
inductive Begun (s : Session γ ι) (players : List PlayerId) (seed : Option UInt64) :
    Except Failure (List Event) → Session γ ι → Prop
  | unseated {failure : Failure} (hcheck : s.checkPlayers players = .error failure) :
      Begun s players seed (.error failure) s
  | failed {failure : Failure} {rules : γ} {stage : Stage}
      (hcheck : s.checkPlayers players = .ok ())
      (hprepare : GameRules.prepare s.rules players ⟨.ofSeed (s.seedFor players seed), {}⟩
        = ⟨.error failure, rules, stage⟩) :
      Begun s players seed (.error failure) { s with rules := rules, events := {} }
  | begun {data fragment : Data} {rules : γ} {stage : Stage} {injectors : List ι}
      (hcheck : s.checkPlayers players = .ok ())
      (hprepare : GameRules.prepare s.rules players ⟨.ofSeed (s.seedFor players seed), {}⟩
        = ⟨.ok data, rules, stage⟩)
      (hinjectors : Pipeline.prepare players s.injectors = (fragment, injectors)) :
      Begun s players seed (.ok (stage.events.pending ++ [.started players]))
        { s with
          rules := rules, injectors := injectors, players := players
          state := some (.playing (s.openingData data fragment))
          seed := s.seedFor players seed, random := stage.random, events := {} }

/-- Every start goes one of these ways. -/
theorem begun (s : Session γ ι) (players : List PlayerId) (seed : Option UInt64) :
    Begun s players seed (s.begin players seed).1 (s.begin players seed).2 := by
  unfold begin
  cases hc : s.checkPlayers players with
  | error failure => exact .unseated hc
  | ok _ =>
      rcases hp : GameRules.prepare s.rules players ⟨.ofSeed (s.seedFor players seed), {}⟩
        with ⟨answer, rules, stage⟩
      simp only [seedFor] at hp
      simp only [hp]
      cases answer with
      | error failure => exact .failed hc hp
      | ok data => exact .begun hc hp rfl

/-- A start either is turned away without a trace, or begins the game. -/
theorem start_cases (s : Session γ ι) (players : List PlayerId) (seed : Option UInt64) :
    (∃ failure, s.start players seed = (.error failure, s)) ∨
      (s.disposed = false ∧ s.state = none ∧ s.start players seed = s.begin players seed) := by
  unfold start
  cases hd : s.disposed with
  | true => exact Or.inl ⟨.disposed, rfl⟩
  | false =>
      cases hs : s.state with
      | some state => exact Or.inl ⟨.alreadyInitialized, rfl⟩
      | none => exact Or.inr ⟨rfl, rfl, rfl⟩

/-- A start that succeeds begins the game. -/
theorem begun_of_start {s s' : Session γ ι} {players : List PlayerId} {seed : Option UInt64}
    {events : List Event} (h : s.start players seed = (.ok events, s')) :
    Begun s players seed (.ok events) s' := by
  rcases start_cases s players seed with ⟨failure, hrefused⟩ | ⟨-, -, hbegin⟩
  · rw [hrefused] at h
    cases h
  · have hbegun := begun s players seed
    rw [← hbegin, h] at hbegun
    exact hbegun

theorem nodup_of_firstRepeated?_eq_none {seen players : List PlayerId}
    (h : firstRepeated? seen players = none) : players.Nodup ∧ ∀ p ∈ players, p ∉ seen := by
  induction players generalizing seen with
  | nil => exact ⟨List.nodup_nil, fun p hp => absurd hp List.not_mem_nil⟩
  | cons p rest ih =>
      rw [firstRepeated?] at h
      split at h
      · cases h
      next hp =>
        have hfresh : p ∉ seen := by simpa using hp
        obtain ⟨hnodup, hnone⟩ := ih h
        refine ⟨List.nodup_cons.mpr ⟨fun hmem => hnone p hmem List.mem_cons_self, hnodup⟩, ?_⟩
        intro q hq
        rcases List.mem_cons.mp hq with rfl | hq
        · exact hfresh
        · exact fun hmem => hnone q hq (List.mem_cons_of_mem p hmem)

omit [GameRules γ] [Injector ι] in
/-- Nobody is seated twice. -/
theorem nodup_of_checkPlayers {s : Session γ ι} {players : List PlayerId}
    (h : s.checkPlayers players = .ok ()) : players.Nodup := by
  unfold checkPlayers at h
  split at h
  · cases h
  · split at h
    · cases h
    · split at h
      · cases h
      next hnone => exact (nodup_of_firstRepeated?_eq_none hnone).1

theorem nodup_of_start {s s' : Session γ ι} {players : List PlayerId} {seed : Option UInt64}
    {events : List Event} (h : s.start players seed = (.ok events, s')) : players.Nodup := by
  cases begun_of_start h with
  | begun hcheck _ _ => exact nodup_of_checkPlayers hcheck

/-- A reset either is turned away without a trace, or begins the game again. -/
theorem reset_cases (s : Session γ ι) :
    (∃ failure, s.reset = (.error failure, s)) ∨
      (s.disposed = false ∧ s.reset = s.begin s.players (some s.seed)) := by
  unfold reset
  cases hd : s.disposed with
  | true => exact Or.inl ⟨.disposed, rfl⟩
  | false =>
      cases hs : s.state with
      | none => exact Or.inl ⟨.notInitialized, rfl⟩
      | some state => exact Or.inr ⟨rfl, rfl⟩

/-! ### What a restore can do -/

/-- The ways in which taking up a state can go, each with its answer and the session afterwards. -/
inductive Adopted (s : Session γ ι) (players : List PlayerId) (state : GameState) (seed : UInt64)
    (random : Generator) : Except Failure Unit → Session γ ι → Prop
  | disposed (hdisposed : s.disposed = true) : Adopted s players state seed random (.error .disposed) s
  | unseated {failure : Failure} (hdisposed : s.disposed = false)
      (hcheck : s.checkPlayers players = .error failure) :
      Adopted s players state seed random (.error failure) s
  | unstarted (hdisposed : s.disposed = false) (hphase : state.phase = .init) :
      Adopted s players state seed random
        (.error (.invalidState "cannot restore a state that was never initialized")) s
  /-- the rules do not take it up; what they hold beside the state may have changed -/
  | failed {failure : Failure} {rules : γ} (hdisposed : s.disposed = false)
      (hresume : GameRules.resume s.rules players state = (.error failure, rules)) :
      Adopted s players state seed random (.error failure) { s with rules := rules }
  | adopted {rules : γ} (hdisposed : s.disposed = false)
      (hcheck : s.checkPlayers players = .ok ()) (hphase : state.phase ≠ .init)
      (hresume : GameRules.resume s.rules players state = (.ok (), rules)) :
      Adopted s players state seed random (.ok ())
        { s with
          rules := rules, players := players, state := some state, seed := seed, random := random
          events := {} }

omit [Injector ι] in
/-- Taking up a state goes one of these ways. -/
theorem adopted (s : Session γ ι) (players : List PlayerId) (state : GameState) (seed : UInt64)
    (random : Generator) : Adopted s players state seed random
      (s.adopt players state seed random).1 (s.adopt players state seed random).2 := by
  obtain ⟨id, rules, config, maxPlayers, injectors, seats, _, _, _, events, disposed⟩ := s
  cases disposed with
  | true => exact .disposed rfl
  | false =>
      simp only [adopt, Bool.false_eq_true, if_false]
      split
      case _ failure hc => exact .unseated rfl hc
      case _ hc =>
          by_cases hphase : state.phase = .init
          · simp only [hphase, if_true]
            exact .unstarted rfl hphase
          · simp only [hphase, if_false]
            rcases hr : GameRules.resume rules players state with ⟨answer, rules'⟩
            cases answer with
            | error failure => exact .failed rfl hr
            | ok _ => exact .adopted rfl hc hphase hr

/-! ### The queue between two calls -/

theorem events_begin {s : Session γ ι} (h : s.events = {}) (players : List PlayerId)
    (seed : Option UInt64) : (s.begin players seed).2.events = {} := by
  have hbegun := begun s players seed
  generalize (s.begin players seed).1 = answer at hbegun
  generalize (s.begin players seed).2 = s' at hbegun ⊢
  cases hbegun with
  | unseated _ => exact h
  | failed _ _ => rfl
  | begun _ _ _ => rfl

omit [Injector ι] in
theorem events_adopt {s : Session γ ι} (h : s.events = {}) (players : List PlayerId)
    (state : GameState) (seed : UInt64) (random : Generator) :
    (s.adopt players state seed random).2.events = {} := by
  have hadopted := adopted s players state seed random
  generalize (s.adopt players state seed random).1 = answer at hadopted
  generalize (s.adopt players state seed random).2 = s' at hadopted ⊢
  cases hadopted with
  | disposed _ => exact h
  | unseated _ _ => exact h
  | unstarted _ _ => exact h
  | failed _ _ => exact h
  | adopted _ _ _ _ => rfl

/-- A restore either stops at an unreadable text, or takes up a state; one that succeeds may also give
the session the id of the stored one. -/
theorem restore_cases (s : Session γ ι) {c : Call} (hc : c.isRestore = true) :
    (∃ error, s.perform c = (.restored (.error (.unreadable error)), s)) ∨
      ∃ players state seed random answer t id, s.adopt players state seed random = (answer, t) ∧
        s.perform c = (.restored answer,
          match answer with
          | .ok _ => { t with id := id }
          | .error _ => t) := by
  have hrestore : ∀ saved : SavedSession,
      ∃ players state seed random answer t id, s.adopt players state seed random = (answer, t) ∧
        s.restore saved = (answer,
          match answer with
          | .ok _ => { t with id := id }
          | .error _ => t) := by
    intro saved
    rcases ha : s.adopt saved.players saved.state saved.seed saved.random with ⟨answer, t⟩
    refine ⟨saved.players, saved.state, saved.seed, saved.random, answer, t, saved.id, ha, ?_⟩
    unfold restore
    rw [ha]
    cases answer <;> rfl
  cases c with
  | restoreState players state =>
      right
      rcases ha : s.adopt players state (stateSeed state) (.ofSeed (stateSeed state)) with ⟨answer, t⟩
      refine ⟨players, state, _, _, answer, t, t.id, ha, ?_⟩
      simp only [perform, restoreState, ha]
      cases answer <;> rfl
  | restore saved =>
      right
      obtain ⟨players, state, seed, random, answer, t, id, ha, hr⟩ := hrestore saved
      exact ⟨players, state, seed, random, answer, t, id, ha, by simp only [perform, hr]⟩
  | restoreText text =>
      cases hread : SavedSession.ofText text with
      | error e => exact Or.inl ⟨e, by simp only [perform, restoreText, hread]⟩
      | ok saved =>
          right
          obtain ⟨players, state, seed, random, answer, t, id, ha, hr⟩ := hrestore saved
          exact ⟨players, state, seed, random, answer, t, id, ha,
            by simp only [perform, restoreText, hread, hr]⟩
  | _ => simp [Call.isRestore] at hc

/-- No event stays in the queue when a call is over. -/
theorem events_perform {s : Session γ ι} (h : s.events = {}) (c : Call) :
    (s.perform c).2.events = {} := by
  have hrestore : ∀ c : Call, c.isRestore = true → (s.perform c).2.events = {} := by
    intro c hc
    rcases restore_cases s hc with ⟨e, hp⟩ | ⟨players, state, seed, random, answer, t, id, ha, hp⟩
    · rw [hp]
      exact h
    · have ht : t.events = {} := by
        simpa only [ha] using events_adopt h players state seed random
      rw [hp]
      cases answer <;> exact ht
  cases c with
  | start players seed =>
      rcases start_cases s players seed with ⟨failure, hs⟩ | ⟨-, -, hs⟩
      · simpa only [perform, hs] using h
      · simpa only [perform, hs] using events_begin h players seed
  | reset =>
      rcases reset_cases s with ⟨failure, hs⟩ | ⟨-, hs⟩
      · simpa only [perform, hs] using h
      · simpa only [perform, hs] using events_begin h s.players (some s.seed)
  | act player action => rfl
  | tick seconds =>
      have hticked := ticked s seconds
      simp only [perform]
      generalize (s.tick seconds).1 = answer at hticked
      generalize (s.tick seconds).2 = s' at hticked ⊢
      cases hticked with
      | disposed _ => exact h
      | unstarted _ _ => exact h
      | decided _ _ _ => exact h
      | failed _ _ _ _ => rfl
      | advanced _ _ _ _ _ => rfl
  | restoreState players state => exact hrestore _ rfl
  | restore saved => exact hrestore _ rfl
  | restoreText text => exact hrestore _ rfl
  | dispose =>
      simp only [perform, dispose]
      cases s.disposed with
      | true => exact h
      | false => rfl

/-- No event stays in the queue when a run of calls is over. -/
theorem events_after {s : Session γ ι} (h : s.events = {}) (calls : List Call) :
    (s.after calls).events = {} :=
  Run.after_invariant (fun s : Session γ ι => s.events = {}) (fun _ => True)
    (fun _ c _ hs => events_perform hs c) (fun _ _ => trivial) h

/-! ### What rules keep beside the state -/

/-- A fact about the rules' own value that no call of theirs ends. -/
structure KeptByRules (P : γ → Prop) : Prop where
  prepare : ∀ {rules players stage answer rules' stage'},
    GameRules.prepare rules players stage = ⟨answer, rules', stage'⟩ → P rules → P rules'
  resume : ∀ {rules players state answer rules'},
    GameRules.resume rules players state = (answer, rules') → P rules → P rules'
  act : ∀ {rules state player action multiplier stage answer rules' stage'},
    GameRules.act rules state player action multiplier stage = ⟨answer, rules', stage'⟩ →
      P rules → P rules'
  tick : ∀ {rules state seconds stage answer rules' stage'},
    GameRules.tick rules state seconds stage = ⟨answer, rules', stage'⟩ → P rules → P rules'
  release : ∀ {rules answer rules'}, GameRules.release rules = (answer, rules') → P rules → P rules'

/-- A fact about the rules' own value that none of their calls ends but the release. -/
structure KeptInPlay (P : γ → Prop) : Prop where
  prepare : ∀ {rules players stage answer rules' stage'},
    GameRules.prepare rules players stage = ⟨answer, rules', stage'⟩ → P rules → P rules'
  resume : ∀ {rules players state answer rules'},
    GameRules.resume rules players state = (answer, rules') → P rules → P rules'
  act : ∀ {rules state player action multiplier stage answer rules' stage'},
    GameRules.act rules state player action multiplier stage = ⟨answer, rules', stage'⟩ →
      P rules → P rules'
  tick : ∀ {rules state seconds stage answer rules' stage'},
    GameRules.tick rules state seconds stage = ⟨answer, rules', stage'⟩ → P rules → P rules'

omit [Injector ι] in
theorem KeptByRules.inPlay {P : γ → Prop} (hP : KeptByRules P) : KeptInPlay P :=
  ⟨hP.prepare, hP.resume, hP.act, hP.tick⟩

theorem rules_begin {P : γ → Prop} (hP : KeptInPlay P) {s : Session γ ι} (h : P s.rules)
    (players : List PlayerId) (seed : Option UInt64) : P (s.begin players seed).2.rules := by
  have hbegun := begun s players seed
  generalize (s.begin players seed).1 = answer at hbegun
  generalize (s.begin players seed).2 = s' at hbegun ⊢
  cases hbegun with
  | unseated _ => exact h
  | failed _ hprepare => exact hP.prepare hprepare h
  | begun _ hprepare _ => exact hP.prepare hprepare h

omit [Injector ι] in
theorem rules_adopt {P : γ → Prop} (hP : KeptInPlay P) {s : Session γ ι} (h : P s.rules)
    (players : List PlayerId) (state : GameState) (seed : UInt64) (random : Generator) :
    P (s.adopt players state seed random).2.rules := by
  have hadopted := adopted s players state seed random
  generalize (s.adopt players state seed random).1 = answer at hadopted
  generalize (s.adopt players state seed random).2 = s' at hadopted ⊢
  cases hadopted with
  | disposed _ => exact h
  | unseated _ _ => exact h
  | unstarted _ _ => exact h
  | failed _ hresume => exact hP.resume hresume h
  | adopted _ _ _ hresume => exact hP.resume hresume h

/-- What the rules' own calls keep, every call on the session keeps that does not release them. -/
theorem rules_perform_of_ne {P : γ → Prop} (hP : KeptInPlay P) {s : Session γ ι} (h : P s.rules)
    {c : Call} (hc : c ≠ .dispose) : P (s.perform c).2.rules := by
  have hrestore : ∀ c : Call, c.isRestore = true → P (s.perform c).2.rules := by
    intro c hc
    rcases restore_cases s hc with ⟨e, hp⟩ | ⟨players, state, seed, random, answer, t, id, ha, hp⟩
    · rw [hp]
      exact h
    · have ht : P t.rules := by
        simpa only [ha] using rules_adopt hP h players state seed random
      rw [hp]
      cases answer <;> exact ht
  cases c with
  | start players seed =>
      rcases start_cases s players seed with ⟨failure, hs⟩ | ⟨-, -, hs⟩
      · simpa only [perform, hs] using h
      · simpa only [perform, hs] using rules_begin hP h players seed
  | reset =>
      rcases reset_cases s with ⟨failure, hs⟩ | ⟨-, hs⟩
      · simpa only [perform, hs] using h
      · simpa only [perform, hs] using rules_begin hP h s.players (some s.seed)
  | act player action =>
      have hhandled := handled s player action
      simp only [perform]
      generalize (s.handleAction player action).1 = result at hhandled
      generalize (s.handleAction player action).2 = s' at hhandled ⊢
      cases hhandled with
      | refused _ => exact h
      | vetoed _ _ _ => exact h
      | rejected _ _ _ hact => exact hP.act hact h
      | processed _ _ _ hact _ _ => exact hP.act hact h
  | tick seconds =>
      have hticked := ticked s seconds
      simp only [perform]
      generalize (s.tick seconds).1 = answer at hticked
      generalize (s.tick seconds).2 = s' at hticked ⊢
      cases hticked with
      | disposed _ => exact h
      | unstarted _ _ => exact h
      | decided _ _ _ => exact h
      | failed _ _ _ htick => exact hP.tick htick h
      | advanced _ _ _ htick _ => exact hP.tick htick h
  | restoreState players state => exact hrestore _ rfl
  | restore saved => exact hrestore _ rfl
  | restoreText text => exact hrestore _ rfl
  | dispose => exact absurd rfl hc

/-- What the rules' own calls keep, every call on the session keeps. -/
theorem rules_perform {P : γ → Prop} (hP : KeptByRules P) {s : Session γ ι} (h : P s.rules)
    (c : Call) : P (s.perform c).2.rules := by
  by_cases hc : c = .dispose
  · subst hc
    simp only [perform, dispose]
    cases s.disposed with
    | true => exact h
    | false => exact hP.release rfl h
  · exact rules_perform_of_ne hP.inPlay h hc

/-! ### What a session is made of -/

/-- Sessions made alike: of one configuration, with as many seats, and none or both given up. -/
structure SameMake (s t : Session γ ι) : Prop where
  config : s.config = t.config
  maxPlayers : s.maxPlayers = t.maxPlayers
  disposed : s.disposed = t.disposed

theorem sameMake_begin (s : Session γ ι) (players : List PlayerId) (seed : Option UInt64) :
    SameMake (s.begin players seed).2 s := by
  have hbegun := begun s players seed
  generalize (s.begin players seed).1 = answer at hbegun
  generalize (s.begin players seed).2 = s' at hbegun ⊢
  cases hbegun <;> exact ⟨rfl, rfl, rfl⟩

omit [Injector ι] in
theorem sameMake_adopt (s : Session γ ι) (players : List PlayerId) (state : GameState)
    (seed : UInt64) (random : Generator) : SameMake (s.adopt players state seed random).2 s := by
  have hadopted := adopted s players state seed random
  generalize (s.adopt players state seed random).1 = answer at hadopted
  generalize (s.adopt players state seed random).2 = s' at hadopted ⊢
  cases hadopted <;> exact ⟨rfl, rfl, rfl⟩

/-- No call makes a session anew, and only a disposal gives it up. -/
theorem sameMake_perform (s : Session γ ι) {c : Call} (hc : c ≠ .dispose) :
    SameMake (s.perform c).2 s := by
  have hrestore : ∀ c : Call, c.isRestore = true → SameMake (s.perform c).2 s := by
    intro c hc
    rcases restore_cases s hc with ⟨e, hp⟩ | ⟨players, state, seed, random, answer, t, id, ha, hp⟩
    · rw [hp]
      exact ⟨rfl, rfl, rfl⟩
    · have ht : SameMake t s := by
        simpa only [ha] using sameMake_adopt s players state seed random
      rw [hp]
      cases answer <;> exact ⟨ht.config, ht.maxPlayers, ht.disposed⟩
  cases c with
  | start players seed =>
      rcases start_cases s players seed with ⟨failure, hs⟩ | ⟨-, -, hs⟩
      · simp only [perform, hs]
        exact ⟨rfl, rfl, rfl⟩
      · simpa only [perform, hs] using sameMake_begin s players seed
  | reset =>
      rcases reset_cases s with ⟨failure, hs⟩ | ⟨-, hs⟩
      · simp only [perform, hs]
        exact ⟨rfl, rfl, rfl⟩
      · simpa only [perform, hs] using sameMake_begin s s.players (some s.seed)
  | act player action =>
      have hhandled := handled s player action
      simp only [perform]
      generalize (s.handleAction player action).1 = result at hhandled
      generalize (s.handleAction player action).2 = s' at hhandled ⊢
      cases hhandled <;> exact ⟨rfl, rfl, rfl⟩
  | tick seconds =>
      have hticked := ticked s seconds
      simp only [perform]
      generalize (s.tick seconds).1 = answer at hticked
      generalize (s.tick seconds).2 = s' at hticked ⊢
      cases hticked <;> exact ⟨rfl, rfl, rfl⟩
  | restoreState players state => exact hrestore _ rfl
  | restore saved => exact hrestore _ rfl
  | restoreText text => exact hrestore _ rfl
  | dispose => exact absurd rfl hc

/-- A session that was given up stays so. -/
theorem disposed_perform_dispose (s : Session γ ι) : (s.perform .dispose).2.disposed = true := by
  simp only [perform, dispose]
  cases hd : s.disposed with
  | true => exact hd
  | false => rfl

/-- What all calls but a disposal keep, holds until the session is given up. -/
theorem invariant_of_enabled {Inv : Session γ ι → Prop}
    (hstep : ∀ s c, c ≠ .dispose → Inv s → Inv (s.perform c).2) {s : Session γ ι}
    (h : s.disposed = false → Inv s) (c : Call) :
    (s.perform c).2.disposed = false → Inv (s.perform c).2 := by
  intro henabled
  by_cases hc : c = .dispose
  · subst hc
    rw [disposed_perform_dispose] at henabled
    cases henabled
  · rw [(sameMake_perform s hc).disposed] at henabled
    exact hstep s c hc (h henabled)

end Session

end Arcade.Play
