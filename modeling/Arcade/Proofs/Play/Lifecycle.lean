import Arcade.Proofs.Play.Calls
/-!
# The course of a game

A game that was started goes on by actions, frames and a disposal (`Call.isPlay`) until its rules
call it decided. Its phase never moves backward, its turns count the actions that were processed, and
its end is told once, by the last event of the call that brings it (`goesOn`, `countP_tellsEnd_le`).

Two different paths of the code bring the end, and either may be preceded by rules and injectors that
emit events of their own. So what is asked of them is named here: rules must be `Orderly` and
injectors `Discreet`, which is to say that they never tell the end themselves, and that what rules
keep beside the state has no say in the verdict on it. `Course` lists what one call can do then.
-/

namespace Arcade.Play

/-- Whether an event tells the end of a game. -/
def Event.tellsEnd (e : Event) : Bool := e.kind == "game_ended"

/-- The scores in a document. -/
def Event.scoresOf (j : Json) : Dict Int :=
  (j.asObj?.getD []).filterMap fun e =>
    match e.2 with
    | .num (.int n) => some (e.1, n)
    | _ => none

/-- The result that the data of an event tell. -/
def Event.result? (e : Event) : Option Result :=
  match e.data.field? "winner", e.data.field? "scores" with
  | some winner, some scores => some ⟨winner.asStr?, scoresOf scores⟩
  | _, _ => none

/-- Whether an event tells the end of a game with a result: the player whom it concerns is the winner, and
its data tell winner and scores. -/
structure Event.Tells (e : Event) (result : Result) : Prop where
  kind : e.tellsEnd = true
  player : e.player = result.winner
  data : e.result? = some result

/-- Events that do not tell the end. -/
def Quiet (events : List Event) : Prop := ∀ e ∈ events, e.tellsEnd = false

/-- Whether a call plays on or gives up. -/
def Call.isPlay : Call → Bool
  | .act _ _ => true
  | .tick _ => true
  | .dispose => true
  | _ => false

theorem Call.isPlay_of_isMove {c : Call} (h : c.isMove = true) : c.isPlay = true := by
  cases c with
  | act _ _ => rfl
  | tick _ => rfl
  | _ => cases h

theorem rank_le_ended (p : Phase) : p.rank ≤ Phase.ended.rank := by
  cases p <;> decide

theorem scoresOf_scoresJson (scores : Dict Int) : Event.scoresOf (Event.scoresJson scores) = scores := by
  simp only [Event.scoresOf, Event.scoresJson, Json.asObj?, Option.getD_some]
  induction scores with
  | nil => rfl
  | cons e rest ih => exact congrArg (List.cons e) ih

/-- The event that a session tells the end with tells the result. -/
theorem tells_ended (winner : Option PlayerId) (scores : Dict Int) :
    (Event.ended winner scores).Tells ⟨winner, scores⟩ := by
  have hscores : (Event.ended winner scores).data.field? "scores" = some (Event.scoresJson scores) := rfl
  have hwinner : (Event.ended winner scores).data.field? "winner" = some (.orNull (winner.map .str)) := rfl
  refine ⟨rfl, rfl, ?_⟩
  rw [Event.result?, hscores, hwinner]
  dsimp only
  rw [scoresOf_scoresJson]
  cases winner <;> rfl

@[simp] theorem quiet_nil : Quiet [] := fun _ h => absurd h List.not_mem_nil

theorem quiet_append {first second : List Event} :
    Quiet (first ++ second) ↔ Quiet first ∧ Quiet second := by
  simp only [Quiet, List.forall_mem_append]

theorem countP_of_quiet {events : List Event} (h : Quiet events) :
    events.countP Event.tellsEnd = 0 := by
  rw [List.countP_eq_zero]
  intro e he
  rw [h e he]
  decide

/-! ### What is asked of rules and injectors -/

/-- Rules that come to the same verdict on every state. -/
structure SameVerdict {γ : Type} [GameRules γ] (rules rules' : γ) : Prop where
  isOver : ∀ state, GameRules.isOver rules' state = GameRules.isOver rules state
  winner : ∀ state, GameRules.winner rules' state = GameRules.winner rules state
  scores : ∀ state, GameRules.scores rules' state = GameRules.scores rules state

theorem SameVerdict.refl {γ : Type} [GameRules γ] (rules : γ) : SameVerdict rules rules :=
  ⟨fun _ => rfl, fun _ => rfl, fun _ => rfl⟩

theorem SameVerdict.trans {γ : Type} [GameRules γ] {rules rules' rules'' : γ}
    (h : SameVerdict rules rules') (h' : SameVerdict rules' rules'') : SameVerdict rules rules'' where
  isOver state := (h'.isOver state).trans (h.isOver state)
  winner state := (h'.winner state).trans (h.winner state)
  scores state := (h'.scores state).trans (h.scores state)

/-- Rules whose verdict never changes, and which leave it to the session to tell the end. -/
structure Orderly (γ : Type) [GameRules γ] : Prop where
  prepare : ∀ (rules : γ) players (stage : Stage), Quiet stage.events.pending →
    Quiet (GameRules.prepare rules players stage).stage.events.pending
  act : ∀ (rules : γ) state player action multiplier (stage : Stage), Quiet stage.events.pending →
    SameVerdict rules (GameRules.act rules state player action multiplier stage).rules ∧
      Quiet (GameRules.act rules state player action multiplier stage).stage.events.pending
  tick : ∀ (rules : γ) state seconds (stage : Stage), Quiet stage.events.pending →
    SameVerdict rules (GameRules.tick rules state seconds stage).rules ∧
      Quiet (GameRules.tick rules state seconds stage).stage.events.pending
  release : ∀ rules : γ, SameVerdict rules (GameRules.release rules).2

/-- Injectors that leave it to the session to tell the end. -/
def Discreet (ι : Type) [Injector ι] : Prop :=
  ∀ (i : ι) player action outcome, Quiet outcome.events →
    Quiet (Injector.after i player action outcome).1.events

theorem quiet_after {ι : Type} [Injector ι] (hι : Discreet ι) {player : PlayerId} {action : Action}
    {injectors injectors' : List ι} {outcome outcome' : Outcome}
    (hafter : Pipeline.after player action injectors outcome = (outcome', injectors'))
    (h : Quiet outcome.events) : Quiet outcome'.events := by
  induction injectors generalizing outcome injectors' with
  | nil =>
      obtain rfl : outcome = outcome' := congrArg Prod.fst hafter
      exact h
  | cons i rest ih =>
      obtain ⟨houtcome, -⟩ := Prod.mk.inj hafter
      exact ih (Prod.ext houtcome rfl) (hι i player action outcome h)

namespace Session

variable {γ ι : Type} [GameRules γ] [Injector ι] {s s' : Session γ ι} {state : GameState}

/-! ### One call of a game under way -/

/-- How many actions were processed. -/
def turn (s : Session γ ι) : UInt64 :=
  match s.state with
  | some state => state.turn
  | none => 0

/-- Whether a call is an action that is accepted, and no injector holds it back. -/
def Processes (s : Session γ ι) : Call → Prop
  | .act player action =>
    (s.handleAction player action).1.success = true ∧ ¬ s.Vetoes player action
  | _ => False

/-- A game that was started; what its rules call decided is in the last phase. -/
structure Underway (s : Session γ ι) (state : GameState) : Prop where
  queue : s.events = {}
  holds : s.state = some state
  started : state.phase ≠ .init
  decided : GameRules.isOver s.rules state = true → state.phase = .ended

/-- What a call can do to a game under way: the events that it hands over, and the session after
it. -/
inductive Course (s : Session γ ι) (state : GameState) (c : Call) :
    List Event → Session γ ι → Prop
  /-- nothing happens to the state -/
  | still {s' : Session γ ι} (hstate : s'.state = some state)
      (hverdict : SameVerdict s.rules s'.rules) (hturn : ¬ s.Processes c)
      (hsettled : state.phase = .ended ∨ s.disposed = true → c.isMove = true → s' = s) :
      Course s state c [] s'
  /-- the game goes on, or is decided now -/
  | moved {s' : Session γ ι} {next state' : GameState} {news : List Event} {queue : EventQueue}
      {ended : Bool} (hdisposed : s.disposed = false) (hphase : state.phase ≠ .ended)
      (hnext : next.phase = state.phase)
      (hturn : next.turn = state.turn + 1 ∧ s.Processes c ∨
        next.turn = state.turn ∧ ¬ s.Processes c)
      (hnews : Quiet news) (hsettle : settle s'.rules next ⟨news⟩ = (state', queue, ended))
      (hstate : s'.state = some state') : Course s state c queue.pending s'

omit [GameRules γ] [Injector ι] in
theorem refusal?_of_settled (hstate : s.state = some state)
    (h : state.phase = .ended ∨ s.disposed = true) (player : PlayerId) :
    ∃ refusal, s.refusal? player = some refusal := by
  cases hr : s.refusal? player with
  | some refusal => exact ⟨refusal, rfl⟩
  | none =>
      obtain ⟨hdisposed, state', hstate', -, hphase⟩ := state_of_refusal?_eq_none hr
      obtain rfl : state = state' := Option.some.inj (hstate.symm.trans hstate')
      rcases h with hended | hdis
      · exact absurd hended hphase
      · rw [hdis] at hdisposed
        cases hdisposed

omit [GameRules γ] in
/-- A veto and a way past the injectors exclude each other. -/
theorem not_vetoes_of_proceed {player : PlayerId} {action forwarded : Action} {multiplier : Float}
    {challenge : Option Json} {injectors : List ι} (hstate : s.state = some state)
    (hbefore : Pipeline.before player action state.data s.injectors
      = (.proceed forwarded multiplier challenge, injectors)) : ¬ s.Vetoes player action := by
  rintro ⟨state', name, told, injectors', -, hstate', hvetoed⟩
  obtain rfl : state = state' := Option.some.inj (hstate.symm.trans hstate')
  rw [hbefore] at hvetoed
  cases hvetoed

theorem course_act (hγ : Orderly γ) (hι : Discreet ι) (hs : s.Underway state) (player : PlayerId)
    (action : Action) :
    Course s state (.act player action) (s.handleAction player action).1.events
      (s.handleAction player action).2 := by
  have hquiet : Quiet s.events.pending := by
    rw [hs.queue]
    exact quiet_nil
  -- past the first look the game is neither decided nor given up, so nothing is settled yet
  have hlooked : s.refusal? player = none → ¬ (state.phase = .ended ∨ s.disposed = true) := by
    intro hr h
    obtain ⟨refusal, hrefusal⟩ := refusal?_of_settled hs.holds h player
    rw [hr] at hrefusal
    cases hrefusal
  have hprocesses : s.Processes (.act player action) ↔
      (s.handleAction player action).1.success = true ∧ ¬ s.Vetoes player action := Iff.rfl
  have hhandled := handled s player action
  generalize (s.handleAction player action).1 = result at hhandled hprocesses ⊢
  generalize (s.handleAction player action).2 = s' at hhandled ⊢
  cases hhandled with
  | refused hrefusal =>
      have hturn : ¬ s.Processes (.act player action) := fun h => nomatch (hprocesses.mp h).1
      rw [← hs.queue]
      exact .still hs.holds (.refl _) hturn fun _ _ => rfl
  | vetoed hrefusal hstate hbefore =>
      have hvetoes : s.Vetoes player action := ⟨_, _, _, _, hrefusal, hstate, hbefore⟩
      exact .still hs.holds (.refl _) (fun h => (hprocesses.mp h).2 hvetoes)
        fun h => absurd h (hlooked hrefusal)
  | rejected hrefusal hstate hbefore hact =>
      have hturn : ¬ s.Processes (.act player action) := fun h => nomatch (hprocesses.mp h).1
      obtain ⟨hverdict, -⟩ := hγ.act s.rules _ player _ _ ⟨s.random, s.events⟩ hquiet
      rw [hact] at hverdict
      exact .still hs.holds hverdict hturn fun h => absurd h (hlooked hrefusal)
  | processed hrefusal hstate hbefore hact hafter hsettle =>
      obtain rfl := Option.some.inj (hs.holds.symm.trans hstate)
      have hturn : s.Processes (.act player action) :=
        hprocesses.mpr ⟨rfl, not_vetoes_of_proceed hstate hbefore⟩
      obtain ⟨-, hstage⟩ := hγ.act s.rules state player _ _ ⟨s.random, s.events⟩ hquiet
      rw [hact] at hstage
      have hnews : Quiet _ := quiet_after hι hafter hstage
      obtain ⟨hdisposed, hphase⟩ : s.disposed = false ∧ state.phase ≠ .ended := by
        simpa only [not_or, Bool.not_eq_true, and_comm] using hlooked hrefusal
      refine .moved hdisposed hphase ?_ (.inl ⟨?_, hturn⟩) hnews hsettle rfl
      · rfl
      · rfl

theorem course_tick (hγ : Orderly γ) (hs : s.Underway state) (seconds : Float) :
    Course s state (.tick seconds) (Answer.ticked (s.tick seconds).1).events (s.tick seconds).2 := by
  have hquiet : Quiet s.events.pending := by
    rw [hs.queue]
    exact quiet_nil
  have hturn : ¬ s.Processes (.tick seconds) := fun h => h
  have hticked := ticked s seconds
  generalize (s.tick seconds).1 = answer at hticked ⊢
  generalize (s.tick seconds).2 = s' at hticked ⊢
  cases hticked with
  | disposed _ => exact .still hs.holds (.refl _) hturn fun _ _ => rfl
  | unstarted _ hstate => exact absurd (hs.holds.symm.trans hstate) (by simp)
  | decided _ _ _ => exact .still hs.holds (.refl _) hturn fun _ _ => rfl
  | failed hdisposed hstate hphase htick =>
      obtain rfl := Option.some.inj (hs.holds.symm.trans hstate)
      obtain ⟨hverdict, -⟩ := hγ.tick s.rules state seconds ⟨s.random, s.events⟩ hquiet
      rw [htick] at hverdict
      refine .still hs.holds hverdict hturn fun h => ?_
      simp [hphase, hdisposed] at h
  | advanced hdisposed hstate hphase htick hsettle =>
      obtain rfl := Option.some.inj (hs.holds.symm.trans hstate)
      obtain ⟨-, hnews⟩ := hγ.tick s.rules state seconds ⟨s.random, s.events⟩ hquiet
      rw [htick] at hnews
      refine .moved hdisposed hphase ?_ (.inr ⟨?_, hturn⟩) hnews hsettle rfl
      · rfl
      · rfl

/-- What one call can do to a game under way. -/
theorem course (hγ : Orderly γ) (hι : Discreet ι) (hs : s.Underway state) {c : Call}
    (hc : c.isPlay = true) : Course s state c (s.perform c).1.events (s.perform c).2 := by
  cases c with
  | act player action => exact course_act hγ hι hs player action
  | tick seconds => exact course_tick hγ hs seconds
  | dispose =>
      have hturn : ¬ s.Processes .dispose := fun h => h
      show Course s state .dispose [] s.dispose.2
      unfold dispose
      cases s.disposed with
      | true => exact .still hs.holds (.refl _) hturn fun _ h => nomatch h
      | false => exact .still hs.holds (hγ.release s.rules) hturn fun _ h => nomatch h
  | _ => simp [Call.isPlay] at hc

/-! ### From one call to the next -/

/-- A game under way stays so, whatever is played. -/
theorem underway_perform (hγ : Orderly γ) (hι : Discreet ι) (hs : s.Underway state) {c : Call}
    (hc : c.isPlay = true) : ∃ state', (s.perform c).2.Underway state' := by
  have hqueue : (s.perform c).2.events = {} := events_perform hs.queue c
  have hcourse := course hγ hι hs hc
  generalize (s.perform c).1.events = events at hcourse
  generalize (s.perform c).2 = s' at hqueue hcourse ⊢
  cases hcourse with
  | still hstate hverdict _ _ =>
      refine ⟨state, hqueue, hstate, hs.started, fun hover => hs.decided ?_⟩
      rw [← hverdict.isOver state]
      exact hover
  | @moved _ next state' _ _ _ _ _ hnext _ _ hsettle hstate =>
      rcases settle_cases hsettle with ⟨hover, rfl, -⟩ | ⟨-, rfl, -⟩
      · refine ⟨state', hqueue, hstate, hnext ▸ hs.started, fun h => ?_⟩
        rw [hover] at h
        cases h
      · exact ⟨_, hqueue, hstate, (by simp), fun _ => rfl⟩

theorem underway_after (hγ : Orderly γ) (hι : Discreet ι) (hs : s.Underway state)
    {calls : List Call} (hcalls : ∀ c ∈ calls, c.isPlay = true) :
    ∃ state', (s.after calls).Underway state' :=
  Run.after_invariant (fun s : Session γ ι => ∃ state, s.Underway state)
    (fun c : Call => c.isPlay = true)
    (fun _ _ hc ⟨_, hs⟩ => underway_perform hγ hι hs hc) hcalls ⟨state, hs⟩

/-- A decided game keeps its state, and the verdict on it. -/
theorem decided_after (hγ : Orderly γ) (hι : Discreet ι) (hs : s.Underway state)
    (hended : state.phase = .ended) {calls : List Call} (hcalls : ∀ c ∈ calls, c.isPlay = true) :
    (s.after calls).state = some state ∧ SameVerdict s.rules (s.after calls).rules := by
  have hstep : ∀ (t : Session γ ι) (c : Call), c.isPlay = true →
      t.Underway state ∧ SameVerdict s.rules t.rules →
      (t.perform c).2.Underway state ∧ SameVerdict s.rules (t.perform c).2.rules := by
    intro t c hc ⟨ht, hsame⟩
    have hqueue : (t.perform c).2.events = {} := events_perform ht.queue c
    have hcourse := course hγ hι ht hc
    generalize (t.perform c).1.events = events at hcourse
    generalize (t.perform c).2 = t' at hqueue hcourse ⊢
    cases hcourse with
    | still hstate hverdict _ _ =>
        exact ⟨⟨hqueue, hstate, ht.started, fun _ => hended⟩, hsame.trans hverdict⟩
    | moved _ hphase _ _ _ _ _ => exact absurd hended hphase
  obtain ⟨hlast, hverdict⟩ := Run.after_invariant _ _ hstep hcalls ⟨hs, .refl _⟩
  exact ⟨hlast.holds, hverdict⟩

/-! ### The start -/

/-- No fresh game for these players is decided. -/
def OpensUndecided (s : Session γ ι) (players : List PlayerId) : Prop :=
  ∀ {stage stage' : Stage} {data fragment : Data} {rules : γ} {injectors : List ι},
    GameRules.prepare s.rules players stage = ⟨.ok data, rules, stage'⟩ →
      Pipeline.prepare players s.injectors = (fragment, injectors) →
        GameRules.isOver rules (.playing (s.openingData data fragment)) = false

/-- A beginning leaves a game under way, and does not tell the end. -/
theorem underway_of_begun (hγ : Orderly γ) {players : List PlayerId} {seed : Option UInt64}
    (hopens : s.OpensUndecided players) {events : List Event}
    (hbegun : Begun s players seed (.ok events) s') :
    (∃ state, s'.Underway state ∧ state.phase = .playing) ∧ Quiet events := by
  cases hbegun with
  | begun hcheck hprepare hinjectors =>
      have hundecided := hopens hprepare hinjectors
      have hquiet := hγ.prepare s.rules players ⟨.ofSeed (s.seedFor players seed), {}⟩ quiet_nil
      rw [hprepare] at hquiet
      refine ⟨⟨_, ⟨rfl, rfl, (by simp [GameState.playing]), fun hover => ?_⟩, rfl⟩,
        quiet_append.mpr ⟨hquiet, by simp [Quiet, Event.tellsEnd, Event.started]⟩⟩
      rw [hundecided] at hover
      cases hover

theorem underway_of_start (hγ : Orderly γ) {players : List PlayerId} {seed : Option UInt64}
    (hopens : s.OpensUndecided players) {events : List Event}
    (hstart : s.start players seed = (.ok events, s')) :
    (∃ state, s'.Underway state ∧ state.phase = .playing) ∧ Quiet events :=
  underway_of_begun hγ hopens (begun_of_start hstart)

/-- A game starts before its first turn. -/
theorem turn_of_start {players : List PlayerId} {seed : Option UInt64} {events : List Event}
    (hstart : s.start players seed = (.ok events, s')) : s'.turn = 0 := by
  cases begun_of_start hstart with
  | begun _ _ _ => rfl

/-! ### A whole run -/

omit [GameRules γ] [Injector ι] in
theorem turn_of_holds (h : s.state = some state) : s.turn = state.turn := by
  unfold turn
  rw [h]

omit [GameRules γ] [Injector ι] in
theorem phase_of_holds (h : s.state = some state) : s.phase = state.phase := by
  unfold phase
  rw [h]

omit [Injector ι] in
/-- A game under way is over by every account exactly in the last phase. -/
theorem isOver_iff (hs : s.Underway state) : s.isOver = true ↔ s.phase = .ended := by
  rw [phase_of_holds hs.holds]
  unfold isOver
  rw [hs.holds]
  constructor
  · intro h
    rcases Bool.or_eq_true _ _ ▸ h with hended | hover
    · simpa [GameState.isEnded] using hended
    · exact hs.decided hover
  · intro h
    simp [GameState.isEnded, h]

/-- How a call goes in a game under way, and what is true of it ever after. -/
structure GoesOn (s : Session γ ι) (c : Call) (later : List Call) : Prop where
  /-- the phase never moves backward -/
  forward : s.phase.rank ≤ (s.perform c).2.phase.rank
  /-- a processed action counts as a turn -/
  counted : s.Processes c → (s.perform c).2.turn = s.turn + 1
  /-- and nothing else does -/
  uncounted : ¬ s.Processes c → (s.perform c).2.turn = s.turn
  /-- the end is told by the call that brings it, and by no other -/
  told : (∃ e ∈ (s.perform c).1.events, e.tellsEnd = true) ↔
    s.phase ≠ .ended ∧ (s.perform c).2.phase = .ended
  /-- it is told last, and with the result as it is given ever after -/
  result : s.phase ≠ .ended → (s.perform c).2.phase = .ended →
    ∃ news winner scores, (s.perform c).1.events = news ++ [.ended winner scores] ∧ Quiet news ∧
      (Event.ended winner scores).Tells ⟨winner, scores⟩ ∧
      (s.perform c).2.result? = some ⟨winner, scores⟩ ∧
      ((s.perform c).2.after later).result? = some ⟨winner, scores⟩
  /-- after the end or a disposal, actions and frames do nothing -/
  settled : s.phase = .ended ∨ s.disposed = true → c.isMove = true →
    (s.perform c).2 = s ∧ (s.perform c).1.events = []
  /-- the game is over exactly in the last phase -/
  isOver : s.isOver = true ↔ s.phase = .ended

omit [Injector ι] in
/-- The result of a decided game is read off its state. -/
theorem result?_of_ended (h : s.state = some state) (hended : state.phase = .ended) :
    s.result? = some ⟨GameRules.winner s.rules state, GameRules.scores s.rules state⟩ := by
  have hover : s.isOver = true := by
    unfold isOver
    rw [h]
    simp [GameState.isEnded, hended]
  simp only [result?, hover, if_true, winner, scores, h, Option.bind_some]

/-- A call that does nothing to the state goes as it should. -/
theorem goesOn_of_still (hs : s.Underway state) {c : Call} {later : List Call}
    (hevents : (s.perform c).1.events = []) (hstate : (s.perform c).2.state = some state)
    (hturn : ¬ s.Processes c)
    (hsettled : state.phase = .ended ∨ s.disposed = true → c.isMove = true → (s.perform c).2 = s) :
    s.GoesOn c later := by
  have hphase : (s.perform c).2.phase = s.phase :=
    (phase_of_holds hstate).trans (phase_of_holds hs.holds).symm
  refine ⟨Nat.le_of_eq (by rw [hphase]), fun h => absurd h hturn, fun _ => ?_, ?_, fun h h' => ?_,
    fun h hmove => ?_, isOver_iff hs⟩
  · rw [turn_of_holds hstate, turn_of_holds hs.holds]
  · rw [hphase, hevents]
    simp
  · rw [hphase] at h'
    exact absurd h' h
  · rw [phase_of_holds hs.holds] at h
    exact ⟨hsettled h hmove, hevents⟩

/-- A call that takes the game on, and perhaps to its end, goes as it should. -/
theorem goesOn_of_moved (hγ : Orderly γ) (hι : Discreet ι) (hs : s.Underway state) {c : Call}
    (hc : c.isPlay = true) {later : List Call} (hlater : ∀ c ∈ later, c.isPlay = true)
    {next state' : GameState} {news : List Event} {queue : EventQueue} {ended : Bool}
    (hdisposed : s.disposed = false) (hplaying : state.phase ≠ .ended)
    (hnext : next.phase = state.phase)
    (hturn : next.turn = state.turn + 1 ∧ s.Processes c ∨ next.turn = state.turn ∧ ¬ s.Processes c)
    (hnews : Quiet news) (hsettle : settle (s.perform c).2.rules next ⟨news⟩ = (state', queue, ended))
    (hevents : (s.perform c).1.events = queue.pending)
    (hstate : (s.perform c).2.state = some state') : s.GoesOn c later := by
  have hphase := phase_of_holds hs.holds
  have hphase' := phase_of_holds hstate
  have hnoEnd : ¬ ∃ e ∈ news, e.tellsEnd = true := by
    intro htold
    obtain ⟨e, he, hends⟩ := htold
    rw [hnews e he] at hends
    cases hends
  have hkept : state'.turn = next.turn ∧ state.phase.rank ≤ state'.phase.rank := by
    rcases settle_cases hsettle with ⟨-, rfl, -⟩ | ⟨-, rfl, -⟩
    · exact ⟨rfl, Nat.le_of_eq (by rw [hnext])⟩
    · exact ⟨rfl, rank_le_ended state.phase⟩
  refine ⟨?_, fun h => ?_, fun h => ?_, ?_, fun _ hend => ?_, fun h => ?_, isOver_iff hs⟩
  · rw [hphase, hphase']
    exact hkept.2
  · rcases hturn with ⟨hcounted, -⟩ | ⟨-, hnot⟩
    · rw [turn_of_holds hs.holds, turn_of_holds hstate, hkept.1, hcounted]
    · exact absurd h hnot
  · rcases hturn with ⟨-, hdoes⟩ | ⟨huncounted, -⟩
    · exact absurd hdoes h
    · rw [turn_of_holds hs.holds, turn_of_holds hstate, hkept.1, huncounted]
  · rw [hevents, hphase, hphase']
    rcases settle_cases hsettle with ⟨-, rfl, rfl⟩ | ⟨-, rfl, hqueue⟩
    · rw [hnext]
      exact ⟨fun h => absurd h hnoEnd, fun h => absurd h.2 hplaying⟩
    · rw [hqueue]
      exact ⟨fun _ => ⟨hplaying, rfl⟩, fun _ => ⟨_, List.mem_concat_self, rfl⟩⟩
  · rw [hphase'] at hend
    rw [hevents]
    rcases settle_cases hsettle with ⟨-, rfl, -⟩ | ⟨-, -, hqueue⟩
    · exact absurd (hnext ▸ hend) hplaying
    · -- the verdict is read off a state that no later call touches
      obtain ⟨last, hlast⟩ := underway_perform hγ hι hs hc
      obtain rfl : last = state' := Option.some.inj (hlast.holds.symm.trans hstate)
      obtain ⟨hheld, hverdict⟩ := decided_after hγ hι hlast hend hlater
      refine ⟨news, _, _, hqueue, hnews, tells_ended _ _, result?_of_ended hstate hend, ?_⟩
      rw [result?_of_ended hheld hend, hverdict.winner, hverdict.scores]
  · rw [hphase] at h
    simp [hplaying, hdisposed] at h

/-- **One call among others.** Whatever was played before, and whatever is played later. -/
theorem goesOn (hγ : Orderly γ) (hι : Discreet ι) (hs : s.Underway state) {c : Call}
    (hc : c.isPlay = true) {later : List Call} (hlater : ∀ c ∈ later, c.isPlay = true) :
    s.GoesOn c later := by
  have hcourse := course hγ hι hs hc
  generalize hevents : (s.perform c).1.events = events at hcourse
  generalize hs' : (s.perform c).2 = s' at hcourse
  cases hcourse with
  | still hstate _ hturn hsettled =>
      subst hs'
      exact goesOn_of_still hs hevents hstate hturn hsettled
  | moved hdisposed hplaying hnext hturn hnews hsettle hstate =>
      subst hs'
      exact goesOn_of_moved hγ hι hs hc hlater hdisposed hplaying hnext hturn hnews hsettle hevents
        hstate

/-- The end is told at most once by a run, and not at all once the game is decided. -/
theorem countP_tellsEnd_le (hγ : Orderly γ) (hι : Discreet ι) (hs : s.Underway state)
    {calls : List Call} (hcalls : ∀ c ∈ calls, c.isPlay = true) :
    ((s.answers calls).flatMap Answer.events).countP Event.tellsEnd
      ≤ if state.phase = .ended then 0 else 1 := by
  induction calls generalizing s state with
  | nil => exact Nat.zero_le _
  | cons c rest ih =>
      have hc : c.isPlay = true := hcalls c List.mem_cons_self
      have hrest : ∀ d ∈ rest, d.isPlay = true := fun d hd => hcalls d (List.mem_cons_of_mem c hd)
      obtain ⟨last, hlast⟩ := underway_perform hγ hι hs hc
      have hcount := ih hlast hrest
      rw [answers, Run.answers_cons, List.flatMap_cons, List.countP_append]
      have hcourse := course hγ hι hs hc
      generalize (s.perform c).1.events = events at hcourse ⊢
      generalize (s.perform c).2 = s' at hcourse hlast hcount ⊢
      cases hcourse with
      | still hstate _ _ _ =>
          obtain rfl : last = state := Option.some.inj (hlast.holds.symm.trans hstate)
          rw [List.countP_nil, Nat.zero_add]
          exact hcount
      | moved _ hplaying hnext _ hnews hsettle hstate =>
          obtain rfl := Option.some.inj (hlast.holds.symm.trans hstate)
          rw [if_neg hplaying]
          rcases settle_cases hsettle with ⟨-, rfl, rfl⟩ | ⟨-, rfl, hqueue⟩
          · rw [countP_of_quiet hnews, Nat.zero_add]
            rw [hnext, if_neg hplaying] at hcount
            exact hcount
          · rw [if_pos rfl] at hcount
            rw [hqueue, List.countP_append, countP_of_quiet hnews]
            have htold : ∀ winner scores,
                List.countP Event.tellsEnd [Event.ended winner scores] = 1 := fun _ _ => rfl
            rw [htold, Nat.zero_add]
            exact Nat.add_le_add_left hcount 1

/-- A call takes at most one turn. -/
theorem toNat_turn_perform_le (hγ : Orderly γ) (hι : Discreet ι) (hs : s.Underway state) {c : Call}
    (hc : c.isPlay = true) : (s.perform c).2.turn.toNat ≤ s.turn.toNat + 1 := by
  have hgoes : s.GoesOn c [] := goesOn hγ hι hs hc nofun
  by_cases hprocesses : s.Processes c
  · rw [hgoes.counted hprocesses, UInt64.toNat_add]
    exact Nat.mod_le _ _
  · rw [hgoes.uncounted hprocesses]
    exact Nat.le_succ _

/-- There are no more turns than calls, so the count has room for as many calls as a word can count. -/
theorem toNat_turn_after_le (hγ : Orderly γ) (hι : Discreet ι) (hs : s.Underway state)
    {calls : List Call} (hcalls : ∀ c ∈ calls, c.isPlay = true) :
    (s.after calls).turn.toNat ≤ s.turn.toNat + calls.length := by
  induction calls generalizing s state with
  | nil => exact Nat.le_refl _
  | cons c rest ih =>
      obtain ⟨hc, hrest⟩ := List.forall_mem_cons.mp hcalls
      obtain ⟨next, hnext⟩ := underway_perform hγ hι hs hc
      have hlater := ih hnext hrest
      have hfirst := toNat_turn_perform_le hγ hι hs hc
      show ((s.perform c).2.after rest).turn.toNat ≤ s.turn.toNat + (rest.length + 1)
      omega

/-- **A game takes its course.** Once it was started, every call goes on from the calls before it, there
are no more turns than calls, and the end is told at most once. -/
theorem takes_course (hγ : Orderly γ) (hι : Discreet ι) {players : List PlayerId}
    {seed : Option UInt64} (hopens : s.OpensUndecided players) {events : List Event}
    (hstart : s.start players seed = (.ok events, s')) {before later : List Call} {c : Call}
    (hall : ∀ d ∈ before ++ c :: later, d.isPlay = true) :
    (s'.after before).GoesOn c later ∧ (s'.after before).turn.toNat ≤ before.length ∧
      (events ++ (s'.answers (before ++ c :: later)).flatMap Answer.events).countP Event.tellsEnd
        ≤ 1 := by
  obtain ⟨⟨state, hunderway, hplaying⟩, hquiet⟩ := underway_of_start hγ hopens hstart
  have hfirst : s'.turn = 0 := turn_of_start hstart
  have hbefore : ∀ d ∈ before, d.isPlay = true := fun d hd =>
    hall d (List.mem_append_left _ hd)
  have hc : c.isPlay = true := hall c (List.mem_append_right _ List.mem_cons_self)
  have hlater : ∀ d ∈ later, d.isPlay = true := fun d hd =>
    hall d (List.mem_append_right _ (List.mem_cons_of_mem c hd))
  obtain ⟨last, hlast⟩ := underway_after hγ hι hunderway hbefore
  have hcount := countP_tellsEnd_le hγ hι hunderway hall
  have hturns := toNat_turn_after_le hγ hι hunderway hbefore
  rw [hplaying] at hcount
  rw [hfirst, UInt64.toNat_zero, Nat.zero_add] at hturns
  rw [List.countP_append, countP_of_quiet hquiet, Nat.zero_add]
  exact ⟨goesOn hγ hι hlast hc hlater, hturns, hcount⟩

end Session

end Arcade.Play
