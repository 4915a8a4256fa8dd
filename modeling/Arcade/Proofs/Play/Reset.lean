import Arcade.Proofs.Play.Pipeline
import Arcade.Proofs.Play.Storage
/-!
# A reset is a fresh start

A reset begins the game again in the session that played it. Much survives in such a session: the
rules may hold an engine, and the injectors hold questions, counts and generators. What is asked of
them is that opening a game forgets the one before (`Forgetful`, `ForgetfulInjectors`). Then whatever is
played, the session opens games just as it did when it was new (`Reopened`), with the players and the
seed that it was started with (`Replayable`), and its reset is that start once more
(`reset_eq_start`).
-/

namespace Arcade.Play

/-- A call that plays a game or starts it, as long as it is not given up or exchanged for another. -/
def Call.playsOn : Call → Bool
  | .start _ _ => true
  | .reset => true
  | .act _ _ => true
  | .tick _ => true
  | _ => false

/-! ### What opening a game forgets -/

section

variable {γ : Type} [GameRules γ]

/-- Whether rules open every game that others open, in the same way. -/
structure Reopens (rules rules' : γ) : Prop where
  prepare : ∀ {players stage data opened stage'},
    GameRules.prepare rules players stage = ⟨.ok data, opened, stage'⟩ →
      GameRules.prepare rules' players stage = ⟨.ok data, opened, stage'⟩

theorem Reopens.refl (rules : γ) : Reopens rules rules := ⟨fun h => h⟩

theorem Reopens.trans {rules rules' rules'' : γ} (h : Reopens rules rules')
    (h' : Reopens rules' rules'') : Reopens rules rules'' :=
  ⟨fun hopens => h'.prepare (h.prepare hopens)⟩

/-- Rules that hold nothing of a game that the next opening would show. -/
structure Forgetful (γ : Type) [GameRules γ] : Prop where
  prepare : ∀ {rules : γ} {players stage answer rules' stage'},
    GameRules.prepare rules players stage = ⟨answer, rules', stage'⟩ → Reopens rules rules'
  act : ∀ {rules : γ} {state player action multiplier stage answer rules' stage'},
    GameRules.act rules state player action multiplier stage = ⟨answer, rules', stage'⟩ →
      Reopens rules rules'
  tick : ∀ {rules : γ} {state seconds stage answer rules' stage'},
    GameRules.tick rules state seconds stage = ⟨answer, rules', stage'⟩ → Reopens rules rules'

end

/-- Injectors that hold nothing of a game that the next opening would show. -/
structure ForgetfulInjectors (ι : Type) [Injector ι] : Prop where
  prepare : ∀ (i : ι) players players',
    Injector.prepare (Injector.prepare i players).2 players' = Injector.prepare i players'
  before : ∀ (i : ι) player action data players,
    Injector.prepare (Injector.before i player action data).2 players = Injector.prepare i players
  after : ∀ (i : ι) player action outcome players,
    Injector.prepare (Injector.after i player action outcome).2 players = Injector.prepare i players

namespace Pipeline

variable {ι : Type} [Injector ι] (hι : ForgetfulInjectors ι)
include hι

theorem prepare_prepare (players players' : List PlayerId) (injectors : List ι) :
    prepare players' (prepare players injectors).2 = prepare players' injectors := by
  induction injectors with
  | nil => rfl
  | cons i rest ih => simp only [prepare, hι.prepare, ih]

theorem prepare_beforeFrom (player : PlayerId) (data : Data) (players : List PlayerId)
    (injectors : List ι) (action : Action) (multiplier : Float) (challenge : Option Json) :
    prepare players (beforeFrom player data injectors action multiplier challenge).2
      = prepare players injectors := by
  induction injectors generalizing action multiplier challenge with
  | nil => rfl
  | cons i rest ih =>
      cases hproceed : (Injector.before i player action data).1.proceed with
      | false =>
          rw [beforeFrom_cons_of_veto hproceed]
          simp only [prepare, hι.before]
      | true =>
          rw [beforeFrom_cons_of_proceed hproceed]
          simp only [prepare, hι.before, ih]

theorem prepare_after (player : PlayerId) (action : Action) (players : List PlayerId)
    (injectors : List ι) (outcome : Outcome) :
    prepare players (after player action injectors outcome).2 = prepare players injectors := by
  induction injectors generalizing outcome with
  | nil => rfl
  | cons i rest ih => simp only [after, prepare, hι.after, ih]

end Pipeline

namespace Session

variable {γ ι : Type} [GameRules γ] [Injector ι] {s₀ s t begun : Session γ ι}
  {players : List PlayerId} {seed : Option UInt64} {events : List Event}

/-! ### Sessions that open games alike -/

/-- A session that opens games as another one does: it was made in the same way, and what its rules and
injectors hold makes no difference. -/
structure Reopened (s₀ s : Session γ ι) : Prop where
  id : s.id = s₀.id
  config : s.config = s₀.config
  maxPlayers : s.maxPlayers = s₀.maxPlayers
  disposed : s.disposed = s₀.disposed
  rules : Reopens s₀.rules s.rules
  injectors : ∀ players, Pipeline.prepare players s.injectors = Pipeline.prepare players s₀.injectors

theorem Reopened.refl (s : Session γ ι) : Reopened s s :=
  ⟨rfl, rfl, rfl, rfl, .refl _, fun _ => rfl⟩

/-- A start replaces all that two such sessions may differ in. -/
theorem Reopened.begin_eq (h : Reopened s₀ s) (hbegin : s₀.begin players seed = (.ok events, t)) :
    s.begin players seed = (.ok events, t) := by
  have hbegun := s₀.begun players seed
  rw [hbegin] at hbegun
  cases hbegun with
  | @begun data fragment rules stage injectors hcheck hprepare hinjectors =>
      have hcheck' : s.checkPlayers players = .ok () := by
        rw [checkPlayers_congr h.maxPlayers]
        exact hcheck
      have hprepare' := h.rules.prepare hprepare
      have hinjectors' := (h.injectors players).trans hinjectors
      -- a seed that is not given is made from the id, which both share
      simp only [seedFor] at hprepare'
      unfold begin
      rw [hcheck', h.id]
      dsimp only
      rw [hprepare']
      simp only [hinjectors', h.config, h.maxPlayers, h.disposed]
      rfl

theorem reopened_begin (hγ : Forgetful γ) (hι : ForgetfulInjectors ι) (h : Reopened s₀ s)
    (players : List PlayerId) (seed : Option UInt64) : Reopened s₀ (s.begin players seed).2 := by
  have hbegun := s.begun players seed
  generalize (s.begin players seed).1 = answer at hbegun
  generalize (s.begin players seed).2 = t at hbegun ⊢
  cases hbegun with
  | unseated _ => exact h
  | failed _ hprepare =>
      exact ⟨h.id, h.config, h.maxPlayers, h.disposed,
        h.rules.trans (hγ.prepare hprepare), h.injectors⟩
  | begun _ hprepare hinjectors =>
      refine ⟨h.id, h.config, h.maxPlayers, h.disposed,
        h.rules.trans (hγ.prepare hprepare), fun players' => ?_⟩
      have hagain := Pipeline.prepare_prepare hι players players' s.injectors
      rw [hinjectors] at hagain
      exact hagain.trans (h.injectors players')

/-! ### Sessions that play on -/

/-- A session that was started with some players and some seed, and has not lost them. -/
structure Replayable (s₀ : Session γ ι) (players : List PlayerId) (seed : UInt64) (s : Session γ ι) :
    Prop extends Reopened s₀ s where
  players : s.players = players
  seed : s.seed = seed
  started : ∃ state, s.state = some state

theorem replayable_of_start (hγ : Forgetful γ) (hι : ForgetfulInjectors ι)
    (hstart : s₀.start players seed = (.ok events, begun)) :
    Replayable s₀ players begun.seed begun := by
  rcases start_cases s₀ players seed with ⟨failure, hrefused⟩ | ⟨-, -, hbegin⟩
  · rw [hrefused] at hstart
    cases hstart
  · have hopened := reopened_begin hγ hι (.refl s₀) players seed
    rw [← hbegin, hstart] at hopened
    cases begun_of_start hstart with
    | begun _ _ _ => exact ⟨hopened, rfl, rfl, _, rfl⟩

variable {seated : List PlayerId} {used : UInt64}

/-- What may change while a session plays on: its state and its generator, and what its rules and its
injectors hold as long as the next opening does not show it. -/
theorem Replayable.play (h : Replayable s₀ seated used s) {rules : γ} {injectors : List ι}
    {state : Option GameState} {random : Generator} (hrules : Reopens s.rules rules)
    (hinjectors : ∀ players, Pipeline.prepare players injectors = Pipeline.prepare players s₀.injectors)
    (hstate : ∃ present, state = some present) : Replayable s₀ seated used
      { s with
        rules := rules, injectors := injectors, state := state, random := random, events := {} } where
  id := h.id
  config := h.config
  maxPlayers := h.maxPlayers
  disposed := h.disposed
  rules := h.rules.trans hrules
  injectors := hinjectors
  players := h.players
  seed := h.seed
  started := hstate

theorem replayable_reset (hγ : Forgetful γ) (hι : ForgetfulInjectors ι)
    (h : Replayable s₀ seated used s) : Replayable s₀ seated used s.reset.2 := by
  rcases reset_cases s with ⟨failure, hrefused⟩ | ⟨-, hbegin⟩
  · rw [hrefused]
    exact h
  · have hopened := reopened_begin hγ hι h.toReopened s.players (some s.seed)
    have hbegun := s.begun s.players (some s.seed)
    rw [hbegin]
    generalize (s.begin s.players (some s.seed)).1 = answer at hbegun
    generalize (s.begin s.players (some s.seed)).2 = t at hopened hbegun ⊢
    cases hbegun with
    | unseated _ => exact h
    | failed _ _ => exact ⟨hopened, h.players, h.seed, h.started⟩
    | begun _ _ _ => exact ⟨hopened, h.players, h.seed, _, rfl⟩

theorem replayable_act (hγ : Forgetful γ) (hι : ForgetfulInjectors ι)
    (h : Replayable s₀ seated used s) (player : PlayerId) (action : Action) :
    Replayable s₀ seated used (s.handleAction player action).2 := by
  have hhandled := handled s player action
  generalize (s.handleAction player action).1 = result at hhandled
  generalize (s.handleAction player action).2 = t at hhandled ⊢
  -- the hooks that were asked before the action leave the injectors as forgetful as they were
  have hasked : ∀ {data joint injectors},
      Pipeline.before player action data s.injectors = (joint, injectors) →
        ∀ players, Pipeline.prepare players injectors = Pipeline.prepare players s₀.injectors := by
    intro data joint injectors hbefore players
    have hsame := Pipeline.prepare_beforeFrom hι player data players s.injectors action 1.0 none
    rw [← Pipeline.before, hbefore] at hsame
    exact hsame.trans (h.injectors players)
  cases hhandled with
  | refused _ => exact h.play (.refl _) h.injectors h.started
  | vetoed _ _ hbefore => exact h.play (.refl _) (hasked hbefore) h.started
  | rejected _ _ hbefore hact => exact h.play (hγ.act hact) (hasked hbefore) h.started
  | @processed state forwarded _ challenge injectors replacement _ stage _ _ _ _ _ _ _ hbefore hact
      hafter _ =>
      refine h.play (hγ.act hact) (fun players => ?_) ⟨_, rfl⟩
      have hsame := Pipeline.prepare_after hι player forwarded players injectors
        ⟨replacement.getD state.data, stage.events.pending, challenge⟩
      rw [hafter] at hsame
      exact hsame.trans (hasked hbefore players)

theorem replayable_tick (hγ : Forgetful γ) (h : Replayable s₀ seated used s) (seconds : Float) :
    Replayable s₀ seated used (s.tick seconds).2 := by
  have hticked := ticked s seconds
  generalize (s.tick seconds).1 = answer at hticked
  generalize (s.tick seconds).2 = t at hticked ⊢
  cases hticked with
  | disposed _ => exact h
  | unstarted _ _ => exact h
  | decided _ _ _ => exact h
  | failed _ _ _ htick => exact h.play (hγ.tick htick) h.injectors h.started
  | advanced _ _ _ htick _ => exact h.play (hγ.tick htick) h.injectors ⟨_, rfl⟩

/-- A session that is started cannot be started once more. -/
theorem start_of_started (h : ∃ state, s.state = some state) (players : List PlayerId)
    (seed : Option UInt64) : (s.start players seed).2 = s := by
  obtain ⟨state, hstate⟩ := h
  rcases start_cases s players seed with ⟨failure, hrefused⟩ | ⟨-, hnone, -⟩
  · rw [hrefused]
  · rw [hstate] at hnone
    cases hnone

theorem replayable_perform (hγ : Forgetful γ) (hι : ForgetfulInjectors ι)
    (h : Replayable s₀ seated used s) {c : Call} (hc : c.playsOn = true) :
    Replayable s₀ seated used (s.perform c).2 := by
  cases c with
  | start players seed =>
      show Replayable s₀ seated used (s.start players seed).2
      rw [start_of_started h.started]
      exact h
  | reset => exact replayable_reset hγ hι h
  | act player action => exact replayable_act hγ hι h player action
  | tick seconds => exact replayable_tick hγ h seconds
  | _ => cases hc

/-! ### The reset -/

/-- A start that succeeds does the same with the seed that it has used. -/
theorem begin_of_start (hstart : s₀.start players seed = (.ok events, begun)) :
    s₀.disposed = false ∧ s₀.state = none ∧
      s₀.begin players (some begun.seed) = (.ok events, begun) := by
  rcases start_cases s₀ players seed with ⟨failure, hrefused⟩ | ⟨hkept, hnone, hbegin⟩
  · rw [hrefused] at hstart
    cases hstart
  · have hseed : begun.seed = s₀.seedFor players seed := by
      cases begun_of_start hstart with
      | begun _ _ _ => rfl
    have hsame : s₀.begin players (some (s₀.seedFor players seed)) = s₀.begin players seed := rfl
    refine ⟨hkept, hnone, ?_⟩
    rw [hseed, hsame, ← hbegin, hstart]

/-- Whatever is played, a reset is the start once more: it gives the same events, and leaves the session
as the start has left it. The same start with the seed of the session does the same. -/
theorem reset_eq_start (hγ : Forgetful γ) (hι : ForgetfulInjectors ι)
    (hstart : s₀.start players seed = (.ok events, begun)) {calls : List Call}
    (hcalls : ∀ c ∈ calls, c.playsOn = true) :
    (begun.after calls).reset = (.ok events, begun) ∧
      s₀.start players (some (begun.after calls).seed) = (.ok events, begun) := by
  have hplayed : Replayable s₀ players begun.seed (begun.after calls) :=
    Run.after_invariant (Replayable s₀ players begun.seed) (fun c => c.playsOn = true)
      (fun _ _ hc h => replayable_perform hγ hι h hc) hcalls (replayable_of_start hγ hι hstart)
  obtain ⟨hkept, hnone, hbegin⟩ := begin_of_start hstart
  obtain ⟨state, hstate⟩ := hplayed.started
  constructor
  · unfold reset
    rw [hplayed.disposed, hkept, hstate, hplayed.players, hplayed.seed]
    exact hplayed.begin_eq hbegin
  · unfold start
    rw [hkept, hnone, hplayed.seed]
    exact hbegin

end Session

end Arcade.Play
