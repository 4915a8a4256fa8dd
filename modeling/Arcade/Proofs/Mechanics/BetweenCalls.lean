import Arcade.Mechanics.BuiltIn
import Arcade.Proofs.Play.Calls
import Arcade.Proofs.Play.Pipeline
/-!
# What built-in injectors keep between two calls

A challenge notes whose held action the current call releases. The note means nothing once the call
is over, since every verdict begins by striking it out. So of two lists of injectors that are the
same but for such notes (`SameAtRest`), neither answers any later call differently, and the sessions
around them are told apart by no run (`Session.answers_eq_of_alike`).

The hook before an action never counts it (`counts_beforeFrom`), and one that lets the action through
leaves nothing but a note (`sameAtRest_of_proceed`).
-/

namespace Arcade.Mechanics

open Play

namespace BuiltIn

/-- How many processed actions of each player a challenge has counted; other injectors count
nothing. -/
def counts : BuiltIn → Option (Dict Nat)
  | .energy _ => none
  | .challenge c => some c.counts

/-- The injector as it is when no action is being released. -/
def atRest : BuiltIn → BuiltIn
  | .energy e => .energy e
  | .challenge c => .challenge { c with releasing := none }

/-! ### One injector -/

/-- Judging an answer changes nothing but the note of a release. -/
theorem judge_eq (c : Challenge) (player : PlayerId) (action : Action) :
    (c.judge player action).2 = { c with releasing := (c.judge player action).2.releasing } := by
  unfold Challenge.judge
  cases Dict.get? c.pending player with
  | none => rfl
  | some p =>
      dsimp only
      split <;> rfl

theorem counts_before (i : BuiltIn) (player : PlayerId) (action : Action) (data : Data) :
    (Injector.before i player action data).2.counts = i.counts := by
  cases i with
  | energy e => rfl
  | challenge c =>
      show some (c.before player action).2.counts = some c.counts
      unfold Challenge.before
      dsimp only
      split
      · rw [judge_eq]
      · cases Dict.get? c.pending player with
        | some p => rfl
        | none =>
            dsimp only
            split <;> rfl

/-- A verdict does not depend on the note of an earlier release. -/
theorem before_atRest (i : BuiltIn) (player : PlayerId) (action : Action) (data : Data) :
    Injector.before i.atRest player action data = Injector.before i player action data := by
  cases i <;> rfl

/-- Letting an action through leaves nothing but the note of a release. -/
theorem atRest_before {i : BuiltIn} {player : PlayerId} {action : Action} {data : Data}
    (h : (Injector.before i player action data).1.proceed = true) :
    (Injector.before i player action data).2.atRest = i.atRest := by
  cases i with
  | energy e => rfl
  | challenge c =>
      have hc : (c.before player action).1.proceed = true := h
      show atRest (.challenge (c.before player action).2) = atRest (.challenge c)
      unfold Challenge.before at hc ⊢
      dsimp only at hc ⊢
      split
      · rw [judge_eq]
        rfl
      next hkind =>
        rw [if_neg hkind] at hc
        cases hp : Dict.get? c.pending player with
        | some p => simp [hp, Verdict.veto] at hc
        | none =>
            simp only [hp] at hc ⊢
            by_cases hdue : (Challenge.count { c with releasing := none } player + 1)
                % c.options.every = 0
            · rw [if_pos hdue] at hc
              simp [Challenge.issue, Verdict.veto] at hc
            · rw [if_neg hdue]
              rfl

theorem prepare_atRest (i : BuiltIn) (players : List PlayerId) :
    Injector.prepare i.atRest players = Injector.prepare i players := by
  cases i <;> rfl

end BuiltIn

/-! ### A list of injectors -/

/-- The same injectors, but for notes of releases. -/
def SameAtRest (injectors injectors' : List BuiltIn) : Prop :=
  injectors.map BuiltIn.atRest = injectors'.map BuiltIn.atRest

variable {player : PlayerId} {data : Data} {injectors injectors' : List BuiltIn}

theorem sameAtRest_cons {i i' : BuiltIn} :
    SameAtRest (i :: injectors) (i' :: injectors') ↔
      i.atRest = i'.atRest ∧ SameAtRest injectors injectors' := by
  simp only [SameAtRest, List.map_cons, List.cons.injEq]

theorem counts_beforeFrom (player : PlayerId) (data : Data) (injectors : List BuiltIn)
    (action : Action) (multiplier : Float) (challenge : Option Json) :
    (Pipeline.beforeFrom player data injectors action multiplier challenge).2.map BuiltIn.counts
      = injectors.map BuiltIn.counts := by
  induction injectors generalizing action multiplier challenge with
  | nil => rfl
  | cons i rest ih =>
      have hi : (Injector.before i player action data).2.counts = i.counts :=
        BuiltIn.counts_before i player action data
      cases hp : (Injector.before i player action data).1.proceed with
      | true => rw [Pipeline.beforeFrom_cons_of_proceed hp, List.map_cons, List.map_cons, hi, ih]
      | false => rw [Pipeline.beforeFrom_cons_of_veto hp, List.map_cons, List.map_cons, hi]

/-- A pipeline that lets an action through leaves nothing but notes of releases. -/
theorem sameAtRest_of_proceed {action forwarded : Action} {multiplier factor : Float}
    {challenge told : Option Json}
    (h : Pipeline.beforeFrom player data injectors action multiplier challenge
      = (.proceed forwarded factor told, injectors')) : SameAtRest injectors' injectors := by
  induction injectors generalizing action multiplier challenge injectors' with
  | nil =>
      obtain rfl : [] = injectors' := congrArg Prod.snd h
      rfl
  | cons i rest ih =>
      cases hp : (Injector.before i player action data).1.proceed with
      | false =>
          rw [Pipeline.beforeFrom_cons_of_veto hp] at h
          simp at h
      | true =>
          rw [Pipeline.beforeFrom_cons_of_proceed hp, Prod.mk.injEq] at h
          obtain ⟨hjoint, rfl⟩ := h
          exact sameAtRest_cons.mpr ⟨BuiltIn.atRest_before hp, ih (Prod.ext hjoint rfl)⟩

/-- Pipelines that are the same at rest come to the same verdict and are the same at rest afterwards;
if they let the action through they are the same altogether, for then each has struck out its
note. -/
theorem beforeFrom_congr (player : PlayerId) (data : Data) (h : SameAtRest injectors injectors')
    (action : Action) (multiplier : Float) (challenge : Option Json) :
    let asked := Pipeline.beforeFrom player data injectors action multiplier challenge
    let asked' := Pipeline.beforeFrom player data injectors' action multiplier challenge
    asked.1 = asked'.1 ∧ SameAtRest asked.2 asked'.2 ∧
      ∀ forwarded factor told, asked.1 = .proceed forwarded factor told → asked.2 = asked'.2 := by
  induction injectors generalizing injectors' action multiplier challenge with
  | nil =>
      obtain rfl : injectors' = [] := by simpa [SameAtRest] using h
      exact ⟨rfl, rfl, fun _ _ _ _ => rfl⟩
  | cons i rest ih =>
      cases injectors' with
      | nil => simp [SameAtRest] at h
      | cons i' rest' =>
          obtain ⟨hi, hrest⟩ := sameAtRest_cons.mp h
          have hbefore :
              Injector.before i player action data = Injector.before i' player action data := by
            rw [← BuiltIn.before_atRest i, hi, BuiltIn.before_atRest]
          cases hp : (Injector.before i player action data).1.proceed with
          | false =>
              have hp' := hp
              rw [hbefore] at hp'
              rw [Pipeline.beforeFrom_cons_of_veto hp, Pipeline.beforeFrom_cons_of_veto hp', hbefore]
              exact ⟨rfl, sameAtRest_cons.mpr ⟨rfl, hrest⟩, by simp⟩
          | true =>
              have hp' := hp
              rw [hbefore] at hp'
              rw [Pipeline.beforeFrom_cons_of_proceed hp, Pipeline.beforeFrom_cons_of_proceed hp',
                hbefore]
              obtain ⟨hjoint, hafter, hsame⟩ := ih hrest
                ((Injector.before i' player action data).1.action.getD action)
                (Pipeline.scaled multiplier (Injector.before i' player action data).1.multiplier)
                ((Injector.before i' player action data).1.challenge.or challenge)
              exact ⟨hjoint, sameAtRest_cons.mpr ⟨rfl, hafter⟩, fun forwarded factor told hproceed =>
                congrArg (List.cons _) (hsame forwarded factor told hproceed)⟩

theorem prepare_congr (h : SameAtRest injectors injectors') (players : List PlayerId) :
    Pipeline.prepare players injectors = Pipeline.prepare players injectors' := by
  induction injectors generalizing injectors' with
  | nil =>
      obtain rfl : injectors' = [] := by simpa [SameAtRest] using h
      rfl
  | cons i rest ih =>
      cases injectors' with
      | nil => simp [SameAtRest] at h
      | cons i' rest' =>
          obtain ⟨hi, hrest⟩ := sameAtRest_cons.mp h
          have hprepare : Injector.prepare i players = Injector.prepare i' players := by
            rw [← BuiltIn.prepare_atRest i, hi, BuiltIn.prepare_atRest]
          rw [Pipeline.prepare, Pipeline.prepare, hprepare, ih hrest]

end Arcade.Mechanics

/-! ### Sessions -/

namespace Arcade.Play.Session

open Mechanics

variable {γ : Type} [GameRules γ]

/-- The same sessions, but for notes of releases. -/
def Alike (s t : Session γ BuiltIn) : Prop :=
  ∃ injectors, SameAtRest s.injectors injectors ∧ t = { s with injectors := injectors }

omit [GameRules γ] in
theorem Alike.intro (s : Session γ BuiltIn) {injectors : List BuiltIn}
    (h : SameAtRest s.injectors injectors) : Alike s { s with injectors := injectors } :=
  ⟨injectors, h, rfl⟩

omit [GameRules γ] in
theorem Alike.refl (s : Session γ BuiltIn) : Alike s s :=
  ⟨s.injectors, rfl, rfl⟩

/-- An action finds the same injectors at work in both sessions as soon as it gets past them. -/
theorem alike_handleAction {s t : Session γ BuiltIn} (h : Alike s t) (player : PlayerId)
    (action : Action) :
    (s.handleAction player action).1 = (t.handleAction player action).1 ∧
      Alike (s.handleAction player action).2 (t.handleAction player action).2 := by
  obtain ⟨injectors, h, rfl⟩ := h
  have hrefusal : ({ s with injectors := injectors } : Session γ BuiltIn).refusal? player
      = s.refusal? player := rfl
  unfold handleAction answerAction
  rw [hrefusal]
  cases hr : s.refusal? player with
  | some refusal => exact ⟨rfl, .intro { s with events := {} } h⟩
  | none =>
      obtain ⟨-, state, hs, -, -⟩ := state_of_refusal?_eq_none hr
      obtain ⟨id, rules, config, maxPlayers, injectors', players, _, seed, random, events,
        disposed⟩ := s
      obtain rfl : _ = some state := hs
      obtain ⟨hjoint, hafter, hsame⟩ :=
        beforeFrom_congr player state.data h action 1.0 none
      dsimp only [runAction, Pipeline.before] at hjoint hafter hsame ⊢
      generalize Pipeline.beforeFrom player state.data injectors' action 1.0 none = asked at *
      generalize Pipeline.beforeFrom player state.data injectors action 1.0 none = asked' at *
      obtain ⟨joint, rest⟩ := asked
      obtain ⟨joint', rest'⟩ := asked'
      obtain rfl : joint = joint' := hjoint
      cases joint with
      | vetoed name told => exact ⟨rfl, rest', hafter, rfl⟩
      | proceed forwarded factor told =>
          obtain rfl : rest = rest' := hsame forwarded factor told rfl
          exact ⟨rfl, .refl _⟩

theorem alike_begin {s t : Session γ BuiltIn} (h : Alike s t) (players : List PlayerId)
    (seed : Option UInt64) :
    (s.begin players seed).1 = (t.begin players seed).1 ∧
      Alike (s.begin players seed).2 (t.begin players seed).2 := by
  obtain ⟨injectors, h, rfl⟩ := h
  have hcheck : ({ s with injectors := injectors } : Session γ BuiltIn).checkPlayers players
      = s.checkPlayers players := rfl
  unfold begin
  rw [hcheck]
  cases s.checkPlayers players with
  | error failure => exact ⟨rfl, .intro s h⟩
  | ok _ =>
      dsimp only
      generalize hran : GameRules.prepare s.rules players
        ⟨.ofSeed (seed.getD (Framed.sessionSeed s.id players)), {}⟩ = ran
      obtain ⟨answer, rules, stage⟩ := ran
      cases answer with
      | error failure => exact ⟨rfl, .intro { s with rules := rules, events := {} } h⟩
      | ok data =>
          dsimp only
          rw [prepare_congr h players]
          exact ⟨rfl, .refl _⟩

theorem alike_start {s t : Session γ BuiltIn} (h : Alike s t) (players : List PlayerId)
    (seed : Option UInt64) :
    (s.start players seed).1 = (t.start players seed).1 ∧
      Alike (s.start players seed).2 (t.start players seed).2 := by
  have hbegin := alike_begin h players seed
  obtain ⟨injectors, h, rfl⟩ := h
  obtain ⟨id, rules, config, maxPlayers, _, seats, state, _, random, events, disposed⟩ := s
  cases disposed with
  | true => exact ⟨rfl, injectors, h, rfl⟩
  | false =>
      cases state with
      | none => exact hbegin
      | some state => exact ⟨rfl, injectors, h, rfl⟩

theorem alike_reset {s t : Session γ BuiltIn} (h : Alike s t) :
    s.reset.1 = t.reset.1 ∧ Alike s.reset.2 t.reset.2 := by
  have hbegin := alike_begin h s.players (some s.seed)
  obtain ⟨injectors, h, rfl⟩ := h
  obtain ⟨id, rules, config, maxPlayers, _, seats, state, _, random, events, disposed⟩ := s
  cases disposed with
  | true => exact ⟨rfl, injectors, h, rfl⟩
  | false =>
      cases state with
      | none => exact ⟨rfl, injectors, h, rfl⟩
      | some state => exact hbegin

theorem alike_adopt {s t : Session γ BuiltIn} (h : Alike s t) (players : List PlayerId)
    (state : GameState) (seed : UInt64) (random : Generator) :
    (s.adopt players state seed random).1 = (t.adopt players state seed random).1 ∧
      Alike (s.adopt players state seed random).2 (t.adopt players state seed random).2 := by
  obtain ⟨injectors, h, rfl⟩ := h
  have hcheck : ({ s with injectors := injectors } : Session γ BuiltIn).checkPlayers players
      = s.checkPlayers players := rfl
  unfold adopt
  rw [hcheck]
  dsimp only
  split
  · exact ⟨rfl, .intro s h⟩
  · cases s.checkPlayers players with
    | error failure => exact ⟨rfl, .intro s h⟩
    | ok _ =>
        dsimp only
        split
        · exact ⟨rfl, .intro s h⟩
        · rcases GameRules.resume s.rules players state with ⟨answer, rules⟩
          cases answer with
          | error failure => exact ⟨rfl, .intro { s with rules := rules } h⟩
          | ok _ =>
              refine ⟨rfl, .intro { s with
                rules := rules, players := players, state := some state, seed := seed
                random := random, events := {} } h⟩

theorem alike_tick {s t : Session γ BuiltIn} (h : Alike s t) (seconds : Float) :
    (s.tick seconds).1 = (t.tick seconds).1 ∧ Alike (s.tick seconds).2 (t.tick seconds).2 := by
  obtain ⟨injectors, h, rfl⟩ := h
  obtain ⟨id, rules, config, maxPlayers, _, players, state, seed, random, events, disposed⟩ := s
  cases disposed with
  | true => exact ⟨rfl, injectors, h, rfl⟩
  | false =>
      cases state with
      | none => exact ⟨rfl, injectors, h, rfl⟩
      | some state =>
          cases hended : state.isEnded with
          | true =>
              dsimp only [tick]
              rw [hended]
              exact ⟨rfl, injectors, h, rfl⟩
          | false =>
              dsimp only [tick]
              rw [hended]
              rcases GameRules.tick rules state seconds ⟨random, events⟩ with ⟨answer, rules', stage⟩
              cases answer <;> exact ⟨rfl, injectors, h, rfl⟩

theorem alike_dispose {s t : Session γ BuiltIn} (h : Alike s t) :
    s.dispose.1 = t.dispose.1 ∧ Alike s.dispose.2 t.dispose.2 := by
  obtain ⟨injectors, h, rfl⟩ := h
  obtain ⟨id, rules, config, maxPlayers, _, players, state, seed, random, events, disposed⟩ := s
  cases disposed <;> exact ⟨rfl, injectors, h, rfl⟩

theorem alike_restore {s t : Session γ BuiltIn} (h : Alike s t) (saved : SavedSession) :
    (s.restore saved).1 = (t.restore saved).1 ∧ Alike (s.restore saved).2 (t.restore saved).2 := by
  obtain ⟨hanswer, hnext⟩ := alike_adopt h saved.players saved.state saved.seed saved.random
  unfold restore
  rcases hs : s.adopt saved.players saved.state saved.seed saved.random with ⟨answer, s'⟩
  rcases ht : t.adopt saved.players saved.state saved.seed saved.random with ⟨answer', t'⟩
  simp only [hs, ht] at hanswer hnext
  subst hanswer
  obtain ⟨injectors, h', rfl⟩ := hnext
  cases answer <;> exact ⟨rfl, injectors, h', rfl⟩

theorem alike_perform {s t : Session γ BuiltIn} (h : Alike s t) (c : Call) :
    (s.perform c).1 = (t.perform c).1 ∧ Alike (s.perform c).2 (t.perform c).2 := by
  cases c with
  | start players seed =>
      obtain ⟨hanswer, hnext⟩ := alike_start h players seed
      exact ⟨congrArg Answer.started hanswer, hnext⟩
  | reset =>
      obtain ⟨hanswer, hnext⟩ := alike_reset h
      exact ⟨congrArg Answer.started hanswer, hnext⟩
  | act player action =>
      obtain ⟨hanswer, hnext⟩ := alike_handleAction h player action
      exact ⟨congrArg Answer.acted hanswer, hnext⟩
  | tick seconds =>
      obtain ⟨hanswer, hnext⟩ := alike_tick h seconds
      exact ⟨congrArg Answer.ticked hanswer, hnext⟩
  | restoreState players state =>
      obtain ⟨hanswer, hnext⟩ :=
        alike_adopt h players state (stateSeed state) (.ofSeed (stateSeed state))
      exact ⟨congrArg Answer.restored hanswer, hnext⟩
  | restore saved =>
      obtain ⟨hanswer, hnext⟩ := alike_restore h saved
      exact ⟨congrArg Answer.restored hanswer, hnext⟩
  | restoreText text =>
      simp only [perform, restoreText]
      cases SavedSession.ofText text with
      | error e => exact ⟨rfl, h⟩
      | ok saved =>
          obtain ⟨hanswer, hnext⟩ := alike_restore h saved
          exact ⟨congrArg Answer.restored hanswer, hnext⟩
  | dispose =>
      obtain ⟨hanswer, hnext⟩ := alike_dispose h
      exact ⟨congrArg Answer.disposed hanswer, hnext⟩

/-- No run of calls tells sessions apart that are the same but for notes of releases. -/
theorem answers_eq_of_alike {s t : Session γ BuiltIn} (h : Alike s t) (calls : List Call) :
    s.answers calls = t.answers calls :=
  Run.answers_eq_of_alike Alike (fun _ => True) (fun _ _ c _ h => alike_perform h c)
    (fun _ _ => trivial) h

end Arcade.Play.Session
