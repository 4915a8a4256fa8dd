import Arcade.Proofs.Host.Runs
import Arcade.Proofs.Live.Adapter
import Arcade.Proofs.Mechanics.BetweenCalls
/-!
# Refused actions leave no trace

An action may be turned away before anything looks at it, held back by an injector, or forbidden by
the rules after the injectors have run. `refused_action_leaves_no_trace` says that none of these
leaves a trace: the session is as it was, but for what injectors note for themselves.

For a refusal those notes mean nothing, so that every later call is answered as if the action had
never been submitted. A veto may leave a question with the injector that holds the action back; the
injectors behind it have not been asked.

Of the rules this needs only that they undo what a forbidden action has done (`Retracts`).
-/

namespace Arcade.Play

open Mechanics

/-- Rules that are the same again after forbidding an action. -/
def Retracts (γ : Type) [GameRules γ] : Prop :=
  ∀ (rules : γ) (state : GameState) (player : PlayerId) (action : Action) (multiplier : Float)
    (stage : Stage) {refusal : Refusal} {rules' : γ} {stage' : Stage},
    GameRules.act rules state player action multiplier stage = ⟨.error refusal, rules', stage'⟩ →
      rules' = rules

theorem retracts_clicker : Retracts Clicker := by
  intro rules state player action multiplier stage refusal rules' stage' h
  simp only [GameRules.act] at h
  cases ha : Clicker.apply state player action multiplier with
  | error fault =>
      rw [ha] at h
      exact (congrArg Ran.rules h).symm
  | ok applied =>
      rw [ha] at h
      cases h

theorem retracts_adapter {β : Type} [Live.Engine β] : Retracts (Live.Adapter β) := by
  intro rules state player action multiplier stage refusal rules' stage' h
  exact (Live.Adapter.act_error h).1

namespace Session

variable {γ : Type} [GameRules γ] {s : Session γ BuiltIn}

/-- Two sessions that differ at most in what injectors note for themselves; the counts are the same
too, and no event is left in the queue. -/
structure Untouched (s s' : Session γ BuiltIn) : Prop where
  frame : s' = { s with injectors := s'.injectors }
  counts : s'.injectors.map BuiltIn.counts = s.injectors.map BuiltIn.counts
  queue : s'.events = {}

/-- After a refusal the session is as it was, and answers all later calls as it would have. -/
theorem untouched_of_refused (hrules : Retracts γ) (hqueue : s.events = {}) (player : PlayerId)
    (action : Action) (h : (s.handleAction player action).1.success = false) :
    (s.handleAction player action).1.newState = none ∧
      (s.handleAction player action).1.events = [] ∧
      s.Untouched (s.handleAction player action).2 ∧ s.Alike (s.handleAction player action).2 := by
  have hhandled := handled s player action
  generalize (s.handleAction player action).1 = result at h hhandled ⊢
  generalize (s.handleAction player action).2 = s' at hhandled ⊢
  cases hhandled with
  | refused hrefusal =>
      rw [← hqueue]
      exact ⟨rfl, rfl, ⟨rfl, rfl, hqueue⟩, .refl s⟩
  | vetoed hrefusal hstate hbefore => cases h
  | @rejected state forwarded multiplier challenge injectors refusal rules stage hrefusal hstate
      hbefore hact =>
      -- the injectors have all let the action through, so each has left nothing but a note
      obtain rfl : rules = s.rules := hrules _ _ _ _ _ _ hact
      have hcounts := counts_beforeFrom player state.data s.injectors action 1.0 none
      rw [show Pipeline.beforeFrom player state.data s.injectors action 1.0 none = _ from hbefore]
        at hcounts
      have hrest : SameAtRest s.injectors injectors := (sameAtRest_of_proceed hbefore).symm
      rw [← hqueue]
      exact ⟨rfl, rfl, ⟨rfl, hcounts, hqueue⟩, injectors, hrest, rfl⟩
  | processed hrefusal hstate hbefore hact hafter hsettle => cases h

/-- After a veto the session is as it was, but for the injectors up to the one that has spoken. -/
theorem untouched_of_vetoed (hqueue : s.events = {}) {player : PlayerId} {action : Action}
    (h : s.Vetoes player action) :
    ∃ state, s.state = some state ∧ (s.handleAction player action).1.success = true ∧
      (s.handleAction player action).1.newState = some state ∧
      (s.handleAction player action).1.events = [] ∧
      s.Untouched (s.handleAction player action).2 ∧
      Pipeline.Stopped player action state.data s.injectors
        (s.handleAction player action).2.injectors := by
  obtain ⟨state, name, challenge, injectors, hrefusal, hstate, hbefore⟩ := h
  have hcounts := counts_beforeFrom player state.data s.injectors action 1.0 none
  rw [show Pipeline.beforeFrom player state.data s.injectors action 1.0 none = _ from hbefore]
    at hcounts
  have hhandle : s.handleAction player action
      = (.accepted state [] challenge, { s with injectors := injectors, events := {} }) := by
    simp only [handleAction, answerAction, hrefusal, hstate, runAction, hbefore]
  rw [hhandle, ← hqueue]
  exact ⟨state, hstate, rfl, rfl, rfl, ⟨rfl, hcounts, hqueue⟩, Pipeline.stopped_of_vetoed hbefore⟩

end Session

end Arcade.Play

namespace Arcade.HostedGame

open Play Mechanics

/-- Two games that differ at most in what injectors note for themselves; the counts are the same too,
and no event is left in the queue. -/
structure Untouched (g g' : HostedGame BuiltIn) : Prop where
  frame : g' = g.withInjectors g'.injectors
  counts : g'.injectors.map BuiltIn.counts = g.injectors.map BuiltIn.counts
  queue : g'.queued = []

theorem untouched_clicker {s s' : Session Clicker BuiltIn} (h : s.Untouched s') :
    Untouched (clicker s) (clicker s') :=
  ⟨congrArg clicker h.frame, h.counts, congrArg EventQueue.pending h.queue⟩

theorem untouched_duel {s s' : Session Duel.Game BuiltIn} (h : s.Untouched s') :
    Untouched (duel s) (duel s') :=
  ⟨congrArg duel h.frame, h.counts, congrArg EventQueue.pending h.queue⟩

/-- An action that is refused, or held back by an injector, hands over no event and leaves the game
untouched. A refusal brings no state, and every later run of calls is answered as if there had been
no action. A veto brings the state that is stored, and the injectors behind the one that has spoken
are as they were. -/
theorem refused_action_leaves_no_trace {g : HostedGame BuiltIn} (hg : g.Reached)
    (player : PlayerId) (action : Action) :
    ((g.act player action).1.success = false →
      (g.act player action).1.newState = none ∧ (g.act player action).1.events = [] ∧
        g.Untouched (g.act player action).2 ∧
        ∀ calls, (g.act player action).2.answers calls = g.answers calls) ∧
    (g.Vetoes player action →
      ∃ state, g.state? = some state ∧ (g.act player action).1.success = true ∧
        (g.act player action).1.newState = some state ∧ (g.act player action).1.events = [] ∧
        g.Untouched (g.act player action).2 ∧
        Pipeline.Stopped player action state.data g.injectors
          (g.act player action).2.injectors) := by
  cases g with
  | clicker s =>
      constructor
      · intro hrefused
        obtain ⟨hstate, hevents, huntouched, halike⟩ :=
          Session.untouched_of_refused retracts_clicker hg.events_clicker player action hrefused
        refine ⟨hstate, hevents, untouched_clicker huntouched, fun calls => ?_⟩
        show (clicker (s.handleAction player action).2).answers calls = _
        rw [answers_clicker, answers_clicker]
        exact (Session.answers_eq_of_alike halike calls).symm
      · intro hvetoes
        obtain ⟨state, hstate, hsuccess, hnew, hevents, huntouched, hstopped⟩ :=
          Session.untouched_of_vetoed hg.events_clicker hvetoes
        exact ⟨state, hstate, hsuccess, hnew, hevents, untouched_clicker huntouched, hstopped⟩
  | duel s =>
      constructor
      · intro hrefused
        obtain ⟨hstate, hevents, huntouched, halike⟩ :=
          Session.untouched_of_refused retracts_adapter hg.events_duel player action hrefused
        refine ⟨hstate, hevents, untouched_duel huntouched, fun calls => ?_⟩
        show (duel (s.handleAction player action).2).answers calls = _
        rw [answers_duel, answers_duel]
        exact (Session.answers_eq_of_alike halike calls).symm
      · intro hvetoes
        obtain ⟨state, hstate, hsuccess, hnew, hevents, huntouched, hstopped⟩ :=
          Session.untouched_of_vetoed hg.events_duel hvetoes
        exact ⟨state, hstate, hsuccess, hnew, hevents, untouched_duel huntouched, hstopped⟩

/-- A click out of turn is refused, and an answer that nobody has asked for is held back. -/
theorem refused_action_leaves_no_trace_unasked :
    let fresh : HostedGame BuiltIn := .clicker (.create "g" (Clicker.ofTarget 50) {}
      [.energy {}, .challenge { options := { every := 2 } }])
    let g := fresh.after [.start ["a", "b"] (some 7)]
    let click : Action := { kind := "click" }
    let answer : Action := { kind := Challenge.answerKind }
    ((g.act "b" click).1.success = false ∧
      ∀ calls, (g.act "b" click).2.answers calls = g.answers calls) ∧
    (g.Vetoes "a" answer ∧ g.Untouched (g.act "a" answer).2) := by
  intro fresh g click answer
  have hrules : Clicker.ofConfig {} = .ok (Clicker.ofTarget 50) := rfl
  have hg : g.Reached := Reached.after (.clicker hrules _ _ _) _
  have hrefused : (g.act "b" click).1.success = false := by decide +kernel
  have hvetoes : g.Vetoes "a" answer := ⟨_, _, _, _, by decide +kernel, rfl, rfl⟩
  obtain ⟨-, -, -, hanswers⟩ := (refused_action_leaves_no_trace hg "b" click).1 hrefused
  obtain ⟨-, -, -, -, -, huntouched, -⟩ := (refused_action_leaves_no_trace hg "a" answer).2 hvetoes
  exact ⟨⟨hrefused, hanswers⟩, hvetoes, huntouched⟩

end Arcade.HostedGame
