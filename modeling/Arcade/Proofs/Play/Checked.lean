import Arcade.Proofs.Number.Checked
import Arcade.Proofs.Play.Movers
/-!
# Calls that check their sums

A build that checks its sums answers a call as any other does, or stops. It stops at an action exactly if the
rules apply it and a sum of theirs does not fit, or the count of turns does not
(`handleAction?_eq_none_iff`): what is refused, held back or rejected is always answered. So a run of calls
either stops somewhere, or is the run that it would have been without the checks (`after_of_after?`).
-/

namespace Arcade.Play

open Checked

/-- Rules that make sums only where they accept. -/
def AddsAccepted (γ : Type) [GameRules γ] : Prop :=
  ∀ {rules : γ} {state player action multiplier stage refusal},
    (GameRules.act rules state player action multiplier stage).answer = .error refusal →
      GameRules.actFits rules state player action multiplier = true

namespace Session

variable {γ ι : Type} [GameRules γ] [Injector ι] {s s' : Session γ ι} {player : PlayerId}
  {action : Action} {seconds : Float}

/-! ### One call -/

theorem handleAction?_eq_some_iff {r : ActionResult × Session γ ι} :
    s.handleAction? player action = some r ↔
      s.actionFits player action = true ∧ s.handleAction player action = r := by
  simp only [handleAction?, Option.ite_none_right_eq_some, Option.some.injEq]

omit [Injector ι] in
theorem tick?_eq_some_iff {r : Except Failure TickReport × Session γ ι} :
    s.tick? seconds = some r ↔ s.frameFits seconds = true ∧ s.tick seconds = r := by
  simp only [tick?, Option.ite_none_right_eq_some, Option.some.injEq]

/-- The sums of an action that the injectors let through. -/
theorem actionFits_of_proceed {state : GameState} {forwarded : Action} {multiplier : Float}
    {told : Option Json} {injectors : List ι} {answer : Except Refusal (Option Data)} {rules : γ}
    {stage : Stage} (hrefusal : s.refusal? player = none) (hstate : s.state = some state)
    (hbefore : Pipeline.before player action state.data s.injectors
      = (.proceed forwarded multiplier told, injectors))
    (hact : GameRules.act s.rules state player forwarded multiplier ⟨s.random, s.events⟩
      = ⟨answer, rules, stage⟩) :
    s.actionFits player action = (GameRules.actFits s.rules state player forwarded multiplier &&
      (!answer.toBool || (next64? state.turn).isSome)) := by
  simp only [actionFits, hrefusal, hstate, hbefore, hact]

/-- What is not applied makes no sum that could be too large. -/
theorem actionFits_of_unprocessed (hγ : AddsAccepted γ) (h : s.processed? player action = none) :
    s.actionFits player action = true := by
  rcases hnext : s.handleAction player action with ⟨result, s'⟩
  cases handled_of_eq hnext with
  | refused hrefusal => simp only [actionFits, hrefusal]
  | vetoed hrefusal hstate hbefore => simp only [actionFits, hrefusal, hstate, hbefore]
  | rejected hrefusal hstate hbefore hact =>
      have hfits := hγ (congrArg Ran.answer hact)
      simp [actionFits_of_proceed hrefusal hstate hbefore hact, hfits, Except.toBool]
  | processed hrefusal hstate hbefore hact _ _ =>
      rw [processed?_of_proceed hrefusal hstate hbefore hact] at h
      cases h

/-- What is applied needs the sums of the rules, and a turn that can be counted. -/
theorem actionFits_of_processed {forwarded : Action}
    (h : s.processed? player action = some forwarded) : ∃ state multiplier, s.state = some state ∧
      s.multiplier? player action = some multiplier ∧
      (s.actionFits player action = true ↔
        GameRules.actFits s.rules state player forwarded multiplier = true ∧
          state.turn.toNat + 1 < UInt64.size) := by
  obtain ⟨_, _, _, _, _, _, _, hrefusal, hstate, hbefore, hact⟩ := proceeds_of_processed? h
  refine ⟨_, _, hstate, multiplier?_of_proceed hstate hbefore, ?_⟩
  simp [actionFits_of_proceed hrefusal hstate hbefore hact, Except.toBool, next64?]

/-- A build that checks its sums stops at an action exactly if it is applied, and a sum of the rules or the
count of turns does not fit. -/
theorem handleAction?_eq_none_iff (hγ : AddsAccepted γ) :
    s.handleAction? player action = none ↔
      ∃ state forwarded multiplier, s.state = some state ∧
        s.processed? player action = some forwarded ∧ s.multiplier? player action = some multiplier ∧
        (GameRules.actFits s.rules state player forwarded multiplier = false ∨
          UInt64.size ≤ state.turn.toNat + 1) := by
  have hstops : s.handleAction? player action = none ↔ ¬ s.actionFits player action = true := by
    simp [handleAction?]
  rw [hstops]
  cases hprocessed : s.processed? player action with
  | none => simp [actionFits_of_unprocessed hγ hprocessed]
  | some forwarded =>
      obtain ⟨state, multiplier, hstate, hmultiplier, hfits⟩ := actionFits_of_processed hprocessed
      rw [hfits]
      simp [hstate, hmultiplier, Classical.or_iff_not_imp_left]

/-- What is not applied is always answered. -/
theorem handleAction?_of_unprocessed (hγ : AddsAccepted γ) (h : s.processed? player action = none) :
    s.handleAction? player action = some (s.handleAction player action) :=
  handleAction?_eq_some_iff.mpr ⟨actionFits_of_unprocessed hγ h, rfl⟩

/-- The turns can be counted where an applied action is answered. -/
theorem turn_lt_of_handleAction? {r : ActionResult × Session γ ι}
    (h : s.handleAction? player action = some r) {forwarded : Action}
    (hprocessed : s.processed? player action = some forwarded) : s.turn.toNat + 1 < UInt64.size := by
  obtain ⟨state, multiplier, hstate, -, hfits⟩ := actionFits_of_processed hprocessed
  rw [turn_of_holds hstate]
  exact (hfits.mp (handleAction?_eq_some_iff.mp h).1).2

/-- One call in a build that checks its sums, if it comes through. -/
def perform? (s : Session γ ι) : Call → Option (Answer × Session γ ι)
  | .act player action => (s.handleAction? player action).map fun r => (.acted r.1, r.2)
  | .tick seconds => (s.tick? seconds).map fun r => (.ticked r.1, r.2)
  | c => some (s.perform c)

/-- A call that comes through is answered as without the checks. -/
theorem perform_of_perform? {c : Call} {r : Answer × Session γ ι} (h : s.perform? c = some r) :
    s.perform c = r := by
  cases c with
  | act player action =>
      obtain ⟨r', hr', rfl⟩ := Option.map_eq_some_iff.mp h
      obtain ⟨-, rfl⟩ := handleAction?_eq_some_iff.mp hr'
      rfl
  | tick seconds =>
      obtain ⟨r', hr', rfl⟩ := Option.map_eq_some_iff.mp h
      obtain ⟨-, rfl⟩ := tick?_eq_some_iff.mp hr'
      rfl
  | _ => exact Option.some.inj h

/-! ### A run of calls -/

/-- The session after a run of calls in a build that checks its sums, if it comes through. -/
abbrev after? (s : Session γ ι) (calls : List Call) : Option (Session γ ι) :=
  Run.after? perform? s calls

/-- A run that comes through is the run without the checks. -/
theorem after_of_after? {calls : List Call} (h : s.after? calls = some s') : s.after calls = s' :=
  Run.after_of_after? (fun _ _ _ hr => perform_of_perform? hr) h

end Session

end Arcade.Play
