import Arcade.Proofs.Duel.Setup
import Arcade.Proofs.Host.Lifecycle
import Arcade.Proofs.Live.Buttons
/-!
# Dry runs

Without injectors, a dry run of an action tells what submitting it would bring, down to the wording, and
what is listed as open to a player is accepted of him. The session and its rules each make the same
conditions twice over, once for the dry run and once for the real thing; `Foretells` says that the rules
do so alike.

The dry run has one condition less: it does not ask whether the session was given up. So it tells the
truth exactly as long as this is not the case (`dry_runs_agree_until_disposal`).
-/

namespace Arcade

open Play Live Mechanics

/-! ### Rules -/

/-- Rules that allow in a dry run what they apply, and list what they allow. -/
structure Play.Foretells {γ : Type} [GameRules γ] (rules : γ) : Prop where
  act : ∀ state player action multiplier stage,
    (GameRules.act rules state player action multiplier stage).answer.map (fun _ => ())
      = GameRules.validate rules state player action
  listed : ∀ {state player kind}, kind ∈ GameRules.validActions rules state player →
    ∀ timestamp, GameRules.validate rules state player ⟨kind, [], timestamp⟩ = .ok ()

theorem Play.Foretells.validate_of_act {γ : Type} [GameRules γ] {rules rules' : γ}
    (h : Foretells rules) {state : GameState} {player : PlayerId} {action : Action}
    {multiplier : Float} {stage stage' : Stage} {answer : Except Refusal (Option Data)}
    (hact : GameRules.act rules state player action multiplier stage = ⟨answer, rules', stage'⟩) :
    GameRules.validate rules state player action = answer.map fun _ => () := by
  rw [← h.act state player action multiplier stage, hact]

theorem foretells_clicker (rules : Clicker) : Foretells rules where
  act state player action multiplier stage := by
    simp only [GameRules.act, GameRules.validate, ← Clicker.map_apply state player action multiplier]
    cases Clicker.apply state player action multiplier <;> rfl
  listed {state player kind} hlisted timestamp := by
    simp only [GameRules.validActions] at hlisted
    split at hlisted
    · cases hlisted
    next hopen =>
      have hturn : Clicker.checkTurn state player = .ok () := by
        cases hcheck : Clicker.checkTurn state player with
        | ok _ => rfl
        | error fault => simp [hcheck, Except.toBool] at hopen
      simp only [List.mem_cons, List.not_mem_nil, or_false] at hlisted
      have hcheck : Clicker.check state player ⟨kind, [], timestamp⟩ = .ok () := by
        rcases hlisted with rfl | rfl <;>
          simp [Clicker.check, hturn, Clicker.clickCount, Action.field?, bind, Except.bind]
      simp only [GameRules.validate, hcheck]
      rfl

theorem foretells_adapter {β : Type} [Engine β] {a : Adapter β} (h : a.isDisposed = false) :
    Foretells a where
  act state player action multiplier stage := by
    simp only [GameRules.act, GameRules.validate, Adapter.act, h, Bool.false_eq_true, if_false]
    cases Buttons.ofAction action <;> rfl
  listed {state player kind} hlisted timestamp := by
    simp only [GameRules.validActions, h, Bool.false_eq_true, if_false] at hlisted
    obtain ⟨buttons, hparse⟩ := Buttons.exists_parse_of_mem_buttonNames hlisted
    have hread : Buttons.ofAction ⟨kind, [], timestamp⟩ = .ok buttons := hparse
    simp only [GameRules.validate, hread]

/-! ### Sessions -/

namespace Play.Session

variable {γ ι : Type} [GameRules γ] [Injector ι] {s : Session γ ι} {player : PlayerId}
  {action : Action}

omit [Injector ι] in
/-- A dry run is refused for what the action would be refused for, the disposal apart. -/
theorem validate_of_refusal? {refusal : Refusal} (henabled : s.disposed = false)
    (h : s.refusal? player = some refusal) (action : Action) :
    s.validate player action = .error refusal := by
  unfold refusal? at h
  unfold validate
  cases hs : s.state with
  | none =>
      simp only [henabled, hs, Bool.false_eq_true, if_false, Option.some.injEq] at h
      simp only [h]
  | some state =>
      simp only [henabled, hs, Bool.false_eq_true, if_false] at h
      dsimp only
      split at h
      next hstranger =>
        rw [if_pos hstranger, Option.some.inj h]
      next hseated =>
        rw [if_neg hseated]
        split at h
        next hended => rw [if_pos hended, Option.some.inj h]
        · cases h

omit [Injector ι] in
theorem validate_of_none {state : GameState} (h : s.refusal? player = none)
    (hstate : s.state = some state) (action : Action) :
    s.validate player action = GameRules.validate s.rules state player action := by
  obtain ⟨-, state', hstate', hseated, hphase⟩ := state_of_refusal?_eq_none h
  obtain rfl : state = state' := Option.some.inj (hstate.symm.trans hstate')
  have hended : state.isEnded = false := by simpa [GameState.isEnded] using hphase
  simp [validate, hstate, isParticipant, hseated, hended]

/-- The answer to an action, by the dry run before it. -/
theorem handleAction_of_validate (hbare : s.injectors = []) (henabled : s.disposed = false)
    (hrules : Foretells s.rules) (player : PlayerId) (action : Action) :
    (s.validate player action = .ok () ∧ (s.handleAction player action).1.success = true) ∨
      ∃ refusal, s.validate player action = .error refusal ∧
        (s.handleAction player action).1 = .rejected refusal.message none := by
  have hhandled := handled s player action
  generalize (s.handleAction player action).1 = result at hhandled ⊢
  generalize (s.handleAction player action).2 = s' at hhandled
  cases hhandled with
  | refused hrefusal => exact Or.inr ⟨_, validate_of_refusal? henabled hrefusal action, rfl⟩
  | vetoed _ _ hbefore =>
      rw [hbare] at hbefore
      cases hbefore
  | rejected hrefusal hstate hbefore hact =>
      rw [hbare] at hbefore
      cases hbefore
      have hvalidate := validate_of_none hrefusal hstate action
      exact Or.inr ⟨_, hvalidate.trans (hrules.validate_of_act hact), rfl⟩
  | processed hrefusal hstate hbefore hact _ _ =>
      rw [hbare] at hbefore
      cases hbefore
      have hvalidate := validate_of_none hrefusal hstate action
      exact Or.inl ⟨hvalidate.trans (hrules.validate_of_act hact), rfl⟩

omit [Injector ι] in
/-- What is listed is open to a dry run. -/
theorem validate_of_listed (hrules : Foretells s.rules) {kind : String}
    (hlisted : kind ∈ s.validActions player) (timestamp : Int) :
    s.validate player ⟨kind, [], timestamp⟩ = .ok () := by
  unfold validActions at hlisted
  unfold validate
  cases hs : s.state with
  | none => simp [hs] at hlisted
  | some state =>
      simp only [hs] at hlisted
      split at hlisted
      next hopen =>
        simp only [Bool.and_eq_true, Bool.not_eq_true'] at hopen
        simp only [hopen.1, hopen.2, Bool.not_true, Bool.false_eq_true, if_false]
        exact hrules.listed hlisted timestamp
      · cases hlisted

theorem handleAction_of_disposed (h : s.disposed = true) (player : PlayerId) (action : Action) :
    (s.handleAction player action).1 = .rejected "Session has been disposed" none := by
  have hrefusal : s.refusal? player = some .disposed := by
    unfold refusal?
    rw [h]
    rfl
  simp only [handleAction, answerAction, hrefusal]
  rfl

/-! ### The wording of refusals -/

/-- Rules whose refusals are not taken for a disposal. -/
def Outspoken (γ : Type) [GameRules γ] : Prop :=
  ∀ (rules : γ) state player action refusal, GameRules.validate rules state player action = .error refusal →
    refusal.message ≠ "Session has been disposed"

omit [Injector ι] in
theorem message_of_validate (hγ : Outspoken γ) {refusal : Refusal}
    (h : s.validate player action = .error refusal) :
    refusal.message ≠ "Session has been disposed" := by
  unfold validate at h
  split at h
  · cases h
    decide
  · split at h
    · cases h
      decide
    · split at h
      · cases h
        decide
      · exact hγ _ _ _ _ _ h

/-! ### Agreement -/

/-- A dry run tells what submitting the action would bring: a refusal with the same wording, or success. -/
structure DryRunAgrees (s : Session γ ι) (player : PlayerId) (action : Action) : Prop where
  rejected : ∀ message, (∃ refusal, s.validate player action = .error refusal ∧
      refusal.message = message) ↔ (s.handleAction player action).1 = .rejected message none
  accepted : s.validate player action = .ok () ↔ (s.handleAction player action).1.success = true

theorem dryRunAgrees_iff (hbare : s.injectors = [])
    (hrules : s.disposed = false → Foretells s.rules) (hγ : Outspoken γ) (player : PlayerId)
    (action : Action) : s.DryRunAgrees player action ↔ s.disposed = false := by
  constructor
  · intro hagrees
    cases hdisposed : s.disposed with
    | false => rfl
    | true =>
        obtain ⟨refusal, hvalidate, hmessage⟩ :=
          (hagrees.rejected _).mpr (handleAction_of_disposed hdisposed player action)
        exact absurd hmessage (message_of_validate hγ hvalidate)
  · intro henabled
    rcases handleAction_of_validate hbare henabled (hrules henabled) player action with
      ⟨hvalidate, hsuccess⟩ | ⟨refusal, hvalidate, hresult⟩
    · refine ⟨?_, fun _ => hsuccess, fun _ => hvalidate⟩
      intro message
      constructor
      · rintro ⟨refusal, hrefused, -⟩
        rw [hvalidate] at hrefused
        cases hrefused
      · intro hresult
        rw [hresult] at hsuccess
        cases hsuccess
    · refine ⟨?_, ?_, ?_⟩
      · intro message
        constructor
        · rintro ⟨refusal', hrefused, rfl⟩
          rw [hvalidate] at hrefused
          rw [hresult, Except.error.inj hrefused]
        · intro hrejected
          rw [hresult] at hrejected
          exact ⟨refusal, hvalidate, Option.some.inj (congrArg ActionResult.error hrejected)⟩
      · intro hallowed
        rw [hvalidate] at hallowed
        cases hallowed
      · intro hsuccess
        rw [hresult] at hsuccess
        cases hsuccess

theorem listed_accepted_iff (hbare : s.injectors = [])
    (hrules : s.disposed = false → Foretells s.rules) (player : PlayerId) :
    (∀ kind ∈ s.validActions player, ∀ timestamp,
        (s.handleAction player ⟨kind, [], timestamp⟩).1.success = true) ↔
      (s.disposed = false ∨ s.validActions player = []) := by
  constructor
  · intro haccepted
    cases hdisposed : s.disposed with
    | false => exact Or.inl rfl
    | true =>
        -- whatever were listed would have to be accepted by a session that accepts nothing
        refine Or.inr (List.eq_nil_iff_forall_not_mem.mpr ?_)
        intro kind hlisted
        have hsuccess := haccepted kind hlisted 0
        rw [handleAction_of_disposed hdisposed] at hsuccess
        cases hsuccess
  · rintro (henabled | hnone) kind hlisted timestamp
    · have hvalidate := validate_of_listed (hrules henabled) hlisted timestamp
      rcases handleAction_of_validate hbare henabled (hrules henabled) player ⟨kind, [], timestamp⟩
        with ⟨-, hsuccess⟩ | ⟨refusal, hrefused, -⟩
      · exact hsuccess
      · rw [hvalidate] at hrefused
        cases hrefused
    · rw [hnone] at hlisted
      cases hlisted

end Play.Session

/-- A text that begins otherwise is another text, whatever follows. -/
theorem append_ne_of_head? {s t : String} {c : Char} (hs : s.toList.head? = some c)
    (ht : t.toList.head? ≠ some c) (rest : String) : s ++ rest ≠ t := by
  rintro rfl
  rw [String.toList_append, List.head?_append, hs] at ht
  exact ht rfl

theorem outspoken_clicker : Session.Outspoken Clicker := by
  intro rules state player action refusal h
  simp only [GameRules.validate] at h
  cases hcheck : Clicker.check state player action with
  | ok _ =>
      rw [hcheck] at h
      cases h
  | error fault =>
      rw [hcheck] at h
      cases h
      cases fault with
      | notYourTurn => decide
      | badCount => decide
      | unknownAction kind => exact append_ne_of_head? rfl (by decide) kind

theorem outspoken_adapter {β : Type} [Engine β] : Session.Outspoken (Adapter β) := by
  intro rules state player action refusal h
  simp only [GameRules.validate] at h
  cases hread : Buttons.ofAction action with
  | ok buttons =>
      rw [hread] at h
      cases h
  | error fault =>
      rw [hread] at h
      cases h
      cases fault with
      | empty => decide
      | unknownName name => exact append_ne_of_head? rfl (by decide) name
      | outOfRange n => exact append_ne_of_head? rfl (by decide) (toString n)
      | wrongType found => exact append_ne_of_head? rfl (by decide) found

/-! ### Hosted games -/

/-- A duel is held until it is given up. -/
theorem isDisposed_of_reached {s : Session Duel.Game BuiltIn} (h : HostedGame.Reached (.duel s)) :
    s.disposed = false → s.rules.isDisposed = false := by
  have hkept : Session.KeptInPlay fun a : Duel.Game => a.isDisposed = false :=
    Duel.keptInPlay Duel.isDisposed_of_sameSetup
  have hstep : ∀ (s : Session Duel.Game BuiltIn) (c : Call), c ≠ .dispose →
      s.rules.isDisposed = false → (s.perform c).2.rules.isDisposed = false :=
    fun _ _ hc hheld => Session.rules_perform_of_ne hkept hheld hc
  refine HostedGame.Reached.duel_invariant
    (fun s => s.disposed = false → s.rules.isDisposed = false) ?_ ?_ h
  · intro options rules hrules id config injectors _
    obtain ⟨duel, -, rfl⟩ := HostedGame.ok_of_map hrules
    rfl
  · intro s c hs
    exact Session.invariant_of_enabled hstep hs c

namespace HostedGame

def disposed (g : HostedGame BuiltIn) : Bool :=
  g.ask fun s => s.disposed

/-- The kinds of action that are listed as open to a player. -/
def validActions (g : HostedGame BuiltIn) (player : PlayerId) : List String :=
  g.ask fun s => s.validActions player

/-- Whether a dry run tells what submitting the action would bring. -/
def DryRunAgrees (g : HostedGame BuiltIn) (player : PlayerId) (action : Action) : Prop :=
  g.ask fun s => s.DryRunAgrees player action

/-- **Dry runs agree until the disposal.** In a game without injectors, whatever was called on it, a dry
run tells what submitting the action would bring exactly if the game was not given up; and all that is
listed as open to a player is accepted of him, with an empty payload, exactly if the game was not given
up or nothing is listed. -/
theorem dry_runs_agree_until_disposal {g : HostedGame BuiltIn} (hg : g.Reached)
    (hbare : g.injectors = []) (player : PlayerId) :
    (∀ action, g.DryRunAgrees player action ↔ g.disposed = false) ∧
      ((∀ kind ∈ g.validActions player, ∀ timestamp,
          (g.act player ⟨kind, [], timestamp⟩).1.success = true) ↔
        (g.disposed = false ∨ g.validActions player = [])) := by
  cases g with
  | clicker s =>
      have hrules : s.disposed = false → Foretells s.rules := fun _ => foretells_clicker s.rules
      exact ⟨Session.dryRunAgrees_iff hbare hrules outspoken_clicker player,
        Session.listed_accepted_iff hbare hrules player⟩
  | duel s =>
      have hrules : s.disposed = false → Foretells s.rules := fun henabled =>
        foretells_adapter (isDisposed_of_reached hg henabled)
      exact ⟨Session.dryRunAgrees_iff hbare hrules outspoken_adapter player,
        Session.listed_accepted_iff hbare hrules player⟩

/-- A game of clicker that was given up lists a click and a pass, and accepts neither. -/
theorem dry_runs_agree_until_disposal_of_clicker :
    let fresh : HostedGame BuiltIn := .clicker (.create "g" (Clicker.ofTarget 50) {} [])
    let g := fresh.after [.start ["a"] (some 7), .dispose]
    g.validActions "a" = ["click", "pass"] ∧ ¬ g.DryRunAgrees "a" { kind := "pass" } ∧
      ¬ ∀ kind ∈ g.validActions "a", ∀ timestamp,
        (g.act "a" ⟨kind, [], timestamp⟩).1.success = true := by
  intro fresh g
  have hrules : Clicker.ofConfig {} = .ok (Clicker.ofTarget 50) := rfl
  have hg : g.Reached := Reached.after (.clicker hrules _ _ _) _
  have hlisted : g.validActions "a" = ["click", "pass"] := by decide +kernel
  have hdisposed : g.disposed = true := by decide +kernel
  obtain ⟨hagrees, haccepted⟩ := dry_runs_agree_until_disposal hg rfl "a"
  refine ⟨hlisted, ?_, ?_⟩
  · rw [hagrees, hdisposed]
    decide
  · rw [haccepted, hdisposed, hlisted]
    decide

end HostedGame

end Arcade
