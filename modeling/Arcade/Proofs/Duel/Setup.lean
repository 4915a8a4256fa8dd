import Arcade.Duel.Engine
import Arcade.Proofs.Live.Adapter
import Arcade.Proofs.Play.Calls
/-!
# What a duel is set up with

Beside the state a duel holds its engine, the buttons gathered and the last frame. Whatever is called,
the engine keeps its configuration until it is released (`keptInPlay`); opening a game and taking one up
set all the rest anew, so that they depend on this configuration alone (`startEngine_congr`,
`resumeEngine_congr`).
-/

namespace Arcade.Duel

open Live Play

/-- What a slot is set up with: an engine of some configuration, none, or nothing any more. -/
def setup : Slot DuelEngine → Option (Option Config)
  | .attached engine => some (some engine.config)
  | .detached => some none
  | .disposed => none

/-! A duel is opened by what it is set up with, and nothing that happens to it changes that. -/

theorem start_congr {e e' engine : DuelEngine} (hconfig : e'.config = e.config)
    {players : List PlayerId} {seed : UInt64} (h : Engine.start e players seed = (.ok (), engine)) :
    Engine.start e' players seed = (.ok (), engine) := by
  rcases players with _ | ⟨left, _ | ⟨right, _ | ⟨third, rest⟩⟩⟩
  · cases h
  · cases h
  · obtain rfl := congrArg Prod.snd h
    simp only [Engine.start, DuelEngine.start, hconfig]
  · cases h

theorem startEngine_congr {slot slot' opened : Slot DuelEngine} (hsetup : setup slot' = setup slot)
    {players : List PlayerId} {seed : UInt64}
    (h : Adapter.startEngine slot players seed = (.ok (), opened)) :
    Adapter.startEngine slot' players seed = (.ok (), opened) := by
  cases slot with
  | attached e =>
      cases slot' with
      | attached e' =>
          have hconfig : e'.config = e.config := by simpa [setup] using hsetup
          rcases hstart : Engine.start e players seed with ⟨answer, engine⟩
          simp only [Adapter.startEngine, hstart, Prod.mk.injEq] at h
          obtain ⟨rfl, rfl⟩ := h
          simp only [Adapter.startEngine, start_congr hconfig hstart]
      | detached => simp [setup] at hsetup
      | disposed => simp [setup] at hsetup
  | detached =>
      cases slot' with
      | attached e' => simp [setup] at hsetup
      | detached => exact h
      | disposed => simp [setup] at hsetup
  | disposed => cases h

/-- Going on from a frame depends on what the engine is set up with, for it is started anew first. -/
theorem resumeEngine_congr {slot slot' opened : Slot DuelEngine} (hsetup : setup slot' = setup slot)
    {players : List PlayerId} {frame : Frame}
    (h : Adapter.resumeEngine slot players frame = (.ok (), opened)) :
    Adapter.resumeEngine slot' players frame = (.ok (), opened) := by
  cases slot with
  | attached e =>
      cases slot' with
      | attached e' =>
          have hconfig : e'.config = e.config := by simpa [setup] using hsetup
          rcases hstart : Engine.start e players (Adapter.frameSeed frame) with ⟨answer, engine⟩
          cases answer with
          | error fault =>
              simp only [Adapter.resumeEngine, hstart] at h
              cases h
          | ok _ =>
              simp only [Adapter.resumeEngine, hstart] at h
              simp only [Adapter.resumeEngine, start_congr hconfig hstart]
              exact h
      | detached => simp [setup] at hsetup
      | disposed => simp [setup] at hsetup
  | detached =>
      cases slot' with
      | attached e' => simp [setup] at hsetup
      | detached => exact h
      | disposed => simp [setup] at hsetup
  | disposed => cases h

theorem setup_startEngine (slot : Slot DuelEngine) (players : List PlayerId) (seed : UInt64) :
    setup (Adapter.startEngine slot players seed).2 = setup slot := by
  cases slot with
  | attached e =>
      rcases players with _ | ⟨left, _ | ⟨right, _ | ⟨third, rest⟩⟩⟩ <;> rfl
  | detached => rfl
  | disposed => rfl

theorem config_setInputs (inputs : InputBuffer) (players : List PlayerId) (e : DuelEngine) :
    (Adapter.setInputs inputs players e).2.config = e.config := by
  induction players generalizing e with
  | nil => rfl
  | cons p rest ih =>
      have hsame : (Engine.setInput e p (inputs.pressed p)).2.config = e.config := by
        simp only [Engine.setInput, DuelEngine.setInput]
        split
        · rfl
        · split <;> rfl
      rw [Adapter.setInputs]
      rcases hset : Engine.setInput e p (inputs.pressed p) with ⟨answer, e'⟩
      rw [hset] at hsame
      cases answer with
      | error fault => exact hsame
      | ok _ => exact (ih e').trans hsame

theorem config_simulate (inputs : InputBuffer) (players : List PlayerId) (e : DuelEngine) :
    (Adapter.simulate inputs players e).2.config = e.config := by
  have hset := config_setInputs inputs players e
  rw [Adapter.simulate]
  generalize Adapter.setInputs inputs players e = done at hset ⊢
  obtain ⟨answer, e'⟩ := done
  cases answer with
  | error fault => exact hset
  | ok _ =>
      have hstep : (Engine.step e').2.config = e'.config := by
        simp only [Engine.step, DuelEngine.step]
        split <;> rfl
      dsimp only
      generalize Engine.step e' = stepped at hstep ⊢
      obtain ⟨answer', e''⟩ := stepped
      cases answer' <;> exact hstep.trans hset

theorem setup_advance (a : Game) :
    a.advance.2.descriptor = a.descriptor ∧ setup a.advance.2.slot = setup a.slot := by
  unfold Adapter.advance
  cases hslot : a.slot with
  | attached e =>
      refine ⟨rfl, ?_⟩
      simp only [setup, config_simulate]
  | detached =>
      simp only [hslot]
      exact ⟨trivial, trivial⟩
  | disposed =>
      simp only [hslot]
      exact ⟨trivial, trivial⟩

theorem config_resume (e : DuelEngine) (frame : Frame) :
    (Engine.resume e frame).2.config = e.config := by
  simp only [Engine.resume, DuelEngine.resume]
  cases e.current with
  | none => rfl
  | some m =>
      dsimp only
      rcases DuelEngine.adoptAll frame.entities m with ⟨answer, m'⟩
      cases answer <;> rfl

theorem setup_resumeEngine (slot : Slot DuelEngine) (players : List PlayerId) (frame : Frame) :
    setup (Adapter.resumeEngine slot players frame).2 = setup slot := by
  cases slot with
  | attached e =>
      have hstarted := setup_startEngine (.attached e) players (Adapter.frameSeed frame)
      simp only [Adapter.startEngine, Adapter.resumeEngine] at hstarted ⊢
      rcases hstart : Engine.start e players (Adapter.frameSeed frame) with ⟨answer, engine⟩
      rw [hstart] at hstarted
      cases answer with
      | error fault => exact hstarted
      | ok _ =>
          rw [← hstarted]
          simp only [setup, config_resume]
  | detached => rfl
  | disposed => rfl

/-! ### One call of the rules -/

/-- A duel that is set up as another one. -/
structure SameSetup (a a' : Game) : Prop where
  descriptor : a'.descriptor = a.descriptor
  setup : setup a'.slot = setup a.slot

theorem SameSetup.trans {a a' a'' : Game} (h : SameSetup a a') (h' : SameSetup a' a'') :
    SameSetup a a'' :=
  ⟨h'.descriptor.trans h.descriptor, h'.setup.trans h.setup⟩

theorem SameSetup.symm {a a' : Game} (h : SameSetup a a') : SameSetup a' a :=
  ⟨h.descriptor.symm, h.setup.symm⟩

variable {a a' : Game} {state : GameState} {players : List PlayerId} {player : PlayerId}
  {action : Action} {multiplier seconds : Float} {stage stage' : Stage}

theorem kept_prepare {answer : Except Failure Data}
    (h : GameRules.prepare a players stage = ⟨answer, a', stage'⟩) : SameSetup a a' := by
  have hsetup := setup_startEngine a.slot players stage.draw.1
  simp only [GameRules.prepare, Adapter.prepare] at h
  rcases hstart : Adapter.startEngine a.slot players stage.draw.1 with ⟨started, slot⟩
  rw [hstart] at h hsetup
  cases started with
  | error fault =>
      cases h
      exact ⟨rfl, hsetup⟩
  | ok _ =>
      dsimp only at h
      split at h <;>
      · cases h
        exact ⟨rfl, hsetup⟩

theorem kept_resume {answer : Except Failure Unit}
    (h : GameRules.resume a players state = (answer, a')) : SameSetup a a' := by
  simp only [GameRules.resume, Adapter.resume] at h
  cases hframe : storedFrame? state with
  | none =>
      rw [hframe] at h
      cases h
      exact ⟨rfl, rfl⟩
  | some frame =>
      have hsetup := setup_resumeEngine a.slot players frame
      rw [hframe] at h
      dsimp only at h
      rcases hresume : Adapter.resumeEngine a.slot players frame with ⟨resumed, slot⟩
      rw [hresume] at h hsetup
      cases resumed <;>
      · cases h
        exact ⟨rfl, hsetup⟩

theorem kept_act {answer : Except Refusal (Option Data)}
    (h : GameRules.act a state player action multiplier stage = ⟨answer, a', stage'⟩) :
    SameSetup a a' := by
  have hact : a.act player action stage = ⟨answer, a', stage'⟩ := h
  cases answer with
  | error refusal =>
      obtain ⟨rfl, -⟩ := Adapter.act_error hact
      exact ⟨rfl, rfl⟩
  | ok replacement =>
      obtain ⟨buttons, -, -, -, rfl⟩ := Adapter.act_ok hact
      exact ⟨rfl, rfl⟩

theorem kept_tick {answer : Except Failure (Option Data)}
    (h : GameRules.tick a state seconds stage = ⟨answer, a', stage'⟩) : SameSetup a a' := by
  have htick : a.tick state stage = ⟨answer, a', stage'⟩ := h
  obtain ⟨hdescriptor, hsetup⟩ := setup_advance a
  cases answer with
  | error failure =>
      obtain ⟨fault, hadvance, -, -⟩ := Adapter.tick_error htick
      rw [hadvance] at hdescriptor hsetup
      exact ⟨hdescriptor, hsetup⟩
  | ok replacement =>
      obtain ⟨frame, changes, b, hadvance, -, rfl⟩ := Adapter.tick_ok htick
      rw [hadvance] at hdescriptor hsetup
      exact ⟨hdescriptor, hsetup⟩

/-- What depends on the set-up alone is true of a duel until its release. -/
theorem keptInPlay {P : Game → Prop} (hP : ∀ {a a'}, SameSetup a a' → P a → P a') :
    Session.KeptInPlay P where
  prepare h := hP (kept_prepare h)
  resume h := hP (kept_resume h)
  act h := hP (kept_act h)
  tick h := hP (kept_tick h)

theorem isDisposed_of_sameSetup (h : SameSetup a a') (hheld : a.isDisposed = false) :
    a'.isDisposed = false := by
  have hsetup := h.setup
  unfold Adapter.isDisposed at hheld ⊢
  cases hslot : a.slot with
  | disposed =>
      rw [hslot] at hheld
      cases hheld
  | _ => cases hslot' : a'.slot <;> simp [setup, hslot, hslot'] at hsetup ⊢

theorem resume_congr (h : SameSetup a a') {opened : Game}
    (hresume : GameRules.resume a players state = (.ok (), opened)) :
    GameRules.resume a' players state = (.ok (), opened) := by
  simp only [GameRules.resume, Adapter.resume] at hresume ⊢
  cases hframe : storedFrame? state with
  | none =>
      rw [hframe] at hresume
      cases hresume
  | some frame =>
      rw [hframe] at hresume
      dsimp only at hresume ⊢
      rcases hslot : Adapter.resumeEngine a.slot players frame with ⟨resumed, slot⟩
      rw [hslot] at hresume
      cases resumed with
      | error fault => cases hresume
      | ok _ =>
          rw [resumeEngine_congr h.setup hslot, h.descriptor]
          exact hresume

end Arcade.Duel
