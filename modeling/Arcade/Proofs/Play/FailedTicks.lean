import Arcade.Live.Adapter
import Arcade.Mechanics.BuiltIn
import Arcade.Proofs.Play.Calls
/-!
# Frames that fail

A refused action leaves the generator where it was. A frame that fails does not: it takes back what
it emitted and leaves state and players as they were, but the draws of the rules stay drawn, as
those of a frame that succeeds do (`random_tick`). So a frame that is tried again sees the generator
where the first attempt left it, which is where it was before only if the rules drew nothing
(`failed_tick_keeps_draws`).

No rules of this library draw in a frame: the counting game and the clicker simulate none, and the
adapter leaves all chance to its engine (`random_tick_of_adapter`). `Faulty` are rules that do.
-/

namespace Arcade.Play

namespace Session

variable {γ ι : Type} [GameRules γ] [Injector ι] {s s' : Session γ ι}

/-! ### The generator -/

/-- What the rules make of a frame, if they are asked to simulate one. -/
def frame? (s : Session γ ι) (seconds : Float) : Option (Ran γ Failure (Option Data)) :=
  match s.disposed, s.state with
  | false, some state =>
    if state.phase = .ended then none
    else some (GameRules.tick s.rules state seconds ⟨s.random, s.events⟩)
  | _, _ => none

omit [Injector ι] in
/-- A frame leaves the generator where the rules do, whether it fails or not. -/
theorem random_tick (s : Session γ ι) (seconds : Float) : (s.tick seconds).2.random =
    match s.frame? seconds with
    | some ran => ran.stage.random
    | none => s.random := by
  have hticked := ticked s seconds
  generalize (s.tick seconds).1 = answer at hticked
  generalize (s.tick seconds).2 = s' at hticked ⊢
  cases hticked with
  | disposed hdisposed => simp [frame?, hdisposed]
  | unstarted hdisposed hstate => simp [frame?, hdisposed, hstate]
  | decided hdisposed hstate hended => simp [frame?, hdisposed, hstate, hended]
  | failed hdisposed hstate hphase htick => simp [frame?, hdisposed, hstate, hphase, htick]
  | advanced hdisposed hstate hphase htick hsettle =>
      simp [frame?, hdisposed, hstate, hphase, htick]

/-- An action that is refused leaves the generator where it was. -/
theorem random_of_rejected {player : PlayerId} {action : Action} {result : ActionResult}
    (h : s.handleAction player action = (result, s')) (hrejected : result.success = false) :
    s'.random = s.random := by
  cases handled_of_eq h with
  | refused _ => rfl
  | vetoed _ _ _ => cases hrejected
  | rejected _ _ _ _ => rfl
  | processed _ _ _ _ _ _ => cases hrejected

omit [Injector ι] in
/-- A frame that fails takes back all but its draws and what the rules keep for themselves. -/
theorem eq_of_failed_tick (hs : s.events = {}) {seconds : Float} {failure : Failure}
    (h : s.tick seconds = (.error failure, s')) :
    s' = { s with rules := s'.rules, random := s'.random } := by
  cases ticked_of_eq h with
  | disposed _ => rfl
  | unstarted _ _ => rfl
  | failed _ _ _ _ =>
      rw [← hs]

/-- After any run of calls, a frame that fails leaves no trace but in what the rules keep for
themselves and in the generator: that is where it was if and only if the rules drew nothing in the
frame. A refused action always leaves it there. -/
theorem failed_tick_keeps_draws (id : String) (rules : γ) (config : GameConfig) (injectors : List ι)
    (calls : List Call) {seconds : Float} {failure : Failure} {s' : Session γ ι}
    (h : ((create id rules config injectors).after calls).tick seconds = (.error failure, s')) :
    let s := (create id rules config injectors).after calls
    s' = { s with rules := s'.rules, random := s'.random } ∧
      (s'.random = s.random ↔ ∀ ran ∈ s.frame? seconds, ran.stage.random = s.random) ∧
      ∀ player action result t, s.handleAction player action = (result, t) →
        result.success = false → t.random = s.random := by
  intro s
  have hrandom := random_tick s seconds
  rw [show (s.tick seconds).2 = s' from congrArg Prod.snd h] at hrandom
  refine ⟨eq_of_failed_tick (events_after rfl calls) h, ?_,
    fun _ _ _ _ => random_of_rejected⟩
  rw [hrandom]
  cases s.frame? seconds with
  | none => simp
  | some ran => simp

end Session

/-! ### Rules that draw, and rules that do not -/

/-- Rules that draw and emit in every frame and then cannot simulate it to its end. -/
inductive Faulty where
  | faulty

instance : GameRules Faulty where
  descriptor _ := .byFrames "faulty" 1 60
  prepare g _ stage := ⟨.ok [], g, stage⟩
  act g _ _ _ _ stage := ⟨.error (.byRules "faulty"), g, stage.draw.2⟩
  tick g _ _ stage := ⟨.error (.invalidState "faulty"), g, stage.draw.2.emit "lost" none .null⟩
  isOver _ _ := false
  winner _ _ := none
  scores _ _ := []

namespace Session

/-- In the first frame of a started game. -/
theorem failed_tick_keeps_draws_of_faulty :
    let s := (create "s" Faulty.faulty {} ([] : List Mechanics.BuiltIn)).after
      [.start ["p1"] (some 7)]
    ∃ failure s', s.tick 1 = (.error failure, s') ∧ s'.state = s.state ∧ s'.random ≠ s.random := by
  intro s
  have htick : s.tick 1 = (.error (.invalidState "faulty"), (s.tick 1).2) := rfl
  obtain ⟨hsame, hdrawn, -⟩ := failed_tick_keeps_draws "s" Faulty.faulty {} [] _ htick
  refine ⟨_, _, htick, by rw [hsame], fun heq => ?_⟩
  have hundrawn : (Generator.ofSeed 7).advance = Generator.ofSeed 7 := hdrawn.mp heq _ rfl
  exact absurd hundrawn (by decide)

/-- The adapter draws in no frame. -/
theorem random_tick_of_adapter {β : Type} [Live.Engine β] (s : Session (Live.Adapter β) ι)
    (seconds : Float) : (s.tick seconds).2.random = s.random := by
  have hundrawn : ∀ (a : Live.Adapter β) (state : GameState) (stage : Stage),
      (a.tick state stage).stage.random = stage.random := by
    intro a state stage
    unfold Live.Adapter.tick
    split
    · rfl
    · -- a new phase of the match is told by an event, and that is all
      dsimp only
      repeat' split
      all_goals rfl
  rw [random_tick]
  split
  next ran hran =>
    unfold frame? at hran
    split at hran
    · split at hran
      · cases hran
      · obtain rfl := Option.some.inj hran
        exact hundrawn _ _ _
    · cases hran
  · rfl

end Session

end Arcade.Play
