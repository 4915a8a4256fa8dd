import Arcade.Proofs.Mechanics.Built
import Arcade.Proofs.Mechanics.Hooks
import Arcade.Proofs.Number.Sign
/-!
# The factor of built-in injectors

The only factors that built-in injectors give are the rewards of challenges, and a reward that options
may ask for is above zero. The pipeline multiplies them, and a product of doubles without a minus sign
has none: whatever is rounded or runs out of range on the way, the factor of an action is never negative
(`unsigned_of_proceed`).
-/

namespace Arcade.Mechanics

open Play

variable {c : Challenge} {player : PlayerId} {action forwarded : Action} {data : Data}
  {injectors injectors' : List BuiltIn}

/-- An injector whose reward, if it gives one, has no minus sign. -/
def Rewarding : BuiltIn → Prop
  | .energy _ => True
  | .challenge c => Real.Unsigned c.options.reward

/-- A challenge gives its reward or nothing. -/
theorem Challenge.multiplier_before {m : Float} (h : (c.before player action).1.multiplier = some m) :
    m = c.options.reward := by
  have hruled := c.ruled player action
  generalize (c.before player action).1 = verdict at h hruled
  generalize (c.before player action).2 = c' at hruled
  cases hruled with
  | released _ _ => exact (Option.some.inj h).symm
  | vetoed => cases h
  | issued _ _ => cases h
  | passed _ _ => cases h

/-- The hooks keep the options, and with them the reward. -/
theorem rewarding_avoids {key : String} (hkey : key ≠ Energy.key) : Pipeline.Avoids Rewarding key where
  prepare {i} players hi := by
    refine ⟨((avoids hkey).prepare players trivial).1, ?_⟩
    cases i with
    | energy e => trivial
    | challenge c =>
        show Real.Unsigned (c.fresh players).options.reward
        rw [Challenge.options_fresh]
        exact hi
  before {i} player action data hi := by
    cases i with
    | energy e => trivial
    | challenge c =>
        show Real.Unsigned (c.before player action).2.options.reward
        rw [Challenge.options_before]
        exact hi
  after {i} player action outcome hi := by
    refine ⟨((avoids hkey).after player action outcome trivial).1, ?_⟩
    cases i with
    | energy e => trivial
    | challenge c =>
        show Real.Unsigned c.options.reward
        exact hi

/-- The factor that built-in injectors give to an action has no minus sign. -/
theorem unsigned_of_proceed (hall : ∀ i ∈ injectors, Rewarding i) {multiplier : Float}
    {told : Option Json}
    (h : Pipeline.before player action data injectors = (.proceed forwarded multiplier told, injectors')) :
    Real.Unsigned multiplier := by
  have hone : Real.Unsigned 1.0 := by decide +kernel
  refine Pipeline.multiplier_of_proceed hone (fun _ _ => Real.Unsigned.mul) ?_ h
  intro i hi action m hm
  have hrewarding := hall i hi
  cases i with
  | energy e =>
      change (ite (e.balance data player < e.cost) _ _ : Verdict).multiplier = some m at hm
      split at hm <;> cases hm
  | challenge c =>
      obtain rfl : m = c.options.reward := Challenge.multiplier_before hm
      exact hrewarding

/-! ### Injectors as they are built -/

/-- The reward that options ask for is above zero, and the standard one is two. -/
theorem Challenge.unsigned_of_ofOptions {options : Json} (h : Challenge.ofOptions options = .ok c) :
    Real.Unsigned c.options.reward := by
  unfold ofOptions at h
  split at h
  · cases h
    show Real.Unsigned 2.0
    decide +kernel
  · split at h
    · cases h
    · split at h
      · cases h
      · split at h
        · cases h
        next hreward =>
          cases h
          simp only [Bool.or_eq_true, not_or, decide_eq_true_eq] at hreward
          exact Real.unsigned_of_not_le_zero hreward.2

theorem rewarding_of_buildAll {specs : List InjectorSpec}
    (h : BuiltIn.catalog.buildAll specs = .ok injectors) : ∀ i ∈ injectors, Rewarding i := by
  intro i hi
  obtain ⟨spec, -, hbuild⟩ := Catalog.exists_spec_of_mem h hi
  rcases builtIn_of_build hbuild with ⟨-, e, -, rfl⟩ | ⟨-, c, hoptions, rfl⟩
  · trivial
  · exact Challenge.unsigned_of_ofOptions hoptions

end Arcade.Mechanics
