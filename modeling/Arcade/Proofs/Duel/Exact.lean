import Arcade.Proofs.Duel.Arena
/-!
# Exact frames

The sums of a duel are taken on 32-bit words. `Match.step?` is a frame that takes every sum, difference,
product and negation of the simulation with its check, and has no result as soon as one of them does not
fit; `Match.begin?` sets a match up in the same way. While the fighters are placed as they should be,
the frame is there and is the one that the simulation makes (`step?_eq`): nothing overflows.

With the arena this is everything that is physical about a duel. `fighters_stay_in_bounds` says it for
whatever is played: the fighters stay in the arena, apart and face to face, no higher than a jump, with
a health that only goes down within a round, and every frame is exact.
-/

namespace Arcade.Duel

open Live Checked

/-! ### Frames that check their sums -/

namespace Match

/-- One frame of fighting. -/
def fight? (config : Config) (m : Match) : Option Match := do
  let moved ← m.moved?
  let exchanged ← exchange? moved.1 moved.2.1 moved.2.2 m.random
  let m : Match :=
    { m with
      left := exchanged.1.1, right := exchanged.1.2, random := exchanged.2
      timerFrames := countDown m.timerFrames }
  return if m.left.health ≤ 0 || m.right.health ≤ 0 || m.timerFrames = 0 then m.endRound config
    else m

/-- A match of two players, in its first round. -/
def begin? (config : Config) (left right : String) (seed : UInt64) : Option Match :=
  beginRound? config
    { left := freshLeft config left, right := freshRight config right
      roundWins := Dict.ofList [(left, 0), (right, 0)], random := .ofSeed seed }

def advance? (config : Config) (m : Match) : Option Match :=
  match m.phase with
  | .waiting =>
    let left := countDown m.phaseFrames
    some { m with phaseFrames := left, phase := if left = 0 then .fighting else .waiting }
  | .fighting => m.fight? config
  | .roundOver =>
    let m := { m with phaseFrames := countDown m.phaseFrames }
    if m.phaseFrames = 0 then m.beginRound? config else some m
  | .finished => some m

/-- One frame, if nothing in it overflows. -/
def step? (config : Config) (m : Match) : Option Match :=
  if m.phase.isFinished then some m
  else (({ m with frame := m.frame + 1 } : Match).advance? config).map releaseInputs

end Match

/-! ### Nothing overflows -/

namespace Fighter

variable {f : Fighter} {full : Int32}

theorem direction?_eq (input : Buttons) : direction? input = some (direction input) := by
  unfold direction? direction
  cases input.contains .moveRight <;> cases input.contains .moveLeft <;> decide

theorem times?_direction (input : Buttons) :
    times? (direction input) walkSpeed = some (direction input * walkSpeed) := by
  unfold direction
  cases input.contains .moveRight <;> cases input.contains .moveLeft <;> decide

theorem steer?_eq (f : Fighter) : f.steer? = some f.steer := by
  unfold steer? steer
  cases hblocks : f.blocking with
  | true => simp [direction?_eq]
  | false => simp [direction?_eq, times?_direction]

/-- Whether the sums of one frame of flight fit. -/
def FlightFits (f : Fighter) : Prop :=
  (!f.grounded || decide (0 < f.velY)) = true →
    Fits (f.y.toInt + f.velY.toInt) ∧ Fits (f.velY.toInt - gravity.toInt)

theorem flightFits_of_onArc (h : f.OnArc) : f.FlightFits := by
  intro hflies
  cases h with
  | standing hy hvel => simp [grounded, hy, hvel] at hflies
  | aloft k hk hy hvel => exact flight_fits hk hy hvel

theorem fly?_eq (h : f.FlightFits) : f.fly? = some f.fly := by
  unfold fly? fly
  by_cases hflies : (!f.grounded || decide (0 < f.velY)) = true
  · obtain ⟨hheight, hspeed⟩ := h hflies
    rw [if_pos hflies, if_pos hflies, plus?_of_fits hheight, minus?_of_fits hspeed]
    rfl
  · rw [if_neg hflies, if_neg hflies]

theorem walk?_eq (h : Fits (f.x.toInt + f.velX.toInt)) : f.walk? = some f.walk := by
  unfold walk? walk
  rw [plus?_of_fits h, negated?_of_fits (a := arenaHalfWidth) (by decide)]
  rfl

/-- Whether the sums of one frame of movement fit. -/
structure MoveFits (f : Fighter) : Prop where
  flight : f.ready.steer.FlightFits
  walk : Fits (f.x.toInt + f.ready.steer.velX.toInt)

theorem moveFits_of_sound (h : f.Sound full) : f.MoveFits where
  flight := flightFits_of_onArc (onArc_steer (sound_ready h).arc)
  walk := walk_fits h

theorem move?_eq (h : f.MoveFits) : f.move? = some f.move := by
  have hwalk : Fits (f.ready.steer.fly.x.toInt + f.ready.steer.fly.velX.toInt) := by
    rw [x_fly, velX_fly, x_steer]
    exact h.walk
  unfold move? move
  simp only [steer?_eq, fly?_eq h.flight, walk?_eq hwalk, Option.bind_eq_bind, Option.bind_some,
    Option.pure_def]
  -- both sides fire alike; the movement itself is not to be unfolded again
  generalize f.ready.steer.fly.walk = walked
  rfl

theorem hurt?_eq {damage : Int32} (hnonneg : 0 < damage → 0 ≤ f.health.toInt) :
    f.hurt? damage = some (f.hurt damage) := by
  unfold hurt? hurt
  split
  · next hdamage =>
    rw [minus?_of_fits (hurt_fits (hnonneg hdamage) (Int32.lt_iff_toInt_lt.mp hdamage))]
    rfl
  · rfl

end Fighter

namespace Match

variable {config : Config} {m : Match} {f g : Fighter} {full : Int32}

theorem distance?_eq (h : DistanceFits f g) : distance? f g = some (Fixed.abs (f.x - g.x)) := by
  have hmin : f.x - g.x ≠ Int32.minValue := by
    intro hmin
    have hopposite := h.opposite
    rw [hmin] at hopposite
    exact absurd hopposite (by decide)
  unfold distance? Fixed.abs
  rw [minus?_of_fits h.1, if_neg hmin, Option.bind_eq_bind, Option.bind_some,
    negated?_of_fits h.opposite]
  split <;> rfl

theorem separate?_eq (before : Fighter × Fighter) (h : DistanceFits f g) :
    separate? before (f, g) = some (separate before (f, g)) := by
  unfold separate?
  rw [distance?_eq h]
  rfl

theorem connects?_eq (attack : Attack) (h : DistanceFits f g) :
    connects? attack f g = some (connects attack f g) := by
  unfold connects?
  rw [distance?_eq h]
  rfl

theorem blow?_eq (attack : Attack) (f g : Fighter) {bonus : Int32} (hlow : 0 ≤ bonus.toInt)
    (hhigh : bonus.toInt ≤ 2) : blow? attack f g bonus = some (blow attack f g bonus) := by
  have hdamage : 0 < attack.damage.toInt ∧ attack.damage.toInt ≤ 20 := by
    cases attack <;> decide
  have hfits : Fits (attack.damage.toInt + bonus.toInt) := by constructor <;> omega
  unfold blow?
  rw [plus?_of_fits hfits]
  rfl

theorem plus?_zero (n : Int32) : plus? 0 n = some n := by
  have hsame : (0 : Int32).toInt + n.toInt = n.toInt := Int.zero_add _
  rw [plus?, hsame]
  exact word?_eq_some_iff.mpr rfl

theorem damageOf?_eq (attack : Option Attack) (random : Generator) (h : DistanceFits f g) :
    damageOf? attack f g random = some (damageOf attack f g random) := by
  cases attack with
  | none => rfl
  | some a =>
      obtain ⟨hlow, hhigh⟩ := random.between_bounds (show (0 : Int32) ≤ 2 by decide)
      simp only [damageOf?, damageOf, connects?_eq a h, Option.bind_eq_bind, Option.bind_some]
      cases connects a f g with
      | true => simp [blow?_eq a f g hlow hhigh, plus?_zero]
      | false => rfl

/-- Damage is only done to somebody who is not yet down. -/
theorem health_pos_of_damageOf {attack : Option Attack} {random : Generator}
    (h : 0 < (damageOf attack f g random).1) : 0 < g.health := by
  unfold damageOf at h
  split at h
  · exact absurd (show (0 : Int32) < 0 from h) (by decide)
  next a =>
    split at h
    next hits =>
      rw [connects, Bool.and_eq_true, decide_eq_true_eq, decide_eq_true_eq] at hits
      exact hits.2
    · exact absurd (show (0 : Int32) < 0 from h) (by decide)

theorem moved?_eq (hleft : m.left.MoveFits) (hright : m.right.MoveFits)
    (hdistance : DistanceFits m.left.move.1 m.right.move.1) : m.moved? = some m.moved := by
  rw [moved?, moved_eq]
  simp only [Fighter.move?_eq hleft, Fighter.move?_eq hright, separate?_eq _ hdistance,
    Option.bind_eq_bind, Option.bind_some, Option.pure_def]

theorem exchange?_eq {f : Fighter × Fighter} (h : DistanceFits f.1 f.2)
    (leftAttack rightAttack : Option Attack) (random : Generator) :
    exchange? f leftAttack rightAttack random = some (exchange f leftAttack rightAttack random) := by
  have halive : ∀ {attack : Option Attack} {attacker defender : Fighter} {random : Generator},
      0 < (damageOf attack attacker defender random).1 → 0 ≤ defender.health.toInt :=
    fun hdamage => Int.le_of_lt (Int32.lt_iff_toInt_lt.mp (health_pos_of_damageOf hdamage))
  simp only [exchange?, exchange, damageOf?_eq leftAttack _ h, damageOf?_eq rightAttack _ h.symm,
    Fighter.hurt?_eq halive, Option.bind_eq_bind, Option.bind_some, Option.pure_def]

theorem fight?_eq (h : Placed full m.left m.right) : m.fight? config = some (m.fight config) := by
  have hmoved : m.moved? = some m.moved :=
    moved?_eq (Fighter.moveFits_of_sound h.left) (Fighter.moveFits_of_sound h.right)
      (distance_fits (Fighter.sound_move h.left) (Fighter.sound_move h.right))
  have hplaced := placed_moved h
  simp only [fight?, fight, hmoved, exchange?_eq (distance_fits hplaced.left hplaced.right),
    Option.bind_eq_bind, Option.bind_some, Option.pure_def]

theorem beginRound?_eq (config : Config) (m : Match) :
    m.beginRound? config = some (m.beginRound config) := by
  unfold beginRound?
  rw [negated?_of_fits (a := startX) (by decide)]
  rfl

theorem begin?_eq (config : Config) (left right : String) (seed : UInt64) :
    begin? config left right seed = some (begin config left right seed) :=
  beginRound?_eq config _

theorem advance?_eq (h : Placed full m.left m.right) :
    m.advance? config = some (m.advance config) := by
  cases hphase : m.phase with
  | waiting => simp only [advance?, advance, hphase]
  | fighting => simp only [advance?, advance, hphase, fight?_eq h]
  | roundOver =>
      simp only [advance?, advance, hphase, beginRound?_eq]
      split <;> rfl
  | finished => simp only [advance?, advance, hphase]

/-- **A frame is exact.** With the fighters placed as they should be, nothing in it overflows. -/
theorem step?_eq (h : Placed full m.left m.right) : m.step? config = some (m.step config) := by
  unfold step? step
  split
  · rfl
  · rw [advance?_eq (m := { m with frame := m.frame + 1 }) h, Option.map_some]

end Match

/-! ### The engine under any calls -/

namespace DuelEngine

variable {config : Config} {earlier : Match} {e : DuelEngine}

/-- Setting an input leaves the fighters as a frame shows them, and so placed. -/
theorem placed_of_frameOf {full : Int32} {m m' : Match} (hframe : frameOf m' = frameOf m)
    (h : Placed full m.left m.right) :
    Placed full m'.left m'.right ∧ Match.Wears m m' := by
  simp only [frameOf, Fighter.entity, Frame.mk.injEq, List.cons.injEq, Entity.mk.injEq,
    MatchInfo.mk.injEq] at hframe
  obtain ⟨-, ⟨⟨-, hx, hy, -, hvel, hhealth, hfacing, -⟩,
    ⟨-, hx', hy', -, hvel', hhealth', hfacing', -⟩, -⟩, -, hround, -⟩ := hframe
  have hleft : m.left.SamePlace m'.left := ⟨hx, hy, hvel, hfacing⟩
  have hright : m.right.SamePlace m'.right := ⟨hx', hy', hvel', hfacing'⟩
  refine ⟨?_, Or.inr ⟨hround, ?_, ?_⟩⟩
  · exact h.of_samePlace hleft hright (h.left.congr hx hy hvel hhealth)
      (h.right.congr hx' hy' hvel' hhealth')
  · exact Int.le_of_eq (congrArg Int32.toInt hhealth)
  · exact Int.le_of_eq (congrArg Int32.toInt hhealth')

/-- An engine with its fighters in bounds, some calls after an earlier moment of the match. -/
def InBounds (config : Config) (earlier : Match) (e : DuelEngine) : Prop :=
  ∃ m, e = { config := config, current := some m } ∧ m.Ticking config ∧
    Placed config.health m.left m.right ∧ Match.Wears earlier m

theorem inBounds_make (hconfig : config.isPositive = true) (c : EngineCall)
    (h : InBounds config earlier e) : InBounds config earlier (EngineCall.make e c).2 := by
  obtain ⟨m, rfl, hticking, hplaced, hwears⟩ := h
  rcases make_current (e := ⟨config, some m⟩) rfl c with
    ⟨m', -, honly, hframe, hmake⟩ | ⟨-, hmake⟩
  · obtain ⟨hplaced', hwears'⟩ := placed_of_frameOf hframe hplaced
    rw [hmake]
    exact ⟨m', rfl, Match.ticking_of_onlyFighters honly hticking, hplaced', hwears.trans hwears'⟩
  · obtain ⟨hplaced', hwears'⟩ := Match.placed_step hplaced hticking (Config.health_nonneg hconfig)
    rw [hmake]
    refine ⟨m.step config, rfl, ?_, hplaced', hwears.trans hwears'⟩
    by_cases hphase : m.phase = .finished
    · rw [Match.step_of_finished hphase]
      exact hticking
    · exact (Match.step_ticks hticking hphase (Config.roundFrames_pos hconfig)).2.ticking

theorem inBounds_after (hconfig : config.isPositive = true) (h : InBounds config earlier e)
    (calls : List EngineCall) : InBounds config earlier (Run.after EngineCall.make e calls) :=
  Run.after_invariant (InBounds config earlier) (fun _ => True)
    (fun _ c _ h => inBounds_make hconfig c h) (fun _ _ => trivial) h

/-- **The physics of a duel.** Whatever inputs are set between its frames, the fighters stay in the
arena, apart, on their sides and face to face; nobody is below the ground or higher than a jump; and
health is within its bounds and does not grow before the next round. Both the start and every frame
give the exact result of all their sums. -/
theorem fighters_stay_in_bounds {options : Json} {config : Config}
    (hoptions : Config.ofOptions options = .ok config) (engine : DuelEngine)
    (hengine : engine.config = config) (left right : String) (seed : UInt64)
    (calls : List EngineCall) :
    let begun := Engine.start engine [left, right] seed
    let reached := Run.after EngineCall.make begun.2 calls
    begun.1 = .ok () ∧
      (∃ m, Match.begin? config left right seed = some m ∧ begun.2.current = some m) ∧
      ∃ m, reached.current = some m ∧
        (∀ f ∈ [m.left, m.right],
          -arenaHalfWidth.toInt ≤ f.x.toInt ∧ f.x.toInt ≤ arenaHalfWidth.toInt ∧
          0 ≤ f.y.toInt ∧ f.y.toInt ≤ jumpHeight ∧
          0 ≤ f.health.toInt ∧ f.health.toInt ≤ config.health.toInt) ∧
        m.left.x.toInt + minGap.toInt ≤ m.right.x.toInt ∧
        m.left.facing = 1 ∧ m.right.facing = -1 ∧
        (∀ more, ∃ m', (Run.after EngineCall.make reached more).current = some m' ∧
          (m'.round = m.round → m'.left.health.toInt ≤ m.left.health.toInt ∧
            m'.right.health.toInt ≤ m.right.health.toInt)) ∧
        ∃ next, m.step? config = some next ∧
          Engine.step reached = (.ok (), { reached with current := some next }) := by
  intro begun reached
  subst hengine
  have hconfig := Config.isPositive_of_ofOptions hoptions
  let first := Match.begin engine.config left right seed
  have hstart : InBounds engine.config first begun.2 :=
    ⟨first, rfl, Match.ticking_begin _ left right seed,
      Match.placed_fresh (Config.health_nonneg hconfig) left right, .refl first⟩
  obtain ⟨m, hreached, hticking, hplaced, -⟩ : InBounds engine.config first reached :=
    inBounds_after hconfig hstart calls
  have hhere : InBounds engine.config m reached := ⟨m, hreached, hticking, hplaced, .refl m⟩
  have hsound : ∀ f ∈ [m.left, m.right], f.Sound engine.config.health := by
    intro f hf
    simp only [List.mem_cons, List.not_mem_nil, or_false] at hf
    rcases hf with rfl | rfl
    · exact hplaced.left
    · exact hplaced.right
  refine ⟨rfl, ⟨first, Match.begin?_eq _ left right seed, rfl⟩, m, by rw [hreached], ?_,
    hplaced.apart, hplaced.facesRight, hplaced.facesLeft, ?_, ?_⟩
  · intro f hf
    have h := hsound f hf
    exact ⟨h.lowest, h.highest, h.arc.bounds.1, h.arc.bounds.2, h.health_nonneg, h.health_le⟩
  · intro more
    obtain ⟨m', hlater, -, -, hwears⟩ := inBounds_after hconfig hhere more
    refine ⟨m', by rw [hlater], fun hround => ?_⟩
    rcases hwears with hnext | ⟨-, hless⟩
    · exact absurd hnext (by rw [hround]; exact Nat.lt_irrefl _)
    · exact hless
  · refine ⟨m.step engine.config, Match.step?_eq hplaced, ?_⟩
    rw [hreached]
    rfl

/-- The first player jumps when the countdown is over. Sixteen frames later he is as high as anybody
can get. -/
theorem fighters_stay_in_bounds_at_the_top :
    let options : Json := .obj [("round_seconds", .nat 1)]
    let engine : DuelEngine := { config := { roundSeconds := 1 } }
    let calls := List.replicate 60 .step ++ .setInput "a" .jump :: List.replicate 16 .step
    let reached := Run.after EngineCall.make (Engine.start engine ["a", "b"] 7).2 calls
    Config.ofOptions options = .ok engine.config ∧
      ∃ m, reached.current = some m ∧ m.left.y.toInt = jumpHeight ∧
        m.left.x.toInt + minGap.toInt ≤ m.right.x.toInt := by
  intro options engine calls reached
  have hoptions : Config.ofOptions options = .ok engine.config := rfl
  obtain ⟨-, -, m, hm, -, hapart, -⟩ := fighters_stay_in_bounds hoptions engine rfl "a" "b" 7 calls
  have htop : reached.current.map (·.left.y.toInt) = some jumpHeight := by decide +kernel
  rw [hm] at htop
  exact ⟨hoptions, m, hm, Option.some.inj htop, hapart⟩

end DuelEngine

end Arcade.Duel
