import Arcade.Proofs.Duel.Clock
/-!
# Where fighters can be

Between two frames a fighter stands on the ground or is somewhere on the arc of a jump, the same for
every jump (`Fighter.OnArc`): its heights are `heightAfter`, and the highest of them is `jumpHeight`.
He is within the arena, and has between no health and all of it (`Fighter.Sound`).

Two fighters never overlap and never change sides (`Placed`). The rule that keeps them apart only undoes
a walk that has brought them too close. That is enough, because in one frame both together walk less
than the gap that it keeps, so that nobody can walk through the other (`placed_moved`). A frame of any
phase keeps all this (`placed_step`), and takes no health back before the next round (`Wears`).
-/

namespace Arcade.Duel

open Live Checked

/-! ### The measures of the arena -/

theorem toInt_arenaHalfWidth : arenaHalfWidth.toInt = 524288 := rfl

theorem toInt_minGap : minGap.toInt = 49152 := rfl

theorem toInt_walkSpeed : walkSpeed.toInt = 6553 := rfl

theorem toInt_jumpVelocity : jumpVelocity.toInt = 19660 := rfl

theorem toInt_gravity : gravity.toInt = 1310 := rfl

theorem Config.health_pos {config : Config} (h : config.isPositive = true) :
    0 < config.health.toInt := by
  simp only [isPositive, Bool.and_eq_true, decide_eq_true_eq] at h
  exact Int32.lt_iff_toInt_lt.mp h.2

theorem Config.health_nonneg {config : Config} (h : config.isPositive = true) :
    0 ≤ config.health.toInt :=
  Int.le_of_lt (health_pos h)

/-! ### The arc of a jump -/

/-- The upward speed of a fighter who has jumped some frames ago. -/
def riseAfter (k : Nat) : Int := jumpVelocity.toInt - gravity.toInt * k

/-- How high he is then. -/
def heightAfter : Nat → Int
  | 0 => 0
  | k + 1 => heightAfter k + riseAfter k

/-- The height of a jump, which it has in its sixteenth frame. -/
def jumpHeight : Int := heightAfter 16

theorem heightAfter_nonpos {k : Nat} (h : 32 ≤ k) : heightAfter k ≤ 0 := by
  obtain ⟨j, rfl⟩ := Nat.exists_eq_add_of_le h
  induction j with
  | zero => decide
  | succ j ih =>
      have hfalls : riseAfter (32 + j) ≤ 0 := by
        rw [riseAfter, toInt_jumpVelocity, toInt_gravity]
        omega
      have hbefore := ih (Nat.le_add_right 32 j)
      show heightAfter (32 + j) + riseAfter (32 + j) ≤ 0
      omega

theorem lt_of_heightAfter_pos {k : Nat} (h : 0 < heightAfter k) : k < 32 := by
  refine Nat.lt_of_not_le fun hlanded => ?_
  have hlow := heightAfter_nonpos hlanded
  omega

/-- No frame of a jump is higher than its sixteenth. -/
theorem heightAfter_le (k : Nat) : heightAfter k ≤ jumpHeight := by
  by_cases hk : k < 32
  · exact (by decide : ∀ k < 32, heightAfter k ≤ jumpHeight) k hk
  · have hlanded := heightAfter_nonpos (Nat.le_of_not_lt hk)
    have htop : 0 ≤ jumpHeight := by decide
    omega

namespace Fighter

variable {f : Fighter} {full : Int32}

/-- Whether a fighter stands on the ground, or is on the arc of a jump that has not ended. -/
inductive OnArc (f : Fighter) : Prop
  | standing (hy : f.y = 0) (hvel : f.velY = 0)
  | aloft (k : Nat) (hk : k = 0 ∨ 0 < heightAfter k) (hy : f.y.toInt = heightAfter k)
      (hvel : f.velY.toInt = riseAfter k)

/-- What is true of a fighter with a certain full health, between two frames. -/
structure Sound (full : Int32) (f : Fighter) : Prop where
  lowest : -arenaHalfWidth.toInt ≤ f.x.toInt
  highest : f.x.toInt ≤ arenaHalfWidth.toInt
  arc : f.OnArc
  health_nonneg : 0 ≤ f.health.toInt
  health_le : f.health.toInt ≤ full.toInt

theorem OnArc.congr {g : Fighter} (h : f.OnArc) (hy : g.y = f.y) (hvel : g.velY = f.velY) :
    g.OnArc := by
  cases h with
  | standing hground hrest => exact .standing (hy.trans hground) (hvel.trans hrest)
  | aloft k hk hheight hspeed => exact .aloft k hk (hy ▸ hheight) (hvel ▸ hspeed)

/-- The same fighter, at the place of another. -/
theorem Sound.at {g : Fighter} (h : f.Sound full) (hg : g.Sound full) :
    ({ f with x := g.x } : Fighter).Sound full :=
  ⟨hg.lowest, hg.highest, h.arc.congr rfl rfl, h.health_nonneg, h.health_le⟩

theorem Sound.congr {g : Fighter} (h : f.Sound full) (hx : g.x = f.x) (hy : g.y = f.y)
    (hvel : g.velY = f.velY) (hhealth : g.health = f.health) : g.Sound full where
  lowest := hx ▸ h.lowest
  highest := hx ▸ h.highest
  arc := h.arc.congr hy hvel
  health_nonneg := hhealth ▸ h.health_nonneg
  health_le := hhealth ▸ h.health_le

/-- Two fighters who are at the same place, in the same flight if any, and face the same way. -/
structure SamePlace (f g : Fighter) : Prop where
  x : g.x = f.x
  y : g.y = f.y
  velY : g.velY = f.velY
  facing : g.facing = f.facing

theorem SamePlace.refl (f : Fighter) : f.SamePlace f := ⟨rfl, rfl, rfl, rfl⟩

theorem SamePlace.trans {g k : Fighter} (h : f.SamePlace g) (h' : g.SamePlace k) : f.SamePlace k :=
  ⟨h'.x.trans h.x, h'.y.trans h.y, h'.velY.trans h.velY, h'.facing.trans h.facing⟩

theorem Sound.of_samePlace {g : Fighter} (h : f.Sound full) (hplace : f.SamePlace g)
    (hnonneg : 0 ≤ g.health.toInt) (hless : g.health.toInt ≤ f.health.toInt) : g.Sound full where
  lowest := hplace.x ▸ h.lowest
  highest := hplace.x ▸ h.highest
  arc := h.arc.congr hplace.y hplace.velY
  health_nonneg := hnonneg
  health_le := Int.le_trans hless h.health_le

theorem OnArc.bounds (h : f.OnArc) : 0 ≤ f.y.toInt ∧ f.y.toInt ≤ jumpHeight := by
  cases h with
  | standing hy hvel =>
      rw [hy]
      decide
  | aloft k hk hy hvel =>
      rw [hy]
      refine ⟨?_, heightAfter_le k⟩
      rcases hk with rfl | hk
      · decide
      · omega

/-- The sums of a flight fit their words: for whoever is aloft, the next height and the next speed. -/
theorem flight_fits {k : Nat} (hk : k = 0 ∨ 0 < heightAfter k) (hy : f.y.toInt = heightAfter k)
    (hvel : f.velY.toInt = riseAfter k) :
    Fits (f.y.toInt + f.velY.toInt) ∧ Fits (f.velY.toInt - gravity.toInt) := by
  have hshort : k < 32 := by
    rcases hk with rfl | hk
    · decide
    · exact lt_of_heightAfter_pos hk
  rw [hy, hvel]
  -- a jump is over before its 32nd frame, so its sums can be looked at one by one
  exact (by decide : ∀ k < 32, Fits (heightAfter k + riseAfter k) ∧
    Fits (riseAfter k - gravity.toInt)) k hshort

/-! ### One frame of movement -/

/-- Steering changes the two velocities alone. -/
theorem steer_eq (f : Fighter) : f.steer = { f with
    velX := if f.blocking then 0 else direction f.input * walkSpeed
    velY := if f.grounded && !f.blocking && wantsJump f.input then jumpVelocity else f.velY } := by
  unfold steer
  by_cases hjumps : (f.grounded && !f.blocking && wantsJump f.input) = true
  · rw [if_pos hjumps]
    exact if_pos hjumps
  · rw [if_neg hjumps]
    exact if_neg hjumps

@[simp] theorem x_steer (f : Fighter) : f.steer.x = f.x := by rw [steer_eq]

@[simp] theorem health_steer (f : Fighter) : f.steer.health = f.health := by rw [steer_eq]

/-- A flight changes the height and the upward speed alone. -/
theorem fly_eq (f : Fighter) : f.fly = { f with y := f.fly.y, velY := f.fly.velY } := by
  unfold fly
  dsimp only
  split
  · split <;> rfl
  · rfl

@[simp] theorem x_fly (f : Fighter) : f.fly.x = f.x := by rw [fly_eq]

@[simp] theorem velX_fly (f : Fighter) : f.fly.velX = f.velX := by rw [fly_eq]

@[simp] theorem health_fly (f : Fighter) : f.fly.health = f.health := by rw [fly_eq]

/-- Nobody walks faster than walking speed. -/
theorem velX_steer_bounds (f : Fighter) :
    -walkSpeed.toInt ≤ f.steer.velX.toInt ∧ f.steer.velX.toInt ≤ walkSpeed.toInt := by
  rw [steer_eq]
  dsimp only
  rw [direction]
  cases f.blocking <;> cases f.input.contains .moveRight <;> cases f.input.contains .moveLeft <;>
    decide

/-- To jump is to begin an arc; steering without a jump leaves a flight as it is. -/
theorem steer_cases (f : Fighter) : f.steer.OnArc ∨ f.steer.y = f.y ∧ f.steer.velY = f.velY := by
  rw [steer_eq]
  by_cases hjumps : (f.grounded && !f.blocking && wantsJump f.input) = true
  · rw [if_pos hjumps]
    have hground : f.y = 0 := by
      simp only [grounded, Bool.and_eq_true, decide_eq_true_eq] at hjumps
      exact hjumps.1.1.1
    exact Or.inl (.aloft 0 (Or.inl rfl) (congrArg Int32.toInt hground) rfl)
  · rw [if_neg hjumps]
    exact Or.inr ⟨rfl, rfl⟩

theorem onArc_steer (h : f.OnArc) : f.steer.OnArc := by
  rcases f.steer_cases with hjumps | ⟨hy, hvel⟩
  · exact hjumps
  · exact h.congr hy hvel

theorem fly_of_standing (hy : f.y = 0) (hvel : f.velY = 0) : f.fly = f := by
  unfold fly grounded
  simp [hy, hvel]

theorem flies_of_aloft {k : Nat} (hk : k = 0 ∨ 0 < heightAfter k) (hy : f.y.toInt = heightAfter k)
    (hvel : f.velY.toInt = riseAfter k) : (!f.grounded || decide (0 < f.velY)) = true := by
  rcases hk with rfl | hk
  · have hrises : 0 < f.velY := by
      rw [Int32.lt_iff_toInt_lt, hvel]
      decide
    simp [hrises]
  · have hhigh : f.y ≠ 0 := by
      intro hzero
      rw [hzero] at hy
      exact absurd hk (by rw [← hy]; decide)
    simp [grounded, hhigh]

/-- A flight goes on along the arc, or ends on the ground. -/
theorem onArc_fly (h : f.OnArc) : f.fly.OnArc := by
  cases h with
  | standing hy hvel =>
      rw [fly_of_standing hy hvel]
      exact .standing hy hvel
  | aloft k hk hy hvel =>
      obtain ⟨hheight, hspeed⟩ := flight_fits hk hy hvel
      unfold fly
      rw [if_pos (flies_of_aloft hk hy hvel)]
      dsimp only
      split
      · exact .standing rfl rfl
      · next habove =>
        have hnext : (f.y + f.velY).toInt = heightAfter (k + 1) := by
          rw [toInt_add_of_fits hheight, hy, hvel, heightAfter]
        refine .aloft (k + 1) (Or.inr ?_) hnext ?_
        · rw [Int32.le_iff_toInt_le, hnext] at habove
          simpa using habove
        · rw [toInt_sub_of_fits hspeed, hvel, riseAfter, riseAfter, toInt_gravity]
          omega

theorem walk_fits (h : f.Sound full) : Fits (f.x.toInt + f.ready.steer.velX.toInt) := by
  obtain ⟨hslow, hfast⟩ := f.ready.velX_steer_bounds
  have hlow := h.lowest
  have hhigh := h.highest
  rw [toInt_walkSpeed] at hslow hfast
  rw [toInt_arenaHalfWidth] at hlow hhigh
  constructor <;> omega

theorem toInt_x_walk (h : Fits (f.x.toInt + f.steer.velX.toInt)) : f.steer.fly.walk.x.toInt =
    min (max (f.x.toInt + f.steer.velX.toInt) (-arenaHalfWidth.toInt)) arenaHalfWidth.toInt := by
  rw [walk, Fixed.toInt_clamp, x_fly, velX_fly, x_steer, toInt_add_of_fits h]
  rfl

theorem sound_ready (h : f.Sound full) : f.ready.Sound full :=
  h.congr rfl rfl rfl rfl

/-- Firing an attack moves nobody, and takes no health. -/
theorem samePlace_move (f : Fighter) : f.ready.steer.fly.walk.SamePlace f.move.1 ∧
    f.move.1.health = f.ready.steer.fly.walk.health := by
  unfold move
  generalize f.ready.steer.fly.walk = walked
  cases hattack : walked.attack? with
  | none =>
      simp only [hattack]
      exact ⟨.refl walked, trivial⟩
  | some attack =>
      simp only [hattack, fire]
      exact ⟨⟨rfl, rfl, rfl, rfl⟩, trivial⟩

theorem health_move (f : Fighter) : f.move.1.health = f.health := by
  calc f.move.1.health
      = f.ready.steer.fly.walk.health := f.samePlace_move.2
    _ = f.ready.steer.fly.health := by rw [walk]
    _ = f.ready.health := by rw [health_fly, health_steer]
    _ = f.health := by rw [ready]

theorem toInt_x_move (h : Fits (f.x.toInt + f.ready.steer.velX.toInt)) : f.move.1.x.toInt =
    min (max (f.x.toInt + f.ready.steer.velX.toInt) (-arenaHalfWidth.toInt))
      arenaHalfWidth.toInt := by
  have hready : f.ready.x = f.x := rfl
  have hwalk : Fits (f.ready.x.toInt + f.ready.steer.velX.toInt) := by rwa [hready]
  rw [f.samePlace_move.1.x, toInt_x_walk hwalk, hready]

/-- In one frame nobody gets further than walking speed. -/
theorem x_move_bounds (h : f.Sound full) : f.x.toInt - walkSpeed.toInt ≤ f.move.1.x.toInt ∧
    f.move.1.x.toInt ≤ f.x.toInt + walkSpeed.toInt := by
  obtain ⟨hslow, hfast⟩ := f.ready.velX_steer_bounds
  have hlow := h.lowest
  have hhigh := h.highest
  rw [toInt_x_move (walk_fits h)]
  rw [toInt_arenaHalfWidth] at hlow hhigh ⊢
  rw [toInt_walkSpeed] at hslow hfast ⊢
  omega

theorem sound_move (h : f.Sound full) : f.move.1.Sound full := by
  have hx := toInt_x_move (walk_fits h)
  have hplace := f.samePlace_move.1
  have harc : f.ready.steer.fly.walk.OnArc :=
    (onArc_fly (onArc_steer (sound_ready h).arc)).congr (by rw [walk]) (by rw [walk])
  rw [toInt_arenaHalfWidth] at hx
  refine ⟨?_, ?_, harc.congr (g := f.move.1) hplace.y hplace.velY, ?_, ?_⟩
  · rw [toInt_arenaHalfWidth]
    omega
  · rw [toInt_arenaHalfWidth]
    omega
  · rw [health_move]
    exact h.health_nonneg
  · rw [health_move]
    exact h.health_le

/-! ### Damage -/

theorem samePlace_hurt (f : Fighter) (damage : Int32) : f.SamePlace (f.hurt damage) := by
  unfold hurt
  split
  · dsimp only
    split <;> exact ⟨rfl, rfl, rfl, rfl⟩
  · exact .refl f

theorem samePlace_settle (f : Fighter) : f.SamePlace f.settle := by
  unfold settle
  split
  · exact ⟨rfl, rfl, rfl, rfl⟩
  · split <;> exact ⟨rfl, rfl, rfl, rfl⟩

@[simp] theorem health_settle (f : Fighter) : f.settle.health = f.health := by
  unfold settle
  split
  · rfl
  · split <;> rfl

/-- As long as there is some health left to lose, what is left of it fits a word. -/
theorem hurt_fits (hnonneg : 0 ≤ f.health.toInt) {damage : Int32} (hdamage : 0 < damage.toInt) :
    Fits (f.health.toInt - damage.toInt) := by
  have hfull := f.health.toInt_lt
  have hmost := damage.toInt_lt
  constructor <;> omega

/-- Damage takes what it can. -/
theorem toInt_health_hurt (hnonneg : 0 ≤ f.health.toInt) {damage : Int32} (hdamage : 0 ≤ damage.toInt) :
    (f.hurt damage).health.toInt = max (f.health.toInt - damage.toInt) 0 := by
  by_cases hzero : 0 < damage
  · have hpos : 0 < damage.toInt := Int32.lt_iff_toInt_lt.mp hzero
    have hleft := toInt_sub_of_fits (hurt_fits hnonneg hpos)
    have hhealth : (f.hurt damage).health
        = if f.health - damage < 0 then 0 else f.health - damage := by
      rw [hurt, if_pos hzero]
      dsimp only
      split <;> rfl
    have hsign : f.health - damage < 0 ↔ f.health.toInt - damage.toInt < 0 := by
      rw [Int32.lt_iff_toInt_lt, hleft]
      rfl
    rw [hhealth]
    by_cases hout : f.health - damage < 0
    · have hless := hsign.mp hout
      have hnone : (0 : Int32).toInt = 0 := rfl
      rw [if_pos hout, hnone]
      omega
    · have hsome : ¬ f.health.toInt - damage.toInt < 0 := fun h => hout (hsign.mpr h)
      rw [if_neg hout, hleft]
      omega
  · have hnone : ¬ 0 < damage.toInt := fun h => hzero (Int32.lt_iff_toInt_lt.mpr h)
    rw [hurt, if_neg hzero]
    omega

/-- Damage takes health, as far as there is some. -/
theorem health_hurt_bounds (hnonneg : 0 ≤ f.health.toInt) (damage : Int32) :
    0 ≤ (f.hurt damage).health.toInt ∧ (f.hurt damage).health.toInt ≤ f.health.toInt := by
  by_cases hdamage : 0 < damage
  · have hpos : 0 < damage.toInt := Int32.lt_iff_toInt_lt.mp hdamage
    rw [toInt_health_hurt hnonneg (Int.le_of_lt hpos)]
    omega
  · rw [hurt, if_neg hdamage]
    exact ⟨hnonneg, Int.le_refl _⟩

/-- What a fighter is after the blows of a frame. -/
theorem sound_hurt_settle (h : f.Sound full) (damage : Int32) :
    (f.hurt damage).settle.Sound full ∧ (f.hurt damage).settle.health.toInt ≤ f.health.toInt := by
  obtain ⟨hnonneg, hless⟩ := health_hurt_bounds h.health_nonneg damage
  have hplace : f.SamePlace (f.hurt damage).settle :=
    (f.samePlace_hurt damage).trans (f.hurt damage).samePlace_settle
  rw [← health_settle] at hnonneg hless
  exact ⟨h.of_samePlace hplace hnonneg hless, hless⟩

end Fighter

/-! ### Two fighters -/

/-- What is true of the two fighters of a match, between two frames. -/
structure Placed (full : Int32) (f g : Fighter) : Prop where
  left : f.Sound full
  right : g.Sound full
  apart : f.x.toInt + minGap.toInt ≤ g.x.toInt
  facesRight : f.facing = 1
  facesLeft : g.facing = -1

section

variable {f g f' g' : Fighter} {full : Int32}

/-- Fighters stay placed as long as they stay where they are and only lose health. -/
theorem Placed.of_samePlace (h : Placed full f g) (hf : f.SamePlace f') (hg : g.SamePlace g')
    (hsound : f'.Sound full) (hsound' : g'.Sound full) : Placed full f' g' where
  left := hsound
  right := hsound'
  apart := by
    rw [hf.x, hg.x]
    exact h.apart
  facesRight := hf.facing.trans h.facesRight
  facesLeft := hg.facing.trans h.facesLeft

/-- Whether the distance of two fighters fits a word, from either end. -/
def DistanceFits (f g : Fighter) : Prop :=
  Fits (f.x.toInt - g.x.toInt) ∧ Fits (g.x.toInt - f.x.toInt)

theorem DistanceFits.symm (h : DistanceFits f g) : DistanceFits g f := And.symm h

theorem DistanceFits.opposite (h : DistanceFits f g) : Fits (-(f.x - g.x).toInt) := by
  rw [toInt_sub_of_fits h.1, Int.neg_sub]
  exact h.2

theorem distance_fits (hf : f.Sound full) (hg : g.Sound full) : DistanceFits f g := by
  have hlow := hf.lowest
  have hhigh := hf.highest
  have hlow' := hg.lowest
  have hhigh' := hg.highest
  rw [toInt_arenaHalfWidth] at hlow hhigh hlow' hhigh'
  constructor <;> constructor <;> omega

theorem toInt_distance (h : DistanceFits f g) :
    (Fixed.abs (f.x - g.x)).toInt = max (f.x.toInt - g.x.toInt) (g.x.toInt - f.x.toInt) := by
  rw [Fixed.toInt_abs h.opposite, toInt_sub_of_fits h.1]
  omega

/-- Two fighters who are apart turn toward each other. -/
theorem placed_face (hf : f.Sound full) (hg : g.Sound full)
    (hapart : f.x.toInt + minGap.toInt ≤ g.x.toInt) :
    Placed full (Match.face (f, g)).1 (Match.face (f, g)).2 := by
  have htoward : f.x ≤ g.x := by
    rw [toInt_minGap] at hapart
    rw [Int32.le_iff_toInt_le]
    omega
  have hface : Match.face (f, g) = ({ f with facing := 1 }, { g with facing := -1 }) := by
    simp only [Match.face, htoward, if_true]
  rw [hface]
  exact ⟨hf.congr rfl rfl rfl rfl, hg.congr rfl rfl rfl rfl, hapart, rfl, rfl⟩

end

namespace Match

variable {config : Config} {m m' m'' : Match} {full : Int32}

/-! ### One frame -/

theorem moved_eq (m : Match) : m.moved =
    (face (separate (m.left, m.right) (m.left.move.1, m.right.move.1)), m.left.move.2,
      m.right.move.2) := by
  unfold moved
  generalize m.left.move = left
  generalize m.right.move = right
  rfl

/-- The fighters keep where they have moved to, or are put back because they came closer than the gap. -/
theorem moved_cases (m : Match) :
    (minGap.toInt ≤ (Fixed.abs (m.left.move.1.x - m.right.move.1.x)).toInt ∧
      m.moved.1 = face (m.left.move.1, m.right.move.1)) ∨
    ((Fixed.abs (m.left.move.1.x - m.right.move.1.x)).toInt < minGap.toInt ∧
      m.moved.1 = face ({ m.left.move.1 with x := m.left.x },
        { m.right.move.1 with x := m.right.x })) := by
  rw [moved_eq, separate]
  generalize m.left.move.1 = left
  generalize m.right.move.1 = right
  dsimp only
  split
  · next hclose => exact Or.inr ⟨Int32.lt_iff_toInt_lt.mp hclose, rfl⟩
  · next hfar => exact Or.inl ⟨Int32.le_iff_toInt_le.mp (Int32.not_lt.mp hfar), rfl⟩

/-- Where the fighters are then. -/
theorem x_moved_cases (m : Match) :
    (m.moved.1.1.x = m.left.move.1.x ∧ m.moved.1.2.x = m.right.move.1.x) ∨
    ((Fixed.abs (m.left.move.1.x - m.right.move.1.x)).toInt < minGap.toInt ∧
      m.moved.1.1.x = m.left.x ∧ m.moved.1.2.x = m.right.x) := by
  have hcases := m.moved_cases
  generalize m.left.move.1 = left at hcases ⊢
  generalize m.right.move.1 = right at hcases ⊢
  rcases hcases with ⟨-, hmoved⟩ | ⟨hclose, hmoved⟩
  · rw [hmoved]
    exact Or.inl ⟨rfl, rfl⟩
  · rw [hmoved]
    exact Or.inr ⟨hclose, rfl, rfl⟩

/-- Their flights go on in any case. -/
theorem flight_moved (m : Match) :
    (m.moved.1.1.y = m.left.move.1.y ∧ m.moved.1.1.velY = m.left.move.1.velY) ∧
      m.moved.1.2.y = m.right.move.1.y ∧ m.moved.1.2.velY = m.right.move.1.velY := by
  have hcases := m.moved_cases
  generalize m.left.move.1 = left at hcases ⊢
  generalize m.right.move.1 = right at hcases ⊢
  rcases hcases with ⟨-, hmoved⟩ | ⟨-, hmoved⟩ <;>
    · rw [hmoved]
      exact ⟨⟨rfl, rfl⟩, rfl, rfl⟩

/-- After their movement the fighters are placed as before. Together they have walked less than the
gap, so they have not changed sides; and if they have come closer than it, they are put back. -/
theorem placed_moved (h : Placed full m.left m.right) : Placed full m.moved.1.1 m.moved.1.2 := by
  have hleft := Fighter.sound_move h.left
  have hright := Fighter.sound_move h.right
  obtain ⟨-, hahead⟩ := Fighter.x_move_bounds h.left
  obtain ⟨hback, -⟩ := Fighter.x_move_bounds h.right
  have hdistance := toInt_distance (distance_fits hleft hright)
  have hgap := h.apart
  rcases m.moved_cases with ⟨hfar, hmoved⟩ | ⟨-, hmoved⟩
  · rw [hmoved]
    refine placed_face hleft hright ?_
    rw [toInt_minGap] at hgap hfar ⊢
    rw [toInt_walkSpeed] at hahead hback
    omega
  · rw [hmoved]
    exact placed_face (hleft.at h.left) (hright.at h.right) h.apart

theorem health_moved (m : Match) :
    m.moved.1.1.health = m.left.health ∧ m.moved.1.2.health = m.right.health := by
  rw [moved_eq, ← m.left.health_move, ← m.right.health_move, separate]
  generalize m.left.move.1 = left
  generalize m.right.move.1 = right
  split <;> exact ⟨rfl, rfl⟩

/-- The blows of a frame leave the fighters where they are. -/
theorem samePlace_exchange (f : Fighter × Fighter) (leftAttack rightAttack : Option Attack)
    (random : Generator) :
    let exchanged := (exchange f leftAttack rightAttack random).1
    f.1.SamePlace exchanged.1 ∧ f.2.SamePlace exchanged.2 :=
  ⟨(f.1.samePlace_hurt _).trans (Fighter.samePlace_settle _),
    (f.2.samePlace_hurt _).trans (Fighter.samePlace_settle _)⟩

/-- They take health. -/
theorem placed_exchange {f : Fighter × Fighter} (h : Placed full f.1 f.2)
    (leftAttack rightAttack : Option Attack) (random : Generator) :
    let exchanged := (exchange f leftAttack rightAttack random).1
    Placed full exchanged.1 exchanged.2 ∧ exchanged.1.health.toInt ≤ f.1.health.toInt ∧
      exchanged.2.health.toInt ≤ f.2.health.toInt := by
  obtain ⟨hstay, hstay'⟩ := samePlace_exchange f leftAttack rightAttack random
  unfold exchange at hstay hstay' ⊢
  generalize damageOf leftAttack f.1 f.2 random = dealt at hstay hstay' ⊢
  generalize hdealt : damageOf rightAttack f.2 f.1 dealt.2 = suffered
  obtain ⟨hleft, hless⟩ := Fighter.sound_hurt_settle h.left suffered.1
  obtain ⟨hright, hless'⟩ := Fighter.sound_hurt_settle h.right dealt.1
  simp only [hdealt] at hstay hstay' ⊢
  exact ⟨h.of_samePlace hstay hstay' hleft hright, hless, hless'⟩

/-- What a later moment of a match is to an earlier one: it is in a later round, or nobody has more
health. -/
def Wears (m m' : Match) : Prop :=
  m.round.toNat < m'.round.toNat ∨ m'.round = m.round ∧
    m'.left.health.toInt ≤ m.left.health.toInt ∧ m'.right.health.toInt ≤ m.right.health.toInt

theorem Wears.refl (m : Match) : Wears m m :=
  Or.inr ⟨rfl, Int.le_refl _, Int.le_refl _⟩

theorem Wears.trans (h : Wears m m') (h' : Wears m' m'') : Wears m m'' := by
  unfold Wears at h h' ⊢
  rcases h with hlater | ⟨hround, hleft, hright⟩
  · rcases h' with hlater' | ⟨hround', -, -⟩
    · exact Or.inl (by omega)
    · exact Or.inl (by rwa [hround'])
  · rcases h' with hlater' | ⟨hround', hleft', hright'⟩
    · exact Or.inl (by rwa [← hround])
    · exact Or.inr ⟨hround'.trans hround, by omega, by omega⟩

theorem placed_fought (h : Placed full m.left m.right) :
    Placed full m.fought.left m.fought.right ∧ Wears m m.fought := by
  obtain ⟨hplaced, hleft, hright⟩ :=
    placed_exchange (placed_moved h) m.moved.2.1 m.moved.2.2 m.random
  rw [m.health_moved.1] at hleft
  rw [m.health_moved.2] at hright
  unfold fought
  generalize exchange m.moved.1 m.moved.2.1 m.moved.2.2 m.random = exchanged at hplaced hleft hright ⊢
  exact ⟨hplaced, Or.inr ⟨rfl, hleft, hright⟩⟩

theorem fighters_endRound (config : Config) (m : Match) : (m.endRound config).left = m.left ∧
    (m.endRound config).right = m.right ∧ (m.endRound config).round = m.round := by
  rcases endRound_cases config m with hend | ⟨-, -, hend⟩ <;>
    · rw [hend]
      exact ⟨rfl, rfl, rfl⟩

/-- Fighters who have just been set up stand three units to the left and to the right. -/
theorem placed_fresh (hhealth : 0 ≤ config.health.toInt) (p q : String) :
    Placed config.health (freshLeft config p) (freshRight config q) where
  left := {
    lowest := by show -arenaHalfWidth.toInt ≤ (-startX).toInt; decide
    highest := by show (-startX).toInt ≤ arenaHalfWidth.toInt; decide
    arc := .standing rfl rfl
    health_nonneg := hhealth
    health_le := Int.le_refl _ }
  right := {
    lowest := by show -arenaHalfWidth.toInt ≤ startX.toInt; decide
    highest := by show startX.toInt ≤ arenaHalfWidth.toInt; decide
    arc := .standing rfl rfl
    health_nonneg := hhealth
    health_le := Int.le_refl _ }
  apart := by show (-startX).toInt + minGap.toInt ≤ startX.toInt; decide
  facesRight := rfl
  facesLeft := rfl

theorem placed_advance (h : Placed config.health m.left m.right) (hticking : Ticking config m)
    (hhealth : 0 ≤ config.health.toInt) :
    Placed config.health (m.advance config).left (m.advance config).right ∧
      Wears m (m.advance config) := by
  unfold advance
  split
  · exact ⟨h, .refl m⟩
  · obtain ⟨hplaced, hwears⟩ := placed_fought h
    rcases fight_cases config m with ⟨-, hfight⟩ | hfight
    · rw [hfight]
      exact ⟨hplaced, hwears⟩
    · obtain ⟨hleft, hright, hround⟩ := fighters_endRound config m.fought
      rw [hfight]
      unfold Wears at hwears ⊢
      rw [hleft, hright, hround]
      exact ⟨hplaced, hwears⟩
  · next hphase =>
    dsimp only
    split
    · obtain ⟨-, hmore⟩ := hticking.roundOver hphase
      refine ⟨placed_fresh hhealth _ _, Or.inl ?_⟩
      show m.round.toNat < (m.round + 1).toNat
      rw [toNat_succ_round hmore]
      exact Nat.lt_succ_self _
    · exact ⟨h, .refl m⟩
  · exact ⟨h, .refl m⟩

/-- A frame of any phase keeps the fighters placed, and gives nobody health within a round. -/
theorem placed_step (h : Placed config.health m.left m.right) (hticking : Ticking config m)
    (hhealth : 0 ≤ config.health.toInt) :
    Placed config.health (m.step config).left (m.step config).right ∧ Wears m (m.step config) := by
  by_cases hphase : m.phase = .finished
  · rw [step_of_finished hphase]
    exact ⟨h, .refl m⟩
  · have hcounted : Ticking config ({ m with frame := m.frame + 1 } : Match) :=
      ⟨hticking.round, hticking.waiting, hticking.fighting, hticking.roundOver⟩
    obtain ⟨hplaced, hwears⟩ :=
      placed_advance (m := { m with frame := m.frame + 1 }) h hcounted hhealth
    rw [step_of_not_finished hphase]
    generalize ({ m with frame := m.frame + 1 } : Match).advance config = next at hplaced hwears
    -- the buttons are released, and nothing else
    exact ⟨⟨hplaced.left.congr rfl rfl rfl rfl, hplaced.right.congr rfl rfl rfl rfl, hplaced.apart,
      hplaced.facesRight, hplaced.facesLeft⟩, hwears⟩

end Match

end Arcade.Duel
