import Arcade.Proofs.Duel.Exact
import Arcade.Proofs.Duel.Mirror
import Arcade.Proofs.Duel.Range
/-!
# When attacks are fired, and what they do

A fighter fires in a frame of fighting if he does not block, his cooldown has run out and he holds the
button of an attack; then he fires the strongest attack that he holds (`Fighter.move_fires_iff`). The
cooldown of that attack begins to run in the next frame, so it has run out exactly as many frames later
(`Match.cooling_advances`, and for any calls `DuelEngine.cooling_after`).

What the opponent loses is a question of where both stand after their movement, and of whether he blocks
(`Toll`). It is never nothing for an attack that reaches him, as nobody who is down goes on fighting
(`Match.Upright`).
-/

namespace Arcade.Duel

open Live Checked

/-! ### A fighter fires -/

/-- What is true of the three attacks is true of all. -/
theorem Attack.forall_iff {P : Attack → Prop} :
    (∀ a, P a) ↔ P .special ∧ P .heavy ∧ P .light := by
  constructor
  · intro h
    exact ⟨h _, h _, h _⟩
  · intro h a
    obtain ⟨hspecial, hheavy, hlight⟩ := h
    cases a <;> assumption

/-- The first attack that is held is the strongest one. -/
theorem Attack.find?_all_eq_some_iff {held : Attack → Bool} {a : Attack} :
    Attack.all.find? held = some a ↔ held a = true ∧ ∀ b, held b = true → b.damage ≤ a.damage := by
  rw [Attack.forall_iff]
  cases hspecial : held .special <;> cases hheavy : held .heavy <;> cases hlight : held .light <;>
    cases a <;> simp [Attack.all, List.find?, Attack.damage, hspecial, hheavy, hlight]

namespace Fighter

variable {f g : Fighter}

/-- Whether a fighter blocks in the frame that comes: he stands, and holds down. -/
def WillBlock (f : Fighter) : Prop := f.grounded = true ∧ f.input.contains .moveDown = true

/-- Whether his cooldown has run out in the frame that comes, which first takes one from it. -/
def Rested (f : Fighter) : Prop := f.cooldown.toNat ≤ 1

instance (f : Fighter) : Decidable f.WillBlock := inferInstanceAs (Decidable (_ ∧ _))

instance (f : Fighter) : Decidable f.Rested := inferInstanceAs (Decidable (_ ≤ _))

/-- Whether he holds the button of an attack. -/
def Holds (f : Fighter) (a : Attack) : Prop := f.input.contains a.button = true

instance (f : Fighter) (a : Attack) : Decidable (f.Holds a) := inferInstanceAs (Decidable (_ = _))

/-- A walk leaves alone what decides about an attack. -/
theorem walked_keeps (f : Fighter) : f.ready.steer.fly.walk.input = f.input ∧
    f.ready.steer.fly.walk.cooldown = countDown f.cooldown ∧
    f.ready.steer.fly.walk.blocking = (f.grounded && f.input.contains .moveDown) := by
  rw [walk, fly_eq, steer_eq]
  exact ⟨rfl, rfl, rfl⟩

theorem snd_move (f : Fighter) : f.move.2 = f.ready.steer.fly.walk.attack? := by
  unfold move
  generalize f.ready.steer.fly.walk = walked
  cases hattack : walked.attack? <;> simp only [hattack]

/-- **When an attack is fired**, and which one. -/
theorem move_fires_iff {a : Attack} : f.move.2 = some a ↔
    ¬ f.WillBlock ∧ f.Rested ∧ f.Holds a ∧ ∀ b, f.Holds b → b.damage ≤ a.damage := by
  obtain ⟨hinput, hcooldown, hblocking⟩ := f.walked_keeps
  rw [snd_move, attack?, hinput, hcooldown, hblocking]
  by_cases hready : ¬ f.WillBlock ∧ f.Rested
  · have hfree : ¬ ((f.grounded && f.input.contains .moveDown || countDown f.cooldown != 0) = true) := by
      have hout : countDown f.cooldown = 0 := (countDown_eq_zero_iff _).mpr hready.2
      rw [hout, Bool.or_eq_true, Bool.and_eq_true, not_or]
      exact ⟨hready.1, by decide⟩
    rw [if_neg hfree, Attack.find?_all_eq_some_iff]
    exact ⟨fun h => ⟨hready.1, hready.2, h⟩, fun h => h.2.2⟩
  · have hbusy : (f.grounded && f.input.contains .moveDown || countDown f.cooldown != 0) = true := by
      rw [Bool.or_eq_true, Bool.and_eq_true, bne_iff_ne, Ne, countDown_eq_zero_iff]
      by_cases hblock : f.WillBlock
      · exact Or.inl hblock
      · exact Or.inr fun hrested => hready ⟨hblock, hrested⟩
    rw [if_pos hbusy]
    exact ⟨fun h => absurd h.symm (Option.some_ne_none a), fun h => absurd ⟨h.1, h.2.1⟩ hready⟩

theorem exists_strongest (h : ∃ a, f.Holds a) :
    ∃ a, f.Holds a ∧ ∀ b, f.Holds b → b.damage ≤ a.damage := by
  obtain ⟨b, hb⟩ := h
  cases hfind : Attack.all.find? fun a => f.input.contains a.button with
  | none =>
      have hall : b ∈ Attack.all := by cases b <;> decide
      exact absurd hb (List.find?_eq_none.mp hfind b hall)
  | some a => exact ⟨a, Attack.find?_all_eq_some_iff.mp hfind⟩

/-- The fighter after the frame has the cooldown of the attack that he fired, or one frame less to wait. -/
theorem cooldown_move (f : Fighter) : f.move.1.cooldown =
    match f.move.2 with
    | some a => a.cooldown
    | none => countDown f.cooldown := by
  rw [← f.walked_keeps.2.1]
  unfold move
  generalize f.ready.steer.fly.walk = walked
  cases hattack : walked.attack? with
  | none => simp only [hattack]
  | some a => simp only [hattack, fire]

theorem blocking_move (f : Fighter) : f.move.1.blocking = decide f.WillBlock := by
  have hwill : decide f.WillBlock = (f.grounded && f.input.contains .moveDown) := by
    rw [Bool.eq_iff_iff, decide_eq_true_eq, Bool.and_eq_true]
    rfl
  rw [hwill, ← f.walked_keeps.2.2]
  unfold move
  generalize f.ready.steer.fly.walk = walked
  cases hattack : walked.attack? with
  | none => simp only [hattack]
  | some a => simp only [hattack, fire]

theorem cooldown_hurt (f : Fighter) (damage : Int32) : (f.hurt damage).cooldown = f.cooldown := by
  unfold hurt
  split
  · dsimp only
    split <;> rfl
  · rfl

theorem cooldown_settle (f : Fighter) : f.settle.cooldown = f.cooldown := by
  unfold settle
  split
  · rfl
  · split <;> rfl

theorem released_keeps (f : Fighter) : f.released.cooldown = f.cooldown ∧
    f.released.health = f.health ∧ f.released.x = f.x := ⟨rfl, rfl, rfl⟩

end Fighter

/-! ### A fighter is struck -/

/-- What an attack of the opponent, or none, costs a fighter in a frame of fighting. -/
structure Toll (attack : Option Attack) (distance : Nat) (blocks : Prop) (loss : Int) : Prop where
  /-- an attack that does not reach him costs nothing -/
  missed : (∀ a, attack = some a → a.range.toInt < distance) → loss = 0
  /-- one that reaches him costs something -/
  felt : ∀ a, attack = some a → distance ≤ a.range.toInt → 1 ≤ loss
  /-- but not more than its damage with the highest bonus -/
  most : ∀ a, attack = some a → loss ≤ a.damage.toInt + 2
  /-- and a quarter of that if he blocks -/
  blocked : ∀ a, attack = some a → blocks → loss ≤ (a.damage.toInt + 2) / 4

section

variable {a : Attack} {distance : Nat} {blocks : Prop} {loss : Int}

theorem Toll.of_none : Toll none distance blocks 0 where
  missed _ := rfl
  felt _ h := absurd h.symm (Option.some_ne_none _)
  most _ h := absurd h.symm (Option.some_ne_none _)
  blocked _ h := absurd h.symm (Option.some_ne_none _)

theorem Toll.of_miss (h : a.range.toInt < distance) : Toll (some a) distance blocks 0 := by
  have hdamage : 0 < a.damage.toInt := by cases a <;> decide
  refine ⟨fun _ => rfl, fun b hb hnear => ?_, fun b hb => ?_, fun b hb _ => ?_⟩ <;>
    · obtain rfl := Option.some.inj hb
      omega

theorem Toll.of_hit (h : distance ≤ a.range.toInt) (hleast : 1 ≤ loss) (hmost : loss ≤ a.damage.toInt + 2)
    (hblocked : blocks → loss ≤ (a.damage.toInt + 2) / 4) : Toll (some a) distance blocks loss := by
  refine ⟨fun hfar => absurd (hfar a rfl) (Int.not_lt.mpr h), fun _ _ _ => hleast, fun b hb => ?_,
    fun b hb => ?_⟩ <;>
    · obtain rfl := Option.some.inj hb
      assumption

end

/-- The horizontal distance of two fighters. -/
def apart (f g : Fighter) : Nat := (f.x.toInt - g.x.toInt).natAbs

theorem apart_comm (f g : Fighter) : apart f g = apart g f := by
  unfold apart
  omega

namespace Match

variable {f g : Fighter}

theorem blow_bounds (a : Attack) (f g : Fighter) {bonus : Int32} (hlow : 0 ≤ bonus.toInt)
    (hhigh : bonus.toInt ≤ 2) :
    1 ≤ (blow a f g bonus).toInt ∧ (blow a f g bonus).toInt ≤ a.damage.toInt + 2 ∧
      (blocks f g = true → (blow a f g bonus).toInt ≤ (a.damage.toInt + 2) / 4) := by
  have hdrawn : bonus = 0 ∨ bonus = 1 ∨ bonus = 2 := by
    have hcases : bonus.toInt = 0 ∨ bonus.toInt = 1 ∨ bonus.toInt = 2 := by omega
    exact hcases.imp Int32.toInt_inj.mp (Or.imp Int32.toInt_inj.mp Int32.toInt_inj.mp)
  unfold blow
  cases blocks f g <;> rcases hdrawn with rfl | rfl | rfl <;> cases a <;> decide

/-- An attack connects with anybody who is not down and stands within its range. -/
theorem connects_iff (a : Attack) (hfits : DistanceFits f g) (hup : 0 < g.health.toInt) :
    connects a f g = true ↔ apart f g ≤ a.range.toInt := by
  have hpos : 0 < g.health := Int32.lt_iff_toInt_lt.mpr hup
  have hdistance : (apart f g : Int) = max (f.x.toInt - g.x.toInt) (g.x.toInt - f.x.toInt) := by
    unfold apart
    omega
  rw [connects, Bool.and_eq_true, decide_eq_true_eq, decide_eq_true_eq, Int32.le_iff_toInt_le,
    toInt_distance hfits, ← hdistance]
  exact and_iff_left hpos

/-- What an attack with some bonus costs the one who is struck. -/
theorem toll_dealt (attack : Option Attack) (hfits : DistanceFits f g) (hup : 0 < g.health.toInt)
    (hface : blocks f g = g.blocking) {bonus : Int32} (hlow : 0 ≤ bonus.toInt) (hhigh : bonus.toInt ≤ 2) :
    Toll attack (apart f g) (g.blocking = true)
      (g.health.toInt - (g.hurt (dealt attack f g bonus)).settle.health.toInt) := by
  have hunhurt : g.hurt 0 = g := rfl
  rw [Fighter.health_settle]
  cases attack with
  | none =>
      have hdealt : dealt none f g bonus = 0 := rfl
      rw [hdealt, hunhurt, Int.sub_self]
      exact Toll.of_none
  | some a =>
      by_cases hconnects : connects a f g = true
      · obtain ⟨hleast, hmost, hblocked⟩ := blow_bounds a f g hlow hhigh
        have hdealt : dealt (some a) f g bonus = blow a f g bonus := if_pos hconnects
        rw [hface] at hblocked
        rw [hdealt, Fighter.toInt_health_hurt (by omega) (by omega)]
        generalize (blow a f g bonus).toInt = damage at hleast hmost hblocked
        refine Toll.of_hit ((connects_iff a hfits hup).mp hconnects) (by omega) (by omega) ?_
        intro hblock
        have hquarter := hblocked hblock
        omega
      · have hfar : ¬ apart f g ≤ a.range.toInt := fun h => hconnects ((connects_iff a hfits hup).mpr h)
        have hdealt : dealt (some a) f g bonus = 0 := if_neg hconnects
        rw [hdealt, hunhurt, Int.sub_self]
        exact Toll.of_miss (Int.not_le.mp hfar)

end Match

/-! ### A frame of fighting, seat by seat -/

/-- The two seats of a duel. -/
inductive Seat where
  | left
  | right
  deriving DecidableEq, Repr

/-- The seat across. -/
def Seat.other : Seat → Seat
  | .left => .right
  | .right => .left

namespace Match

variable {config : Config} {m m' : Match} {full : Int32}

/-- The fighter of a seat. -/
def fighter (m : Match) : Seat → Fighter
  | .left => m.left
  | .right => m.right

/-- The attack that a fighter fires in the frame that comes: in a fight, the one of his movement. -/
def fires? (m : Match) (seat : Seat) : Option Attack :=
  if m.phase = .fighting then (m.fighter seat).move.2 else none

theorem fires?_of_fighting (h : m.phase = .fighting) (seat : Seat) :
    m.fires? seat = (m.fighter seat).move.2 := if_pos h

theorem fighting_of_fires {seat : Seat} {a : Attack} (h : m.fires? seat = some a) :
    m.phase = .fighting := by
  unfold fires? at h
  split at h
  · assumption
  · cases h

/-- Being kept apart and turned to one another does not concern timers and blocks. -/
theorem moved_keeps (m : Match) :
    (m.moved.1.1.cooldown = m.left.move.1.cooldown ∧ m.moved.1.1.blocking = m.left.move.1.blocking) ∧
      m.moved.1.2.cooldown = m.right.move.1.cooldown ∧ m.moved.1.2.blocking = m.right.move.1.blocking := by
  have hcases := m.moved_cases
  generalize m.left.move.1 = left at hcases ⊢
  generalize m.right.move.1 = right at hcases ⊢
  rcases hcases with ⟨-, hmoved⟩ | ⟨-, hmoved⟩ <;>
    · rw [hmoved]
      exact ⟨⟨rfl, rfl⟩, rfl, rfl⟩

theorem step_of_fighting (config : Config) (h : m.phase = .fighting) :
    (m.step config).left = m.fought.left.released ∧
      (m.step config).right = m.fought.right.released := by
  have hgoing : m.phase ≠ .finished := by simp [h]
  obtain ⟨m', hadvances, hstep⟩ := step_advances config hgoing
  rw [hstep]
  cases hadvances with
  | fights _ hfought => exact ⟨by rw [hfought]; rfl, by rw [hfought]; rfl⟩
  | decides _ hfought => exact ⟨by rw [hfought]; rfl, by rw [hfought]; rfl⟩
  | pauses _ hfought => exact ⟨by rw [hfought]; rfl, by rw [hfought]; rfl⟩
  | countsDown hphase => cases h.symm.trans hphase
  | opens hphase => cases h.symm.trans hphase
  | rests hphase => cases h.symm.trans hphase
  | begins hphase => cases h.symm.trans hphase

theorem fought_left (m : Match) : m.fought.left =
    (m.moved.1.1.hurt (dealt m.moved.2.2 m.moved.1.2 m.moved.1.1 m.rightBonus)).settle := by
  rw [fought_eq_foughtWith, withRandom, foughtWith]

theorem fought_right (m : Match) : m.fought.right =
    (m.moved.1.2.hurt (dealt m.moved.2.1 m.moved.1.1 m.moved.1.2 m.leftBonus)).settle := by
  rw [fought_eq_foughtWith, withRandom, foughtWith]

/-- The cooldown of an attack begins with the frame that fires it. -/
theorem cooldown_step (config : Config) (h : m.phase = .fighting) (seat : Seat) :
    ((m.step config).fighter seat).cooldown =
      match m.fires? seat with
      | some a => a.cooldown
      | none => countDown (m.fighter seat).cooldown := by
  obtain ⟨hleft, hright⟩ := step_of_fighting config h
  obtain ⟨⟨hcooldown, -⟩, hcooldown', -⟩ := m.moved_keeps
  rw [fires?_of_fighting h, ← Fighter.cooldown_move]
  cases seat with
  | left =>
      rw [fighter, fighter, hleft, m.fought.left.released_keeps.1, fought_left, Fighter.cooldown_settle,
        Fighter.cooldown_hurt, hcooldown]
  | right =>
      rw [fighter, fighter, hright, m.fought.right.released_keeps.1, fought_right,
        Fighter.cooldown_settle, Fighter.cooldown_hurt, hcooldown']

/-- Fighters who face one another block whatever comes. -/
theorem blocks_of_placed {f g : Fighter} (h : Placed full f g) :
    blocks f g = g.blocking ∧ blocks g f = f.blocking := by
  unfold blocks
  rw [h.facesRight, h.facesLeft]
  exact ⟨Bool.and_true _, Bool.and_true _⟩

theorem apart_step (config : Config) (h : m.phase = .fighting) :
    apart (m.step config).left (m.step config).right = apart m.moved.1.1 m.moved.1.2 := by
  obtain ⟨hleft, hright⟩ := step_of_fighting config h
  have hx : m.fought.left.x = m.moved.1.1.x := by
    rw [fought_left, (Fighter.samePlace_settle _).x, (Fighter.samePlace_hurt _ _).x]
  have hx' : m.fought.right.x = m.moved.1.2.x := by
    rw [fought_right, (Fighter.samePlace_settle _).x, (Fighter.samePlace_hurt _ _).x]
  rw [apart, apart, hleft, hright, m.fought.left.released_keeps.2.2, m.fought.right.released_keeps.2.2,
    hx, hx']

/-- **What a frame of fighting costs**, by the attack of the opponent, the distance after the movement,
and the block. -/
theorem toll_step (config : Config) (h : m.phase = .fighting) (hplaced : Placed full m.left m.right)
    (hup : 0 < m.left.health.toInt ∧ 0 < m.right.health.toInt) (seat : Seat) :
    Toll (m.fires? seat.other) (apart (m.step config).left (m.step config).right)
      (m.fighter seat).WillBlock
      ((m.fighter seat).health.toInt - ((m.step config).fighter seat).health.toInt) := by
  have hmoved := placed_moved hplaced
  have hfits := distance_fits hmoved.left hmoved.right
  obtain ⟨hblocks, hblocks'⟩ := blocks_of_placed hmoved
  obtain ⟨⟨-, hblocking⟩, -, hblocking'⟩ := m.moved_keeps
  obtain ⟨hhealth, hhealth'⟩ := m.health_moved
  obtain ⟨hleft, hright⟩ := step_of_fighting config h
  have hdrawn : (0 : Int32) ≤ 2 := by decide
  have hfires : m.moved.2.1 = m.left.move.2 ∧ m.moved.2.2 = m.right.move.2 := by
    rw [moved_eq]
    exact ⟨rfl, rfl⟩
  rw [apart_step config h, fires?_of_fighting h]
  cases seat with
  | left =>
      -- the attack of the second seat draws its bonus after that of the first
      obtain ⟨hlow, hhigh⟩ := m.randomBetween.between_bounds hdrawn
      have htoll := toll_dealt m.moved.2.2 hfits.symm (by rw [hhealth]; exact hup.1) hblocks' hlow hhigh
      rw [hblocking, Fighter.blocking_move, decide_eq_true_eq, hhealth, apart_comm] at htoll
      rw [Seat.other, fighter, fighter, fighter, hleft, m.fought.left.released_keeps.2.1, fought_left,
        ← hfires.2]
      exact htoll
  | right =>
      obtain ⟨hlow, hhigh⟩ := m.random.between_bounds hdrawn
      have htoll := toll_dealt m.moved.2.1 hfits (by rw [hhealth']; exact hup.2) hblocks hlow hhigh
      rw [hblocking', Fighter.blocking_move, decide_eq_true_eq, hhealth'] at htoll
      rw [Seat.other, fighter, fighter, fighter, hright, m.fought.right.released_keeps.2.1, fought_right,
        ← hfires.1]
      exact htoll

/-! ### Frame after frame -/

/-- Nobody who is down goes into a fight, or on with it. -/
def Upright (m : Match) : Prop := m.Engaged → 0 < m.left.health.toInt ∧ 0 < m.right.health.toInt

theorem upright_step (hhealth : 0 < config.health.toInt) (h : m.Upright) : (m.step config).Upright := by
  by_cases hdone : m.phase = .finished
  · rwa [step_of_finished hdone]
  · obtain ⟨m', hadvances, hstep⟩ := step_advances config hdone
    rw [hstep]
    intro hengaged
    cases hadvances with
    | countsDown hphase => exact h (Or.inl hphase)
    | opens hphase => exact h (Or.inl hphase)
    | @fights fought hphase hfought hgoes =>
        -- a round goes on only if both are still standing
        simp only [roundEnds, Bool.or_eq_false_iff, decide_eq_false_iff_not, Int32.not_le,
          Int32.lt_iff_toInt_lt] at hgoes
        exact hgoes.1
    | decides => rcases hengaged with hno | hno <;> cases hno
    | pauses => rcases hengaged with hno | hno <;> cases hno
    | rests hphase =>
        have hstill : m.phase = .waiting ∨ m.phase = .fighting := hengaged
        rw [hphase] at hstill
        rcases hstill with hno | hno <;> cases hno
    | begins => exact ⟨hhealth, hhealth⟩

/-- A frame begins the next round, or it stays in the round; a round that was begun is not begun again, and
a fight that is over is not taken up. -/
theorem round_step (config : Config) (h : Ticking config m) :
    (m.step config).round.toNat = m.round.toNat + 1 ∨
    ((m.step config).round = m.round ∧ (m.phase ≠ .waiting → (m.step config).phase ≠ .waiting ∧
      ((m.step config).phase = .fighting → m.phase = .fighting))) := by
  by_cases hdone : m.phase = .finished
  · rw [step_of_finished hdone]
    exact Or.inr ⟨rfl, fun hbegun => ⟨hbegun, id⟩⟩
  · obtain ⟨m', hadvances, hstep⟩ := step_advances config hdone
    rw [hstep]
    have hround := m.round_fought
    have hphase := m.phase_fought
    cases hadvances with
    | countsDown hwaits => exact Or.inr ⟨rfl, fun hbegun => absurd hwaits hbegun⟩
    | opens hwaits => exact Or.inr ⟨rfl, fun hbegun => absurd hwaits hbegun⟩
    | fights hfights hfought =>
        rw [hfought] at hround hphase
        exact Or.inr ⟨hround, fun hbegun => ⟨fun hwaits => hbegun (hphase.symm.trans hwaits),
          fun _ => hfights⟩⟩
    | decides _ hfought =>
        rw [hfought] at hround
        exact Or.inr ⟨hround, fun _ => ⟨nofun, nofun⟩⟩
    | pauses _ hfought =>
        rw [hfought] at hround
        exact Or.inr ⟨hround, fun _ => ⟨nofun, nofun⟩⟩
    | rests => exact Or.inr ⟨rfl, fun hbegun => ⟨hbegun, id⟩⟩
    | begins hrests => exact Or.inl (toNat_succ_round (h.roundOver hrests).2)

/-- A match so many frames after an attack was fired in a round. While the round is fought on, the cooldown
and these frames add up to the cooldown of the attack, in frames to come. -/
structure Cooling (seat : Seat) (a : Attack) (round : UInt32) (frames : Nat) (m : Match) : Prop where
  later : round.toNat ≤ m.round.toNat
  begun : m.round = round → m.phase ≠ .waiting
  left : m.round = round → m.phase = .fighting → frames ≤ a.cooldown.toNat →
    (m.fighter seat).cooldown.toNat + frames = a.cooldown.toNat + 1

theorem Cooling.fires_nothing {seat : Seat} {a : Attack} {frames : Nat}
    (h : Cooling seat a m.round frames m) (hwaits : frames < a.cooldown.toNat) :
    m.fires? seat = none := by
  unfold fires?
  by_cases hphase : m.phase = .fighting
  · have hleft := h.left rfl hphase (Nat.le_of_lt hwaits)
    rw [if_pos hphase, Option.eq_none_iff_forall_ne_some]
    intro b hfires
    have hrested : (m.fighter seat).cooldown.toNat ≤ 1 := (Fighter.move_fires_iff.mp hfires).2.1
    omega
  · exact if_neg hphase

theorem cooling_fires {seat : Seat} {a : Attack} (h : Ticking config m) (hfires : m.fires? seat = some a) :
    Cooling seat a m.round 1 (m.step config) := by
  have hphase := fighting_of_fires hfires
  have hcooldown := cooldown_step config hphase seat
  rw [hfires] at hcooldown
  rcases round_step config h with hnext | ⟨hsame, hgoes⟩
  · refine ⟨by omega, fun hround => ?_, fun hround => ?_⟩ <;>
      · rw [hround] at hnext
        omega
  · have hbegun := (hgoes (by simp [hphase])).1
    exact ⟨Nat.le_of_eq (congrArg UInt32.toNat hsame.symm), fun _ => hbegun,
      fun _ _ _ => by rw [hcooldown]⟩

/-- One frame more. -/
theorem cooling_step {seat : Seat} {a : Attack} {round : UInt32} {frames : Nat} (hticking : Ticking config m)
    (h : Cooling seat a round frames m) : Cooling seat a round (frames + 1) (m.step config) := by
  have hlater := h.later
  rcases round_step config hticking with hnext | ⟨hsame, hgoes⟩
  · refine ⟨by omega, fun hround => ?_, fun hround => ?_⟩ <;>
      · rw [hround] at hnext
        omega
  · refine ⟨by rwa [hsame], fun hround => ?_, fun hround hfights hwaits => ?_⟩
    · exact (hgoes (h.begun (hsame.symm.trans hround))).1
    · -- he has been waiting in this frame, so it only takes one from his cooldown
      have hround' : m.round = round := hsame.symm.trans hround
      have hphase := (hgoes (h.begun hround')).2 hfights
      have hleft := h.left hround' hphase (by omega)
      have hcooldown := cooldown_step config hphase seat
      subst hround'
      rw [h.fires_nothing (by omega)] at hcooldown
      rw [hcooldown, toNat_countDown]
      omega

/-! ### Inputs between the frames -/

theorem cooling_pressing {seat : Seat} {a : Attack} {round : UInt32} {frames : Nat} (left right : Buttons)
    (h : Cooling seat a round frames m) : Cooling seat a round frames (m.pressing left right) := by
  have hcooldown : ((m.pressing left right).fighter seat).cooldown = (m.fighter seat).cooldown := by
    cases seat <;> rfl
  exact ⟨h.later, h.begun, by rw [hcooldown]; exact h.left⟩

end Match

namespace DuelEngine

variable {config : Config} {e : DuelEngine}

/-- A call sets what a fighter holds, or makes one step. -/
theorem make_pressing (config : Config) (m : Match) (c : EngineCall) :
    let after := (EngineCall.make (⟨config, some m⟩ : DuelEngine) c).2
    (∃ left right, c ≠ .step ∧ after = ⟨config, some (m.pressing left right)⟩) ∨
      (c = .step ∧ after = ⟨config, some (m.step config)⟩) := by
  intro after
  cases c with
  | step => exact Or.inr ⟨rfl, rfl⟩
  | setInput player buttons =>
      left
      show ∃ left right, EngineCall.setInput player buttons ≠ .step ∧
        (EngineCall.make (⟨config, some m⟩ : DuelEngine) (.setInput player buttons)).2
          = ⟨config, some (m.pressing left right)⟩
      have hinput : EngineCall.setInput player buttons ≠ .step := by simp
      simp only [EngineCall.make, Engine.setInput, setInput, Match.updateFighter?]
      by_cases hleft : m.left.id = player
      · rw [if_pos hleft]
        exact ⟨buttons, m.right.input, hinput, rfl⟩
      · rw [if_neg hleft]
        by_cases hright : m.right.id = player
        · rw [if_pos hright]
          exact ⟨m.left.input, buttons, hinput, rfl⟩
        · rw [if_neg hright]
          exact ⟨m.left.input, m.right.input, hinput, rfl⟩

/-- An engine with nobody down who is to fight. -/
def Standing (config : Config) (e : DuelEngine) : Prop := ∃ m, e = ⟨config, some m⟩ ∧ m.Upright

theorem standing_after (hhealth : 0 < config.health.toInt) (h : Standing config e)
    (calls : List EngineCall) : Standing config (Run.after EngineCall.make e calls) := by
  refine Run.after_invariant (Standing config) (fun _ => True) (fun e c _ he => ?_) (fun _ _ => trivial) h
  obtain ⟨m, rfl, hm⟩ := he
  rcases make_pressing config m c with ⟨left, right, -, hmake⟩ | ⟨-, hmake⟩
  · rw [hmake]
    exact ⟨m.pressing left right, rfl, hm⟩
  · rw [hmake]
    exact ⟨m.step config, rfl, Match.upright_step hhealth hm⟩

theorem ticking_step (hconfig : config.isPositive = true) {m : Match} (h : m.Ticking config) :
    (m.step config).Ticking config := by
  by_cases hdone : m.phase = .finished
  · rwa [Match.step_of_finished hdone]
  · exact (Match.step_ticks h hdone (Config.roundFrames_pos hconfig)).2.ticking

/-- After any calls an attack has been cooling for as many frames as there were steps. -/
theorem cooling_after (hconfig : config.isPositive = true) {m : Match} (hticking : m.Ticking config)
    {seat : Seat} {a : Attack} {round : UInt32} {frames : Nat} (h : m.Cooling seat a round frames)
    (calls : List EngineCall) :
    ∃ m', Run.after EngineCall.make (⟨config, some m⟩ : DuelEngine) calls = ⟨config, some m'⟩ ∧
      m'.Cooling seat a round (frames + calls.count .step) := by
  induction calls generalizing m frames with
  | nil => exact ⟨m, rfl, h⟩
  | cons c rest ih =>
      rw [Run.after_cons]
      rcases make_pressing config m c with ⟨left, right, hc, hmake⟩ | ⟨rfl, hmake⟩
      · have hsame : (m.pressing left right).Ticking config :=
          Match.ticking_of_onlyFighters rfl hticking
        rw [hmake, List.count_cons_of_ne hc]
        exact ih hsame (Match.cooling_pressing left right h)
      · obtain ⟨m', hm', hcooling⟩ := ih (ticking_step hconfig hticking) (Match.cooling_step hticking h)
        rw [Nat.add_assoc, Nat.add_comm 1] at hcooling
        rw [hmake, List.count_cons_self]
        exact ⟨m', hm', hcooling⟩

/-- **Attacks are limited.** Whatever is called after the start: in a frame of fighting a fighter fires just
if he does not block, his cooldown has run out and he holds some attack, and then the strongest one that he
holds; and he loses what the attack of the other can cost him. From an attack on, he fires nothing in the
frames of that round before its cooldown is over, and may fire again right then. -/
theorem attacks_are_limited {options : Json} {config : Config}
    (hoptions : Config.ofOptions options = .ok config) (engine : DuelEngine)
    (hengine : engine.config = config) (left right : String) (seed : UInt64) (calls : List EngineCall) :
    let begun := Engine.start engine [left, right] seed
    let reached := Run.after EngineCall.make begun.2 calls
    begun.1 = .ok () ∧ ∃ m, reached.current = some m ∧
      Engine.step reached = (.ok (), { reached with current := some (m.step config) }) ∧
      ∀ seat : Seat,
        (m.phase = .fighting →
          (m.fires? seat ≠ none ↔
            ¬ (m.fighter seat).WillBlock ∧ (m.fighter seat).Rested ∧ ∃ a, (m.fighter seat).Holds a) ∧
          Toll (m.fires? seat.other) (apart (m.step config).left (m.step config).right)
            (m.fighter seat).WillBlock
            ((m.fighter seat).health.toInt - ((m.step config).fighter seat).health.toInt)) ∧
        ∀ a, m.fires? seat = some a →
          ((m.fighter seat).Holds a ∧ (∀ b, (m.fighter seat).Holds b → b.damage ≤ a.damage) ∧
            ((m.step config).fighter seat).cooldown = a.cooldown) ∧
          ∀ more : List EngineCall, ∃ m',
            (Run.after EngineCall.make reached (.step :: more)).current = some m' ∧
            (m'.round = m.round →
              (1 + more.count .step < a.cooldown.toNat → m'.fires? seat = none) ∧
              (1 + more.count .step = a.cooldown.toNat → m'.phase = .fighting →
                (m'.fighter seat).Rested)) := by
  intro begun reached
  subst hengine
  have hconfig := Config.isPositive_of_ofOptions hoptions
  have hhealth := Config.health_pos hconfig
  let first := Match.begin engine.config left right seed
  have hbounds : InBounds engine.config first begun.2 :=
    ⟨first, rfl, Match.ticking_begin _ left right seed,
      Match.placed_fresh (Config.health_nonneg hconfig) left right, .refl first⟩
  obtain ⟨m, hreached, hticking, hplaced, -⟩ : InBounds engine.config first reached :=
    inBounds_after hconfig hbounds calls
  have hupright : m.Upright := by
    have hfirst : Standing engine.config begun.2 := ⟨first, rfl, fun _ => ⟨hhealth, hhealth⟩⟩
    obtain ⟨m', hreached', hm'⟩ : Standing engine.config reached := standing_after hhealth hfirst calls
    obtain rfl : m = m' := by simpa using hreached.symm.trans hreached'
    exact hm'
  refine ⟨rfl, m, by rw [hreached], by rw [hreached]; rfl, fun seat => ⟨fun hphase => ⟨?_, ?_⟩, ?_⟩⟩
  · rw [Match.fires?_of_fighting hphase]
    constructor
    · intro hfires
      obtain ⟨a, ha⟩ := Option.ne_none_iff_exists'.mp hfires
      obtain ⟨hfree, hrested, hheld, -⟩ := Fighter.move_fires_iff.mp ha
      exact ⟨hfree, hrested, a, hheld⟩
    · intro hmay
      obtain ⟨hfree, hrested, hsome⟩ := hmay
      obtain ⟨a, hstrongest⟩ := Fighter.exists_strongest hsome
      rw [Fighter.move_fires_iff.mpr ⟨hfree, hrested, hstrongest⟩]
      exact Option.some_ne_none a
  · exact Match.toll_step engine.config hphase hplaced (hupright (Or.inr hphase)) seat
  · intro a hfires
    have hphase := Match.fighting_of_fires hfires
    have hcooldown := Match.cooldown_step engine.config hphase seat
    have hcooling := Match.cooling_fires hticking hfires
    rw [hfires] at hcooldown
    refine ⟨?_, fun more => ?_⟩
    · rw [Match.fires?_of_fighting hphase] at hfires
      obtain ⟨-, -, hheld, hstrongest⟩ := Fighter.move_fires_iff.mp hfires
      exact ⟨hheld, hstrongest, hcooldown⟩
    · obtain ⟨m', hm', hlater⟩ := cooling_after hconfig (ticking_step hconfig hticking) hcooling more
      have hmore : Run.after EngineCall.make reached (.step :: more) = ⟨engine.config, some m'⟩ := by
        rw [hreached]
        exact hm'
      refine ⟨m', by rw [hmore], fun hround => ⟨fun hwaits => ?_, fun hover hfights => ?_⟩⟩
      · rw [← hround] at hlater
        exact hlater.fires_nothing hwaits
      · have hleft := hlater.left hround hfights (Nat.le_of_eq hover)
        unfold Fighter.Rested
        omega

/-- The fighters have met, and the second one blocks the heavy attack of the first. It costs him a quarter,
and twenty-two frames later the first one cannot fire it again, though he holds its button. -/
theorem attacks_are_limited_by_block_and_cooldown :
    let options : Json := .obj [("round_seconds", .nat 5)]
    let engine : DuelEngine := { config := { roundSeconds := 5 } }
    let approach : List EngineCall := [.setInput "a" .moveRight, .setInput "b" .moveLeft, .step]
    let calls := List.replicate 60 .step ++ (List.replicate 21 approach).flatten
      ++ [.setInput "a" .attack2, .setInput "b" .moveDown]
    let more := List.replicate 22 .step ++ [.setInput "a" .attack2]
    let reached := Run.after EngineCall.make (Engine.start engine ["a", "b"] 7).2 calls
    Config.ofOptions options = .ok engine.config ∧ ∃ m, reached.current = some m ∧
      m.phase = .fighting ∧ m.fires? .left = some .heavy ∧ m.right.WillBlock ∧
      (1 ≤ m.right.health.toInt - (m.step engine.config).right.health.toInt ∧
        m.right.health.toInt - (m.step engine.config).right.health.toInt ≤ 2) ∧
      ∃ m', (Run.after EngineCall.make reached (.step :: more)).current = some m' ∧
        m'.left.Holds .heavy ∧ m'.fires? .left = none := by
  intro options engine approach calls more reached
  have hoptions : Config.ofOptions options = .ok engine.config := rfl
  obtain ⟨-, m, hm, -, hseats⟩ := attacks_are_limited hoptions engine rfl "a" "b" 7 calls
  have hshown : reached.current.map (fun m => (m.phase, m.fires? .left, decide m.right.WillBlock,
      decide (apart (m.step engine.config).left (m.step engine.config).right ≤ 131072), m.round))
        = some (.fighting, some .heavy, true, true, 1) := by
    decide +kernel
  rw [hm] at hshown
  obtain ⟨hphase, hfires, hblock, hnear, hround⟩ : m.phase = .fighting ∧ m.fires? .left = some .heavy ∧
      decide m.right.WillBlock = true ∧
      decide (apart (m.step engine.config).left (m.step engine.config).right ≤ 131072) = true ∧
      m.round = 1 := by
    simpa only [Option.map_some, Option.some.injEq, Prod.mk.injEq] using hshown
  obtain ⟨-, htoll⟩ := (hseats .right).1 hphase
  have hleast := htoll.felt .heavy hfires (Int.ofNat_le.mpr (of_decide_eq_true hnear))
  have hmost := htoll.blocked .heavy hfires (of_decide_eq_true hblock)
  obtain ⟨-, hcools⟩ := (hseats .left).2 .heavy hfires
  obtain ⟨m', hm', hwaits⟩ := hcools more
  have hlater : (Run.after EngineCall.make reached (.step :: more)).current.map
      (fun m => (m.round, decide (m.left.Holds .heavy))) = some (1, true) := by
    decide +kernel
  rw [hm'] at hlater
  obtain ⟨hround', hholds⟩ : m'.round = 1 ∧ decide (m'.left.Holds .heavy) = true := by
    simpa only [Option.map_some, Option.some.injEq, Prod.mk.injEq] using hlater
  exact ⟨hoptions, m, hm, hphase, hfires, of_decide_eq_true hblock, ⟨hleast, hmost⟩, m', hm',
    of_decide_eq_true hholds, (hwaits (hround'.trans hround.symm)).1 (by decide)⟩

end DuelEngine

end Arcade.Duel
