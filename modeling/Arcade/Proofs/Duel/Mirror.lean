import Arcade.Proofs.Duel.Resume
import Arcade.Proofs.Duel.Counted
/-!
# The mirror image of a fight

In the mirror image of a match the two fighters have changed seats; what points to the left points to the
right, and so do the buttons. Everything that a fighter does in a frame goes the other way in the mirror
(`Fighter.move_mirrored`), distances are the same, and the end of a round does not ask who sits where
(`Match.endRound_mirrored`). So a frame of fighting could be told from its mirror image by nothing but
the bonuses, which are drawn for the first seat first.

`Match.fightWith` is a frame of fighting that is given the bonuses, and `Match.fight_eq_fightWith` finds
it in the frame that draws them. With the same bonus for the same attacker, the mirror image of a frame is
the frame of the mirror image (`seat_order_decides_nothing`); if only one attack connects, there is only
one bonus to draw, so this is so with the same generator.
-/

namespace Arcade

namespace Live.Buttons

/-- The buttons with left and right exchanged. -/
def mirrored (b : Buttons) : Buttons :=
  let sides := (if b.contains moveLeft then moveRight else none).union
    (if b.contains moveRight then moveLeft else none)
  sides.union ⟨b.bits &&& ~~~(moveLeft.bits ||| moveRight.bits)⟩

/-- The buttons that point to no side. -/
def upright : List Buttons := [moveUp, moveDown, attack1, attack2, jump, special]

theorem contains_mirrored (b : Buttons) :
    b.mirrored.contains moveLeft = b.contains moveRight ∧
      b.mirrored.contains moveRight = b.contains moveLeft ∧
      ∀ button ∈ upright, b.mirrored.contains button = b.contains button := by
  have hall : ∀ i : Fin 256, let b : Buttons := ⟨UInt8.ofFin i⟩
      b.mirrored.contains moveLeft = b.contains moveRight ∧
        b.mirrored.contains moveRight = b.contains moveLeft ∧
        ∀ button ∈ upright, b.mirrored.contains button = b.contains button := by
    decide +kernel
  exact hall b.bits.toFin

theorem contains_mirrored_of_upright (b : Buttons) {button : Buttons} (h : button ∈ upright) :
    b.mirrored.contains button = b.contains button :=
  b.contains_mirrored.2.2 button h

end Live.Buttons

namespace Fixed

/-- A number is as far from zero as its opposite. -/
theorem abs_neg (x : Fixed) : abs (-x) = abs x := by
  by_cases hmin : x = Int32.minValue
  · -- the least number is its own opposite
    rw [hmin]
    rfl
  · have hlow := x.le_toInt
    have hne : x.toInt ≠ -2147483648 := by
      intro heq
      exact hmin (Int32.toInt_inj.mp heq)
    have hfits : Checked.Fits (-x.toInt) := by
      have hhigh := x.toInt_lt
      constructor <;> omega
    have hneg : (-x).toInt = -x.toInt := Checked.toInt_neg_of_fits hfits
    have hopposite : Checked.Fits (-(-x).toInt) := by
      rw [hneg, Int.neg_neg]
      exact ⟨x.le_toInt, x.toInt_lt⟩
    rw [← Int32.toInt_inj, toInt_abs hfits, toInt_abs hopposite, hneg]
    omega

end Fixed

namespace Duel

open Live Checked

namespace Fighter

variable {f : Fighter}

/-- The mirror image of a fighter. -/
def mirrored (f : Fighter) : Fighter :=
  { f with x := -f.x, velX := -f.velX, facing := -f.facing, input := f.input.mirrored }

/-- Whether a fighter is within the walls of the arena. -/
def InArena (f : Fighter) : Prop :=
  -arenaHalfWidth.toInt ≤ f.x.toInt ∧ f.x.toInt ≤ arenaHalfWidth.toInt

theorem InArena.toInt_neg (h : f.InArena) : (-f.x).toInt = -f.x.toInt := by
  obtain ⟨hlow, hhigh⟩ := h
  rw [toInt_arenaHalfWidth] at hlow hhigh
  exact toInt_neg_of_fits ⟨by omega, by omega⟩

/-! ### Movement -/

theorem ready_mirrored (f : Fighter) : f.mirrored.ready = f.ready.mirrored := by
  have hdown : f.mirrored.input.contains .moveDown = f.input.contains .moveDown :=
    f.input.contains_mirrored_of_upright (by decide)
  have hground : f.mirrored.grounded = f.grounded := rfl
  unfold ready
  rw [hdown, hground]
  rfl

theorem direction_mirrored (b : Buttons) : direction b.mirrored = -direction b := by
  obtain ⟨hleft, hright, -⟩ := b.contains_mirrored
  unfold direction
  rw [hleft, hright, Int32.neg_sub]

theorem wantsJump_mirrored (b : Buttons) : wantsJump b.mirrored = wantsJump b := by
  unfold wantsJump
  rw [b.contains_mirrored_of_upright (by decide), b.contains_mirrored_of_upright (by decide)]

theorem steer_mirrored (f : Fighter) : f.mirrored.steer = f.steer.mirrored := by
  have hvelX : (if f.mirrored.blocking then (0 : Fixed)
      else direction f.mirrored.input * walkSpeed)
      = -(if f.blocking then 0 else direction f.input * walkSpeed) := by
    have hinput : direction f.mirrored.input = -direction f.input := direction_mirrored f.input
    rw [hinput, Int32.neg_mul]
    by_cases hblocking : f.blocking = true
    · rw [if_pos hblocking]
      exact if_pos hblocking
    · rw [if_neg hblocking]
      exact if_neg hblocking
  have hjump : (f.mirrored.grounded && !f.mirrored.blocking && wantsJump f.mirrored.input)
      = (f.grounded && !f.blocking && wantsJump f.input) :=
    congrArg (f.grounded && !f.blocking && ·) (wantsJump_mirrored f.input)
  rw [steer_eq, steer_eq, hvelX, hjump]
  rfl

theorem fly_mirrored (f : Fighter) : f.mirrored.fly = f.fly.mirrored := by
  have haloft : (!f.mirrored.grounded || decide (0 < f.mirrored.velY))
      = (!f.grounded || decide (0 < f.velY)) := rfl
  unfold fly
  rw [haloft]
  by_cases hfly : (!f.grounded || decide (0 < f.velY)) = true
  · rw [if_pos hfly, if_pos hfly]
    by_cases hland : f.y + f.velY ≤ 0
    · rw [if_pos hland]
      exact if_pos hland
    · rw [if_neg hland]
      exact if_neg hland
  · rw [if_neg hfly, if_neg hfly]

theorem inArena_walk (f : Fighter) : f.walk.InArena := by
  have hx : f.walk.x.toInt = min (max (f.x + f.velX).toInt (-arenaHalfWidth).toInt)
      arenaHalfWidth.toInt := Fixed.toInt_clamp _ _ _
  have hwall : (-arenaHalfWidth).toInt = -524288 := rfl
  unfold InArena
  rw [hx, hwall, toInt_arenaHalfWidth]
  omega

/-- A walk to one wall of the arena is the mirror image of a walk to the other, as long as it fits. -/
theorem walk_mirrored (h : Fits (f.x.toInt + f.velX.toInt) ∧ Fits (-(f.x.toInt + f.velX.toInt))) :
    f.mirrored.walk = f.walk.mirrored := by
  obtain ⟨hsum, hneg⟩ := h
  have hto : (f.x + f.velX).toInt = f.x.toInt + f.velX.toInt := toInt_add_of_fits hsum
  have hopposite : (-(f.x + f.velX)).toInt = -(f.x.toInt + f.velX.toInt) := by
    rw [toInt_neg_of_fits (by rwa [hto]), hto]
  have hwall : (-arenaHalfWidth).toInt = -524288 := rfl
  -- the walls are as far from the centre on either side
  have hx : Fixed.clamp (-(f.x + f.velX)) (-arenaHalfWidth) arenaHalfWidth
      = -Fixed.clamp (f.x + f.velX) (-arenaHalfWidth) arenaHalfWidth := by
    have hwalked : (-f.walk.x).toInt = -f.walk.x.toInt := f.inArena_walk.toInt_neg
    rw [walk] at hwalked
    rw [← Int32.toInt_inj, hwalked, Fixed.toInt_clamp, Fixed.toInt_clamp, hopposite, hto, hwall,
      toInt_arenaHalfWidth]
    omega
  have hsplit : -f.x + -f.velX = -(f.x + f.velX) := by
    rw [Int32.neg_add, Int32.sub_eq_add_neg]
  simp only [walk, mirrored, hsplit, hx]

theorem attack?_mirrored (f : Fighter) : f.mirrored.attack? = f.attack? := by
  have hheld : ∀ a : Attack, f.input.mirrored.contains a.button = f.input.contains a.button :=
    fun a => f.input.contains_mirrored_of_upright (by cases a <;> decide)
  simp only [attack?, mirrored, hheld]

/-- In the mirror a fighter moves the other way, and fires the same attack. -/
theorem move_mirrored (h : f.InArena) : f.mirrored.move = (f.move.1.mirrored, f.move.2) := by
  have hfits : Fits (f.ready.steer.fly.x.toInt + f.ready.steer.fly.velX.toInt) ∧
      Fits (-(f.ready.steer.fly.x.toInt + f.ready.steer.fly.velX.toInt)) := by
    -- from within the arena no step is too long to be negated
    obtain ⟨hslow, hfast⟩ := f.ready.velX_steer_bounds
    obtain ⟨hlow, hhigh⟩ := h
    have hx : f.ready.steer.fly.x = f.x := by rw [x_fly, x_steer, ready]
    rw [hx, velX_fly]
    rw [toInt_walkSpeed] at hslow hfast
    rw [toInt_arenaHalfWidth] at hlow hhigh
    constructor <;> constructor <;> omega
  have hwalked : f.mirrored.ready.steer.fly.walk = f.ready.steer.fly.walk.mirrored := by
    rw [ready_mirrored, steer_mirrored, fly_mirrored, walk_mirrored hfits]
  unfold move
  rw [hwalked]
  generalize f.ready.steer.fly.walk = walked
  dsimp only
  rw [attack?_mirrored]
  cases walked.attack? with
  | none => rfl
  | some a => rfl

theorem inArena_move (f : Fighter) : f.move.1.InArena := by
  have hwalked := f.ready.steer.fly.inArena_walk
  unfold InArena at hwalked ⊢
  rwa [f.samePlace_move.1.x]

/-! ### Blows -/

theorem hurt_mirrored (f : Fighter) (damage : Int32) :
    f.mirrored.hurt damage = (f.hurt damage).mirrored := by
  unfold hurt
  by_cases hdamage : 0 < damage
  · rw [if_pos hdamage, if_pos hdamage]
    by_cases hblocking : f.blocking = true
    · rw [if_pos hblocking]
      exact if_pos hblocking
    · rw [if_neg hblocking]
      exact if_neg hblocking
  · rw [if_neg hdamage, if_neg hdamage]

theorem settle_mirrored (f : Fighter) : f.mirrored.settle = f.settle.mirrored := by
  simp only [settle, mirrored, grounded, Int32.neg_ne_zero]
  split
  · rfl
  · split <;> rfl

end Fighter

namespace Match

variable {config : Config} {m : Match} {f g : Fighter}

/-- The mirror image of a match: the two fighters have changed seats, and sides. -/
def mirrored (m : Match) : Match :=
  { m with left := m.right.mirrored, right := m.left.mirrored }

/-! ### Two fighters in the mirror -/

theorem separate_mirrored (before after : Fighter × Fighter) :
    separate (before.2.mirrored, before.1.mirrored) (after.2.mirrored, after.1.mirrored)
      = ((separate before after).2.mirrored, (separate before after).1.mirrored) := by
  have hdistance : after.2.mirrored.x - after.1.mirrored.x = after.1.x - after.2.x := by
    simp only [Fighter.mirrored]
    rw [Int32.sub_neg, Int32.add_comm, ← Int32.sub_eq_add_neg]
  simp only [separate, hdistance]
  split <;> rfl

theorem face_mirrored (hf : f.InArena) (hg : g.InArena) : face (g.mirrored, f.mirrored)
    = ((face (f, g)).2.mirrored, (face (f, g)).1.mirrored) := by
  have hsame : g.mirrored.x ≤ f.mirrored.x ↔ f.x ≤ g.x := by
    simp only [Fighter.mirrored]
    rw [Int32.le_iff_toInt_le, Int32.le_iff_toInt_le, hf.toInt_neg, hg.toInt_neg]
    omega
  simp only [face, hsame]
  split <;> rfl

theorem inArena_separate (before after : Fighter × Fighter) (hbefore : before.1.InArena)
    (hbefore' : before.2.InArena) (hafter : after.1.InArena) (hafter' : after.2.InArena) :
    (separate before after).1.InArena ∧ (separate before after).2.InArena := by
  unfold separate
  split
  · exact ⟨hbefore, hbefore'⟩
  · exact ⟨hafter, hafter'⟩

/-- In the mirror both fighters move the other way. -/
theorem moved_mirrored (hleft : m.left.InArena) (hright : m.right.InArena) : m.mirrored.moved =
    ((m.moved.1.2.mirrored, m.moved.1.1.mirrored), m.moved.2.2, m.moved.2.1) := by
  obtain ⟨hin, hin'⟩ := inArena_separate (m.left, m.right) (m.left.move.1, m.right.move.1) hleft hright
    m.left.inArena_move m.right.inArena_move
  have hseparate := separate_mirrored (m.left, m.right) (m.left.move.1, m.right.move.1)
  rw [moved_eq, moved_eq, mirrored]
  dsimp only at hseparate ⊢
  rw [Fighter.move_mirrored hleft, Fighter.move_mirrored hright]
  dsimp only
  rw [hseparate, face_mirrored hin hin']

theorem connects_mirrored (a : Attack) (f g : Fighter) :
    connects a f.mirrored g.mirrored = connects a f g := by
  have hdistance : f.mirrored.x - g.mirrored.x = -(f.x - g.x) := by
    simp only [Fighter.mirrored]
    rw [Int32.neg_sub, Int32.sub_neg, Int32.add_comm, ← Int32.sub_eq_add_neg]
  unfold connects
  rw [hdistance, Fixed.abs_neg]
  rfl

theorem blow_mirrored (a : Attack) (f g : Fighter) (bonus : Int32) :
    blow a f.mirrored g.mirrored bonus = blow a f g bonus := by
  have hblocks : blocks f.mirrored g.mirrored = blocks f g := by
    have hfacing : (-g.facing == - -f.facing) = (g.facing == -f.facing) := by
      rw [Bool.eq_iff_iff, beq_iff_eq, beq_iff_eq, Int8.neg_inj]
    simp only [blocks, Fighter.mirrored, hfacing]
  simp only [blow, hblocks]

/-! ### The end of a round in the mirror -/

/-- The winner of a round is known by his name, wherever he sits. -/
theorem roundWinner?_mirrored (m : Match) : m.mirrored.roundWinner? = m.roundWinner? := by
  simp only [roundWinner?, mirrored, Fighter.mirrored]
  by_cases hless : m.right.health < m.left.health
  · simp only [hless, Int32.lt_asymm hless, if_true, if_false]
  · simp only [hless, if_false]

theorem random_endRound (config : Config) (m : Match) : (m.endRound config).random = m.random := by
  rcases endRound_cases config m with hend | ⟨-, -, hend⟩ <;> rw [hend]

/-- The end of a round asks the fighters for nothing but who has won it. -/
theorem endRound_congr (config : Config) {left right : Fighter} {random : Generator}
    (h : ({ m with left := left, right := right, random := random } : Match).winsAfter = m.winsAfter) :
    ({ m with left := left, right := right, random := random } : Match).endRound config
      = { m.endRound config with left := left, right := right, random := random } := by
  rw [endRound_eq, endRound_eq, h]
  cases decided? config m.winsAfter with
  | some p => rfl
  | none =>
      by_cases hlast : maxRounds ≤ m.round
      · simp only [hlast, if_true]
      · simp only [hlast, if_false]

theorem endRound_mirrored (config : Config) (m : Match) :
    m.mirrored.endRound config = (m.endRound config).mirrored := by
  have hwins : m.mirrored.winsAfter = m.winsAfter := by
    unfold winsAfter
    rw [roundWinner?_mirrored]
    rfl
  obtain ⟨hleft, hright, -⟩ := fighters_endRound config m
  have hend : m.mirrored.endRound config = { m.endRound config with
      left := m.right.mirrored, right := m.left.mirrored, random := m.random } :=
    endRound_congr config hwins
  rw [hend, mirrored, hleft, hright, ← random_endRound config m]

theorem roundEnds_mirrored (m : Match) : m.mirrored.roundEnds = m.roundEnds :=
  congrArg (· || decide (m.timerFrames = 0))
    (Bool.or_comm (decide (m.right.health ≤ 0)) (decide (m.left.health ≤ 0)))

/-! ### A frame of fighting with given bonuses -/

/-- The damage of an attack, if there is one, that is given its bonus. -/
def dealt (attack : Option Attack) (attacker defender : Fighter) (bonus : Int32) : Int32 :=
  match attack with
  | none => 0
  | some a => if connects a attacker defender then blow a attacker defender bonus else 0

/-- A match after the exchange of a frame of fighting, with a bonus for either attacker. -/
def foughtWith (leftBonus rightBonus : Int32) (m : Match) : Match :=
  { m with
    left := (m.moved.1.1.hurt (dealt m.moved.2.2 m.moved.1.2 m.moved.1.1 rightBonus)).settle
    right := (m.moved.1.2.hurt (dealt m.moved.2.1 m.moved.1.1 m.moved.1.2 leftBonus)).settle
    timerFrames := countDown m.timerFrames }

/-- One frame of fighting, with a bonus for either attacker. -/
def fightWith (config : Config) (leftBonus rightBonus : Int32) (m : Match) : Match :=
  let fought := m.foughtWith leftBonus rightBonus
  if fought.roundEnds then fought.endRound config else fought

theorem dealt_mirrored (attack : Option Attack) (f g : Fighter) (bonus : Int32) :
    dealt attack f.mirrored g.mirrored bonus = dealt attack f g bonus := by
  cases attack with
  | none => rfl
  | some a => simp only [dealt, connects_mirrored, blow_mirrored]

theorem dealt_of_not_hits {attack : Option Attack} (h : hits attack f g = false) (bonus : Int32) :
    dealt attack f g bonus = 0 := by
  cases attack with
  | none => rfl
  | some a =>
      have hmiss : connects a f g = false := h
      simp only [dealt, hmiss, Bool.false_eq_true, if_false]

theorem foughtWith_mirrored (hleft : m.left.InArena) (hright : m.right.InArena)
    (leftBonus rightBonus : Int32) : m.mirrored.foughtWith rightBonus leftBonus
      = (m.foughtWith leftBonus rightBonus).mirrored := by
  unfold foughtWith
  rw [moved_mirrored hleft hright]
  generalize m.moved = moved
  simp only [dealt_mirrored, Fighter.hurt_mirrored, Fighter.settle_mirrored]
  rfl

/-- With the same bonus for the same attacker, a frame of fighting goes the other way in the mirror. -/
theorem fightWith_mirrored (config : Config) (hleft : m.left.InArena) (hright : m.right.InArena)
    (leftBonus rightBonus : Int32) : m.mirrored.fightWith config rightBonus leftBonus
      = (m.fightWith config leftBonus rightBonus).mirrored := by
  unfold fightWith
  rw [foughtWith_mirrored hleft hright]
  generalize m.foughtWith leftBonus rightBonus = fought
  simp only [roundEnds_mirrored, endRound_mirrored]
  split <;> rfl

/-! ### The bonuses that are drawn -/

/-- Whether the attack of the first seat connects in a frame of fighting. -/
def leftHits (m : Match) : Bool := hits m.moved.2.1 m.moved.1.1 m.moved.1.2

/-- Whether the attack of the second seat connects. -/
def rightHits (m : Match) : Bool := hits m.moved.2.2 m.moved.1.2 m.moved.1.1

/-- The generator once the attack of the first seat has been looked at. -/
def randomBetween (m : Match) : Generator :=
  if m.leftHits then (m.random.between 0 2).2 else m.random

/-- The generator after a frame of fighting. -/
def randomAfter (m : Match) : Generator :=
  if m.rightHits then (m.randomBetween.between 0 2).2 else m.randomBetween

/-- The bonus that is drawn for the first seat, if its attack connects. -/
def leftBonus (m : Match) : Int32 := (m.random.between 0 2).1

/-- The bonus that is drawn for the second seat, if its attack connects. -/
def rightBonus (m : Match) : Int32 := (m.randomBetween.between 0 2).1

theorem damageOf_eq (attack : Option Attack) (f g : Fighter) (random : Generator) :
    damageOf attack f g random = (dealt attack f g (random.between 0 2).1,
      if hits attack f g then (random.between 0 2).2 else random) := by
  cases attack with
  | none => rfl
  | some a =>
      have hhits : hits (some a) f g = connects a f g := rfl
      rw [hhits]
      simp only [damageOf, dealt]
      split <;> rfl

/-- The same match with another generator. -/
def withRandom (random : Generator) (m : Match) : Match :=
  { m with random := random }

theorem moved_withRandom (random : Generator) (m : Match) : (m.withRandom random).moved = m.moved := by
  rw [moved_eq, moved_eq, withRandom]

theorem foughtWith_withRandom (random : Generator) (leftBonus rightBonus : Int32) (m : Match) :
    (m.withRandom random).foughtWith leftBonus rightBonus
      = (m.foughtWith leftBonus rightBonus).withRandom random := by
  unfold foughtWith
  rw [moved_withRandom]
  generalize m.moved = moved
  rfl

theorem fought_eq_foughtWith (m : Match) :
    m.fought = (m.foughtWith m.leftBonus m.rightBonus).withRandom m.randomAfter := by
  unfold fought exchange foughtWith withRandom randomAfter rightBonus randomBetween leftBonus leftHits
    rightHits
  generalize m.moved = moved
  rw [damageOf_eq]
  dsimp only
  rw [damageOf_eq]

theorem endRound_withRandom (config : Config) (random : Generator) (m : Match) :
    (m.withRandom random).endRound config = (m.endRound config).withRandom random := by
  obtain ⟨hleft, hright, -⟩ := fighters_endRound config m
  have hend : (m.withRandom random).endRound config = { m.endRound config with
      left := m.left, right := m.right, random := random } :=
    endRound_congr config rfl
  rw [hend, ← hleft, ← hright, withRandom]

/-- A frame of fighting draws its bonuses, and nothing else. -/
theorem fight_eq_fightWith (config : Config) (m : Match) : m.fight config
    = (m.fightWith config m.leftBonus m.rightBonus).withRandom m.randomAfter := by
  have hfight : m.fight config = if m.fought.roundEnds then m.fought.endRound config else m.fought :=
    fight_eq config m
  rw [hfight, fought_eq_foughtWith, fightWith]
  generalize m.foughtWith m.leftBonus m.rightBonus = fought
  have hends : (fought.withRandom m.randomAfter).roundEnds = fought.roundEnds := rfl
  rw [hends, endRound_withRandom]
  exact (apply_ite (withRandom m.randomAfter) _ _ _).symm

theorem fightWith_withRandom (config : Config) (random : Generator) (leftBonus rightBonus : Int32)
    (m : Match) : (m.withRandom random).fightWith config leftBonus rightBonus
      = (m.fightWith config leftBonus rightBonus).withRandom random := by
  unfold fightWith
  rw [foughtWith_withRandom]
  generalize m.foughtWith leftBonus rightBonus = fought
  have hends : (fought.withRandom random).roundEnds = fought.roundEnds := rfl
  dsimp only
  rw [hends, endRound_withRandom]
  exact (apply_ite (withRandom random) _ _ _).symm

/-- The bonus of an attack that does not connect does not matter. -/
theorem fightWith_congr (config : Config) {leftBonus leftBonus' rightBonus rightBonus' : Int32}
    (hleft : m.leftHits = true → leftBonus' = leftBonus)
    (hright : m.rightHits = true → rightBonus' = rightBonus) :
    m.fightWith config leftBonus' rightBonus' = m.fightWith config leftBonus rightBonus := by
  have hdealt : dealt m.moved.2.1 m.moved.1.1 m.moved.1.2 leftBonus'
      = dealt m.moved.2.1 m.moved.1.1 m.moved.1.2 leftBonus := by
    cases hhits : m.leftHits with
    | true => rw [hleft hhits]
    | false =>
        -- an attack that misses does nothing, with either bonus
        rw [dealt_of_not_hits hhits, dealt_of_not_hits hhits]
  have hdealt' : dealt m.moved.2.2 m.moved.1.2 m.moved.1.1 rightBonus'
      = dealt m.moved.2.2 m.moved.1.2 m.moved.1.1 rightBonus := by
    cases hhits : m.rightHits with
    | true => rw [hright hhits]
    | false => rw [dealt_of_not_hits hhits, dealt_of_not_hits hhits]
  have hfought : m.foughtWith leftBonus' rightBonus' = m.foughtWith leftBonus rightBonus := by
    unfold foughtWith
    rw [hdealt, hdealt']
  rw [fightWith, fightWith, hfought]

/-! ### Who hits whom in the mirror -/

theorem hits_mirrored (attack : Option Attack) (f g : Fighter) :
    hits attack f.mirrored g.mirrored = hits attack f g := by
  simp only [hits, connects_mirrored]

theorem leftHits_mirrored (hleft : m.left.InArena) (hright : m.right.InArena) (random : Generator) :
    (m.mirrored.withRandom random).leftHits = m.rightHits := by
  unfold leftHits rightHits
  rw [moved_withRandom, moved_mirrored hleft hright]
  dsimp only
  rw [hits_mirrored]

theorem rightHits_mirrored (hleft : m.left.InArena) (hright : m.right.InArena) (random : Generator) :
    (m.mirrored.withRandom random).rightHits = m.leftHits := by
  unfold leftHits rightHits
  rw [moved_withRandom, moved_mirrored hleft hright]
  dsimp only
  rw [hits_mirrored]

/-- If the bonuses that are drawn in the mirror are those that were drawn for the same attackers, the frame
goes the other way there. -/
theorem fight_mirrored (config : Config) (hleft : m.left.InArena) (hright : m.right.InArena)
    {random : Generator}
    (hbonus : m.leftHits = true → (m.mirrored.withRandom random).rightBonus = m.leftBonus)
    (hbonus' : m.rightHits = true → (m.mirrored.withRandom random).leftBonus = m.rightBonus) :
    (m.mirrored.withRandom random).fight config
      = (m.fight config).mirrored.withRandom (m.mirrored.withRandom random).randomAfter := by
  -- the bonuses of attacks that miss may differ, but nothing asks for them
  have hhits := leftHits_mirrored hleft hright random
  have hhits' := rightHits_mirrored hleft hright random
  have hsame : (m.mirrored.withRandom random).fightWith config
      (m.mirrored.withRandom random).leftBonus (m.mirrored.withRandom random).rightBonus
      = (m.mirrored.withRandom random).fightWith config m.rightBonus m.leftBonus :=
    fightWith_congr config (fun h => hbonus' (hhits ▸ h)) (fun h => hbonus (hhits' ▸ h))
  rw [fight_eq_fightWith, hsame, fightWith_withRandom, fightWith_mirrored config hleft hright,
    fight_eq_fightWith config m]
  generalize m.fightWith config m.leftBonus m.rightBonus = fought
  rfl

/-- With one blow at most there is one bonus at most to draw, and both images draw it alike. -/
theorem draws_mirrored (hleft : m.left.InArena) (hright : m.right.InArena)
    (hone : ¬ (m.leftHits = true ∧ m.rightHits = true)) :
    (m.leftHits = true → (m.mirrored.withRandom m.random).rightBonus = m.leftBonus) ∧
      (m.rightHits = true → (m.mirrored.withRandom m.random).leftBonus = m.rightBonus) ∧
      (m.mirrored.withRandom m.random).randomAfter = m.randomAfter := by
  unfold randomAfter leftBonus rightBonus randomBetween
  rw [leftHits_mirrored hleft hright, rightHits_mirrored hleft hright]
  cases hhits : m.leftHits with
  | true =>
      have hmiss : m.rightHits = false := by
        rw [← Bool.not_eq_true]
        intro hhits'
        exact hone ⟨hhits, hhits'⟩
      rw [hmiss]
      exact ⟨fun _ => rfl, nofun, rfl⟩
  | false => exact ⟨nofun, fun _ => rfl, rfl⟩

/-- The order of the seats decides nothing. A frame of fighting is a function of the match and of the
bonuses, zero to two, of the attacks that connect; with the same bonus for the same attacker, the mirror
image of a match has the mirror image of its frame, whether the bonuses are given or drawn. If not more
than one attack connects, both draw from the same generator. -/
theorem seat_order_decides_nothing (config : Config) (m : Match) (hleft : m.left.InArena)
    (hright : m.right.InArena) :
    (m.fight config = (m.fightWith config m.leftBonus m.rightBonus).withRandom m.randomAfter ∧
      (0 ≤ m.leftBonus.toInt ∧ m.leftBonus.toInt ≤ 2) ∧
      0 ≤ m.rightBonus.toInt ∧ m.rightBonus.toInt ≤ 2) ∧
    (∀ leftBonus rightBonus : Int32, m.mirrored.fightWith config rightBonus leftBonus
      = (m.fightWith config leftBonus rightBonus).mirrored) ∧
    (∀ random : Generator,
      (m.leftHits = true → (m.mirrored.withRandom random).rightBonus = m.leftBonus) →
      (m.rightHits = true → (m.mirrored.withRandom random).leftBonus = m.rightBonus) →
      (m.mirrored.withRandom random).fight config
        = (m.fight config).mirrored.withRandom (m.mirrored.withRandom random).randomAfter) ∧
    (¬ (m.leftHits = true ∧ m.rightHits = true) →
      m.mirrored.fight config = (m.fight config).mirrored) := by
  have hdrawn : (0 : Int32) ≤ 2 := by decide
  refine ⟨⟨fight_eq_fightWith config m, m.random.between_bounds hdrawn,
    m.randomBetween.between_bounds hdrawn⟩, fightWith_mirrored config hleft hright, ?_, ?_⟩
  · intro random hbonus hbonus'
    exact fight_mirrored config hleft hright hbonus hbonus'
  · intro hone
    obtain ⟨hbonus, hbonus', hafter⟩ := draws_mirrored hleft hright hone
    have hsame : m.mirrored.withRandom m.random = m.mirrored := rfl
    have hfight := fight_mirrored config hleft hright hbonus hbonus'
    rw [hafter, hsame, fight_eq_fightWith config m] at hfight
    rw [hfight, fight_eq_fightWith config m]
    generalize m.fightWith config m.leftBonus m.rightBonus = fought
    rfl

/-- Two units apart, a heavy attack reaches the fighter of the other seat, whose light attack falls short. -/
def outranged : Match :=
  { left := { id := "a", x := -65536, health := 30, facing := 1, input := .attack2 }
    right := { id := "b", x := 65536, health := 9, facing := -1, input := .attack1 }
    phase := .fighting, round := 1, timerFrames := 600
    roundWins := [("a", 0), ("b", 1)], random := .ofSeed 7 }

/-- A knock-out from the first seat is one from the second seat in the mirror. -/
theorem seat_order_decides_nothing_of_outranged :
    (outranged.left.InArena ∧ outranged.right.InArena) ∧
      (outranged.leftHits = true ∧ outranged.rightHits = false) ∧
      (outranged.fight {}).phase = .roundOver ∧
      outranged.mirrored.fight {} = (outranged.fight {}).mirrored := by
  have hleft : outranged.left.InArena := by unfold Fighter.InArena; decide
  have hright : outranged.right.InArena := by unfold Fighter.InArena; decide
  have hhits : outranged.leftHits = true ∧ outranged.rightHits = false := by decide +kernel
  have hone : ¬ (outranged.leftHits = true ∧ outranged.rightHits = true) := by
    rw [hhits.2]
    exact fun h => absurd h.2 Bool.false_ne_true
  obtain ⟨-, -, -, hmirror⟩ := seat_order_decides_nothing {} outranged hleft hright
  exact ⟨⟨hleft, hright⟩, hhits, by decide +kernel, hmirror hone⟩

end Match

end Duel

end Arcade
