import Arcade.Proofs.Duel.Clock
import Arcade.Proofs.Dict
/-!
# Going on from a frame

An engine that is taken to a frame becomes the match that the frame was shown by, but for what frames
do not show: `Match.rewound` is that match, and `resumeEngine_frameOf` says so of every match of two
players in their seats (`Seats`).

What is lost is a countdown or an intermission under way, which begins again, the timers of the
fighters, and the generator of the damage. Two matches that differ in no more than a frame hides, and
whose clocks and fighters agree where they matter (`Alike`), show the same frames for as long as no
attack connects (`Alike.next`), for only then is a number drawn.
-/

namespace Arcade

open Live

namespace Duel

/-! ### Fighters keep their ids -/

namespace Fighter

theorem id_steer (f : Fighter) : f.steer.id = f.id := by
  unfold steer
  exact apply_ite id _ _ _ |>.trans (ite_self _)

theorem id_fly (f : Fighter) : f.fly.id = f.id := by
  unfold fly
  split
  · dsimp only
    split <;> rfl
  · rfl

theorem id_move (f : Fighter) : f.move.1.id = f.id := by
  have hwalked : f.ready.steer.fly.walk.id = f.id := by
    calc f.ready.steer.fly.walk.id
        = f.ready.steer.fly.id := by rw [walk]
      _ = f.ready.steer.id := id_fly _
      _ = f.ready.id := id_steer _
      _ = f.id := by rw [ready]
  unfold move
  generalize f.ready.steer.fly.walk = g at hwalked ⊢
  cases hattack : g.attack? with
  | none => simpa only [hattack] using hwalked
  | some attack => simpa only [hattack, fire] using hwalked

theorem id_hurt (f : Fighter) (damage : Int32) : (f.hurt damage).id = f.id := by
  unfold hurt
  split
  · dsimp only
    split <;> rfl
  · rfl

theorem id_settle (f : Fighter) : f.settle.id = f.id := by
  unfold settle
  split
  · rfl
  · split <;> rfl

/-- A fighter who has let go of his buttons. -/
def released (f : Fighter) : Fighter :=
  { f with input := .none }

/-- A fighter as a frame brings him back: what it does not show of him begins anew. -/
def rewound (f : Fighter) : Fighter :=
  { f with poseFrames := 0, cooldown := 0, blocking := false, input := .none }

theorem released_of_rewound {f : Fighter} (h : f.rewound = f) : f.released = f := by
  rw [← h]
  rfl

end Fighter

@[simp] theorem Pose.ofName_name (p : Pose) : Pose.ofName p.name = p := by
  cases p with
  | strike attack => cases attack <;> rfl
  | _ => rfl

namespace Match

variable {config : Config} {m m' : Match} {p q : String}

/-- Two players in their seats, each with a number of wins. -/
structure Seats (p q : String) (m : Match) : Prop where
  left : m.left.id = p
  right : m.right.id = q
  wins : ∃ a b, m.roundWins = Dict.ofList [(p, a), (q, b)]

theorem seats_begin (config : Config) (p q : String) (seed : UInt64) :
    Seats p q (begin config p q seed) :=
  ⟨rfl, rfl, 0, 0, rfl⟩

theorem Seats.sorted (h : Seats p q m) : Dict.Sorted m.roundWins := by
  obtain ⟨a, b, hwins⟩ := h.wins
  rw [hwins]
  exact Dict.sorted_ofList _

theorem id_separate (before after : Fighter × Fighter) :
    (separate before after).1.id = after.1.id ∧ (separate before after).2.id = after.2.id := by
  unfold separate
  split <;> exact ⟨rfl, rfl⟩

theorem id_moved (m : Match) : m.moved.1.1.id = m.left.id ∧ m.moved.1.2.id = m.right.id := by
  obtain ⟨hleft, hright⟩ := id_separate (m.left, m.right) (m.left.move.1, m.right.move.1)
  rw [moved]
  dsimp only [face]
  rw [hleft, hright]
  exact ⟨m.left.id_move, m.right.id_move⟩

theorem id_exchange (f : Fighter × Fighter) (leftAttack rightAttack : Option Attack)
    (random : Generator) :
    (exchange f leftAttack rightAttack random).1.1.id = f.1.id ∧
      (exchange f leftAttack rightAttack random).1.2.id = f.2.id := by
  rw [exchange]
  simp only [Fighter.id_settle, Fighter.id_hurt, and_self]

theorem id_fought (m : Match) : m.fought.left.id = m.left.id ∧ m.fought.right.id = m.right.id := by
  obtain ⟨hleft, hright⟩ := m.id_moved
  obtain ⟨hleft', hright'⟩ := id_exchange m.moved.1 m.moved.2.1 m.moved.2.2 m.random
  rw [fought]
  exact ⟨hleft'.trans hleft, hright'.trans hright⟩

theorem seats_fought (h : Seats p q m) : Seats p q m.fought := by
  obtain ⟨hleft, hright⟩ := m.id_fought
  exact ⟨hleft.trans h.left, hright.trans h.right, by rw [fought]; exact h.wins⟩

/-- One of the two players has won one round more, or nobody has. -/
theorem winsAfter_cases (hne : p ≠ q) (hleft : m.left.id = p) (hright : m.right.id = q) {a b : UInt32}
    (hwins : m.roundWins = Dict.ofList [(p, a), (q, b)]) :
    ∃ a' b', m.winsAfter = Dict.ofList [(p, a'), (q, b')] ∧
      ((a' = a + 1 ∧ b' = b) ∨ (a' = a ∧ b' = b + 1) ∨ (a' = a ∧ b' = b)) := by
  obtain ⟨hp, hq⟩ := Dict.get?_ofList_pair hne a b
  unfold winsAfter roundWinner? addWin
  rw [hwins, hleft, hright]
  split
  next winner hwinner =>
    split at hwinner
    · obtain rfl := Option.some.inj hwinner
      rw [hp]
      exact ⟨a + 1, b, (Dict.insert_ofList_pair hne a b _).1, Or.inl ⟨rfl, rfl⟩⟩
    · split at hwinner
      · obtain rfl := Option.some.inj hwinner
        rw [hq]
        exact ⟨a, b + 1, (Dict.insert_ofList_pair hne a b _).2, Or.inr (Or.inl ⟨rfl, rfl⟩)⟩
      · cases hwinner
  · exact ⟨a, b, rfl, Or.inr (Or.inr ⟨rfl, rfl⟩)⟩

theorem seats_winsAfter (hne : p ≠ q) (h : Seats p q m) :
    ∃ a b, m.winsAfter = Dict.ofList [(p, a), (q, b)] := by
  obtain ⟨a, b, hwins⟩ := h.wins
  obtain ⟨a', b', hafter, -⟩ := winsAfter_cases hne h.left h.right hwins
  exact ⟨a', b', hafter⟩

theorem seats_endRound (hne : p ≠ q) (h : Seats p q m) : Seats p q (m.endRound config) := by
  have hwins := seats_winsAfter hne h
  rcases endRound_cases config m with hend | ⟨-, -, hend⟩
  · rw [hend]
    exact ⟨h.left, h.right, hwins⟩
  · rw [hend]
    exact ⟨h.left, h.right, hwins⟩

theorem seats_advance (hne : p ≠ q) (h : Seats p q m) : Seats p q (m.advance config) := by
  unfold advance
  split
  · exact ⟨h.left, h.right, h.wins⟩
  · rcases fight_cases config m with ⟨-, hfight⟩ | hfight
    · rw [hfight]
      exact seats_fought h
    · rw [hfight]
      exact seats_endRound hne (seats_fought h)
  · dsimp only
    split <;> exact ⟨h.left, h.right, h.wins⟩
  · exact h

/-- Players keep their seats. -/
theorem seats_step (hne : p ≠ q) (h : Seats p q m) : Seats p q (m.step config) := by
  unfold step
  split
  · exact h
  · have hnext : Seats p q (({ m with frame := m.frame + 1 } : Match).advance config) :=
      seats_advance hne ⟨h.left, h.right, h.wins⟩
    exact ⟨hnext.left, hnext.right, hnext.wins⟩

/-! ### A frame with the buttons that players hold -/

/-- A match with the buttons that its players hold. -/
def holding (inputs : InputBuffer) (m : Match) : Match :=
  { m with
    left := { m.left with input := inputs.pressed m.left.id }
    right := { m.right with input := inputs.pressed m.right.id } }

/-- The match one frame later, with these buttons held. -/
def next (config : Config) (inputs : InputBuffer) (m : Match) : Match :=
  (m.holding inputs).step config

variable {inputs : InputBuffer}

theorem seats_next (hne : p ≠ q) (h : Seats p q m) : Seats p q (m.next config inputs) :=
  seats_step hne ⟨h.left, h.right, h.wins⟩

theorem ticking_next (hconfig : 0 < config.roundFrames.toNat) (hphase : m.phase ≠ .finished)
    (h : Ticking config m) : Ticking config (m.next config inputs) :=
  have hheld : Ticking config (m.holding inputs) := ticking_of_onlyFighters rfl h
  (step_ticks hheld hphase hconfig).2.ticking

end Match

namespace DuelEngine

variable {config : Config} {m : Match} {p q : String}

/-- What an engine is asked during a frame reaches the match as `Match.next` says. -/
theorem simulate_of_seats (hne : p ≠ q) (h : m.Seats p q) (inputs : InputBuffer) :
    Adapter.simulate inputs [p, q] (⟨config, some m⟩ : DuelEngine)
      = (.ok (frameOf (m.next config inputs)), ⟨config, some (m.next config inputs)⟩) := by
  obtain ⟨rfl, rfl, -⟩ := h
  simp only [Adapter.simulate, Adapter.setInputs, Engine.setInput, setInput, Match.updateFighter?,
    if_true, hne, if_false]
  rfl

/-! ### Going on from a frame -/

/-- The wins of two players are taken from a frame. -/
theorem adoptWins_pair (hne : p ≠ q) (a b x y : UInt32) :
    adoptWins (Dict.ofList [(p, x), (q, y)]) (Dict.ofList [(p, a), (q, b)])
      = Dict.ofList [(p, a), (q, b)] := by
  have hseats : ∀ x y : UInt32, Dict.contains (Dict.ofList [(p, x), (q, y)]) p = true ∧
      Dict.contains (Dict.ofList [(p, x), (q, y)]) q = true := by
    intro x y
    obtain ⟨hp, hq⟩ := Dict.get?_ofList_pair hne x y
    simp only [Dict.contains, hp, hq, Option.isSome_some, and_self]
  have hpair := Dict.ofList_pair hne a b
  by_cases hlt : q < p
  · rw [if_pos hlt] at hpair
    rw [hpair]
    simp only [adoptWins, hseats, if_true, Dict.insert_ofList_pair hne, hpair]
  · rw [if_neg hlt] at hpair
    rw [hpair]
    simp only [adoptWins, hseats, if_true, Dict.insert_ofList_pair hne, hpair]

end DuelEngine

/-- A match as a frame of it brings it back: the clock of a countdown or an intermission, and all that
frames do not show of the fighters, begin anew, and the generator is that of the frame. -/
def Match.rewound (m : Match) : Match :=
  { m with
    left := m.left.rewound
    right := m.right.rewound
    phaseFrames := DuelEngine.resumedPhaseFrames m.phase
    random := .ofSeed (Adapter.frameSeed (DuelEngine.frameOf m)) }

namespace DuelEngine

variable {config : Config} {m : Match} {p q : String}

/-- An engine that is started anew and taken to the frame of a match becomes that match again, rewound,
with the generator of the new start. -/
theorem resume_frameOf (hne : p ≠ q) (h : m.Seats p q) (engine : DuelEngine) (seed : UInt64) :
    Engine.resume (Engine.start engine [p, q] seed).2 (frameOf m)
      = (.ok (), { engine with current := some { m.rewound with random := .ofSeed seed } }) := by
  obtain ⟨rfl, rfl, a, b, hwins⟩ := h
  have hadopt : adoptAll [m.left.entity, m.right.entity]
      (Match.begin engine.config m.left.id m.right.id seed)
      = (.ok (), { Match.begin engine.config m.left.id m.right.id seed with
          left := m.left.rewound, right := m.right.rewound }) := by
    simp only [adoptAll, Match.begin, Match.beginRound, Match.updateFighter?, Match.freshLeft,
      Match.freshRight, Fighter.entity, Fighter.adopt, Pose.ofName_name, Fighter.rewound, if_true,
      hne, if_false]
  have hstanding : adoptStanding (frameOf m)
      { Match.begin engine.config m.left.id m.right.id seed with
        left := m.left.rewound, right := m.right.rewound }
        = { m.rewound with random := .ofSeed seed } := by
    have htaken := adoptWins_pair hne a b 0 0
    rw [← hwins] at htaken
    simp only [adoptStanding, frameOf, Match.begin, Match.beginRound, Match.rewound, htaken]
  simp only [Engine.start, start, Engine.resume, resume]
  rw [show (frameOf m).entities = [m.left.entity, m.right.entity] from rfl, hadopt]
  simp only [hstanding]

/-- An engine that is taken to the frame of a match becomes that match again, rewound. -/
theorem resumeEngine_frameOf (hne : p ≠ q) (h : m.Seats p q) (engine : DuelEngine) :
    Adapter.resumeEngine (.attached engine) [p, q] (frameOf m)
      = (.ok (), .attached { engine with current := some m.rewound }) := by
  have hresume := resume_frameOf hne h engine (Adapter.frameSeed (frameOf m))
  simp only [Adapter.resumeEngine, Engine.start, start] at hresume ⊢
  rw [hresume]
  rfl

end DuelEngine

namespace Match

variable {config : Config} {m m' : Match} {p q : String} {inputs : InputBuffer}

/-! ### Countdowns and intermissions -/

/-- Whether only a clock runs, that of a countdown or of an intermission. -/
def Paused (m : Match) : Prop := m.phase = .waiting ∨ m.phase = .roundOver

theorem next_of_paused (h : m.Paused) (hmore : 1 < m.phaseFrames.toNat) :
    (m.next config inputs).phase = m.phase ∧
      (m.next config inputs).phaseFrames.toNat = m.phaseFrames.toNat - 1 := by
  have hgoes : ¬ m.phaseFrames.toNat ≤ 1 := Nat.not_le.mpr hmore
  rcases h with h | h <;>
    simp [next, holding, step, MatchPhase.isFinished, advance, releaseInputs, h,
      countDown_eq_zero_iff, hgoes, toNat_countDown]

theorem next_of_last (h : m.Paused) (hlast : m.phaseFrames.toNat ≤ 1) :
    (m.next config inputs).phase ≠ m.phase := by
  rcases h with h | h <;>
    simp [next, holding, step, MatchPhase.isFinished, advance, releaseInputs, h,
      countDown_eq_zero_iff, hlast, beginRound]

/-! ### Until an attack connects -/

/-- Whether an attack is fired and connects. -/
def hits (attack : Option Attack) (attacker defender : Fighter) : Bool :=
  attack.any fun a => connects a attacker defender

/-- Whether an attack connects in the frame that comes. -/
def lands (m : Match) : Bool :=
  m.phase = .fighting &&
    (hits m.moved.2.1 m.moved.1.1 m.moved.1.2 || hits m.moved.2.2 m.moved.1.2 m.moved.1.1)

theorem damageOf_of_not_hits {attack : Option Attack} {attacker defender : Fighter}
    (h : hits attack attacker defender = false) (random : Generator) :
    damageOf attack attacker defender random = (0, random) := by
  cases attack with
  | none => rfl
  | some a =>
      have hmiss : connects a attacker defender = false := h
      simp only [damageOf, hmiss, Bool.false_eq_true, if_false]

/-- Whether the fighters of now are those of the next frame of fighting. -/
def Engaged (m : Match) : Prop := m.phase = .waiting ∨ m.phase = .fighting

/-- Two matches that no frame tells apart, with one clock while it is the clock that counts, and the same
fighters while these are to fight. -/
structure Alike (m m' : Match) : Prop where
  shown : DuelEngine.frameOf m' = DuelEngine.frameOf m
  clock : m.Paused → m'.phaseFrames = m.phaseFrames
  fighters : m.Engaged → m'.left = m.left ∧ m'.right = m.right

theorem Alike.ids (h : Alike m m') : m'.left.id = m.left.id ∧ m'.right.id = m.right.id := by
  obtain ⟨-, ⟨hleft, hright⟩, -⟩ := frameOf_eq_iff.mp h.shown
  exact ⟨congrArg Entity.id hleft, congrArg Entity.id hright⟩

theorem Alike.phase (h : Alike m m') : m'.phase = m.phase :=
  (frameOf_eq_iff.mp h.shown).2.2.1

theorem Alike.seats (h : Alike m m') (hseats : Seats p q m) : Seats p q m' where
  left := h.ids.1.trans hseats.left
  right := h.ids.2.trans hseats.right
  wins := by
    obtain ⟨-, -, -, -, -, hwins, -⟩ := frameOf_eq_iff.mp h.shown
    rw [hwins]
    exact hseats.wins

/-- As long as their fighters are to fight, alike matches differ in their generators, and perhaps in a
clock that does not count. -/
theorem Alike.eq_of_engaged (h : Alike m m') (hengaged : m.Engaged) :
    m' = { m with phaseFrames := m'.phaseFrames, random := m'.random } := by
  obtain ⟨hframe, -, hphase', hround, htimer, hwins, hwinner⟩ := frameOf_eq_iff.mp h.shown
  obtain ⟨hleft, hright⟩ := h.fighters hengaged
  cases m'
  simp_all

theorem Alike.holding (h : Alike m m') : Alike (m.holding inputs) (m'.holding inputs) where
  shown := h.shown
  clock := h.clock
  fighters hphase := by
    obtain ⟨hleft, hright⟩ := h.fighters hphase
    simp only [Match.holding, hleft, hright, and_self]

theorem Alike.releaseInputs (h : Alike m m') : Alike m.releaseInputs m'.releaseInputs where
  shown := h.shown
  clock := h.clock
  fighters hphase := by
    obtain ⟨hleft, hright⟩ := h.fighters hphase
    simp only [Match.releaseInputs, hleft, hright, and_self]

/-- A clock that does not count, and a generator, do not matter to the end of a round. -/
theorem alike_endRound (config : Config) (m : Match) (clock : UInt32) (random : Generator) :
    Alike (m.endRound config)
      (({ m with phaseFrames := clock, random := random } : Match).endRound config) := by
  have hfinished : ∀ {m : Match}, m.phase = .finished → ¬ m.Paused := by
    rintro m hphase (h | h) <;> rw [hphase] at h <;> cases h
  have hwins : ({ m with phaseFrames := clock, random := random } : Match).winsAfter = m.winsAfter :=
    rfl
  rw [endRound_eq, endRound_eq, hwins]
  cases decided? config m.winsAfter with
  | some p => exact ⟨rfl, fun hpaused => absurd hpaused (hfinished rfl), fun _ => ⟨rfl, rfl⟩⟩
  | none =>
      by_cases hlast : maxRounds ≤ m.round
      · simp only [hlast, if_true]
        exact ⟨rfl, fun hpaused => absurd hpaused (hfinished rfl), fun _ => ⟨rfl, rfl⟩⟩
      · simp only [hlast, if_false]
        exact ⟨rfl, fun _ => rfl, fun _ => ⟨rfl, rfl⟩⟩

theorem fought_of_not_lands (hphase : m.phase = .fighting) (hno : m.lands = false) (clock : UInt32)
    (random : Generator) :
    ({ m with phaseFrames := clock, random := random } : Match).fought
      = { m.fought with phaseFrames := clock, random := random } := by
  simp only [lands, hphase, decide_true, Bool.true_and, Bool.or_eq_false_iff] at hno
  have hmoved : ({ m with phaseFrames := clock, random := random } : Match).moved = m.moved := rfl
  unfold fought exchange
  simp only [hmoved, damageOf_of_not_hits hno.1, damageOf_of_not_hits hno.2]

/-- A frame of fighting in which no attack connects goes alike. -/
theorem Alike.fight (config : Config) (h : Alike m m') (hphase : m.phase = .fighting)
    (hno : m.lands = false) : Alike (m.fight config) (m'.fight config) := by
  have heq := h.eq_of_engaged (Or.inr hphase)
  have hfought := fought_of_not_lands hphase hno m'.phaseFrames m'.random
  rw [← heq] at hfought
  have hstill : m.fought.phase = .fighting := m.phase_fought.trans hphase
  rw [fight_eq, fight_eq, hfought]
  generalize m.fought = fought at hstill
  dsimp only
  split
  · exact alike_endRound config fought m'.phaseFrames m'.random
  · refine ⟨rfl, fun hpaused => ?_, fun _ => ⟨rfl, rfl⟩⟩
    rcases hpaused with hw | hr
    · cases hstill.symm.trans hw
    · cases hstill.symm.trans hr

/-- Alike matches stay alike for a frame in which no attack connects. -/
theorem Alike.advance (config : Config) (h : Alike m m') (hno : m.lands = false) :
    Alike (m.advance config) (m'.advance config) := by
  have hphase' := h.phase
  cases hphase : m.phase with
  | waiting =>
      -- a countdown has the fighters of the fight to come, so these agree already
      have hclock := h.clock (Or.inl hphase)
      have heq := h.eq_of_engaged (Or.inl hphase)
      rw [hclock] at heq
      rw [heq]
      simp only [Match.advance, hphase]
      exact ⟨rfl, fun _ => rfl, fun _ => ⟨rfl, rfl⟩⟩
  | fighting =>
      have hfight := h.fight config hphase hno
      simpa only [Match.advance, hphase, hphase'] using hfight
  | roundOver =>
      obtain ⟨hleft, hright⟩ := h.ids
      obtain ⟨hframe, hentities, -, hround, htimer, hwins, hwinner⟩ := frameOf_eq_iff.mp h.shown
      have hclock := h.clock (Or.inr hphase)
      simp only [Match.advance, hphase, hphase', hclock]
      split
      · -- the round that begins has fresh fighters, whatever was hidden of the old ones
        refine ⟨frameOf_eq_iff.mpr ?_, fun _ => rfl, fun _ => ?_⟩
        · simp only [beginRound, hleft, hright, hframe, hround, hwins, hwinner, and_self]
        · simp only [beginRound, hleft, hright, and_self]
      · refine ⟨frameOf_eq_iff.mpr ⟨hframe, hentities, rfl, hround, htimer, hwins, hwinner⟩,
          fun _ => rfl, ?_⟩
        rintro (hengaged | hengaged) <;> cases hengaged
  | finished => simpa only [Match.advance, hphase, hphase'] using h

theorem phase_releaseInputs (m : Match) : m.releaseInputs.phase = m.phase := rfl

theorem Alike.step (config : Config) (h : Alike m m') (hno : m.lands = false) :
    Alike (m.step config) (m'.step config) := by
  by_cases hfinished : m.phase = .finished
  · rw [step_of_finished hfinished, step_of_finished (h.phase.trans hfinished)]
    exact h
  · have hfinished' : m'.phase ≠ .finished := by rwa [h.phase]
    rw [step_of_not_finished hfinished, step_of_not_finished hfinished']
    have hcounted : Alike ({ m with frame := m.frame + 1 } : Match)
        { m' with frame := m'.frame + 1 } := by
      obtain ⟨hframe, hrest⟩ := frameOf_eq_iff.mp h.shown
      refine ⟨frameOf_eq_iff.mpr ⟨?_, hrest⟩, h.clock, h.fighters⟩
      dsimp only
      rw [hframe]
    exact (hcounted.advance config hno).releaseInputs

/-- Alike matches show the same frame next, unless an attack connects. -/
theorem Alike.next (config : Config) (h : Alike m m') (hno : (m.holding inputs).lands = false) :
    Alike (m.next config inputs) (m'.next config inputs) :=
  h.holding.step config hno

/-! ### Matches that are played -/

/-- A match that has come from its start: two players in their seats, clocks that run, and fighters who
have done nothing yet in a countdown. -/
structure Proper (config : Config) (p q : String) (m : Match) : Prop
    extends Seats p q m, Ticking config m where
  distinct : p ≠ q
  fresh : m.phase = .waiting → m.left.rewound = m.left ∧ m.right.rewound = m.right

theorem proper_begin (config : Config) (hne : p ≠ q) (seed : UInt64) :
    Proper config p q (begin config p q seed) where
  toSeats := seats_begin config p q seed
  toTicking := ticking_begin config p q seed
  distinct := hne
  fresh _ := ⟨rfl, rfl⟩

theorem phase_fight_ne_waiting (config : Config) (h : m.phase = .fighting) :
    (m.fight config).phase ≠ .waiting := by
  rcases fight_cases config m with ⟨-, hfight⟩ | hfight
  · rw [hfight, phase_fought, h]
    exact nofun
  · rw [hfight]
    rcases endRound_cases config m.fought with hend | ⟨-, -, hend⟩ <;> rw [hend] <;> exact nofun

/-- A countdown has fresh fighters, be it under way or new. -/
theorem fresh_step (h : m.phase = .waiting → m.left.released.rewound = m.left.released ∧
      m.right.released.rewound = m.right.released) (hwaiting : (m.step config).phase = .waiting) :
    (m.step config).left.rewound = (m.step config).left ∧
      (m.step config).right.rewound = (m.step config).right := by
  cases hphase : m.phase with
  | waiting =>
      have hstep : (m.step config).left = m.left.released ∧ (m.step config).right = m.right.released := by
        simp [step, hphase, MatchPhase.isFinished, Match.advance, releaseInputs, Fighter.released]
      rw [hstep.1, hstep.2]
      exact h hphase
  | fighting =>
      have hfight := phase_fight_ne_waiting (m := { m with frame := m.frame + 1 }) config hphase
      have hadvance : ({ m with frame := m.frame + 1 } : Match).advance config
          = ({ m with frame := m.frame + 1 } : Match).fight config := by
        simp only [Match.advance, hphase]
      rw [step_of_not_finished (by simp [hphase]), hadvance,
        phase_releaseInputs] at hwaiting
      exact absurd hwaiting hfight
  | roundOver =>
      rw [step_of_not_finished (by simp [hphase])] at hwaiting ⊢
      by_cases hlast : countDown m.phaseFrames = 0
      · simp only [Match.advance, hphase, hlast, if_true]
        exact ⟨rfl, rfl⟩
      · simp only [Match.advance, hphase, hlast, if_false, phase_releaseInputs] at hwaiting
        cases hwaiting
  | finished =>
      rw [step_of_finished hphase, hphase] at hwaiting
      cases hwaiting

theorem Proper.next (hconfig : 0 < config.roundFrames.toNat) (h : Proper config p q m)
    (hphase : m.phase ≠ .finished) : Proper config p q (m.next config inputs) where
  toSeats := seats_next h.distinct h.toSeats
  toTicking := ticking_next hconfig hphase h.toTicking
  distinct := h.distinct
  fresh := fresh_step fun hwaiting => by
    obtain ⟨hleft, hright⟩ := h.fresh hwaiting
    exact ⟨hleft.trans (Fighter.released_of_rewound hleft).symm,
      hright.trans (Fighter.released_of_rewound hright).symm⟩

theorem Proper.rewound (h : Proper config p q m) : Proper config p q m.rewound where
  left := h.left
  right := h.right
  wins := h.wins
  round := h.round
  waiting hphase := ⟨by simp [Match.rewound, show m.phase = .waiting from hphase,
    DuelEngine.resumedPhaseFrames, countdownFrames], (h.waiting hphase).2⟩
  fighting := h.fighting
  roundOver hphase := ⟨by simp [Match.rewound, show m.phase = .roundOver from hphase,
    DuelEngine.resumedPhaseFrames, intermissionFrames], (h.roundOver hphase).2⟩
  distinct := h.distinct
  fresh _ := ⟨rfl, rfl⟩

/-- A match of which a frame hides nothing but the generator: the clock of a countdown or an
intermission is full, and in a fight nobody blocks or has a timer running. -/
structure Candid (m : Match) : Prop where
  clock : m.Paused → m.phaseFrames = DuelEngine.resumedPhaseFrames m.phase
  fighters : m.phase = .fighting → m.left.rewound = m.left ∧ m.right.rewound = m.right

theorem alike_rewound (h : Proper config p q m) (hcandid : m.Candid) : Alike m m.rewound where
  shown := rfl
  clock hpaused := (hcandid.clock hpaused).symm
  fighters hengaged := by
    rcases hengaged with hwaiting | hfighting
    · exact h.fresh hwaiting
    · exact hcandid.fighters hfighting

end Match

end Duel

end Arcade
