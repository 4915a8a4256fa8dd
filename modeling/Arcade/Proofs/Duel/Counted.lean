import Arcade.Proofs.Duel.Exact
/-!
# Frames that count

`Match.step?` checks the sums of the fighters. A frame also counts: itself, the wins of whoever wins its
round, and the round that it begins. `Match.stepCounted?` is the frame with a check on every sum, the
counters' included; it is there, and is then the frame that the simulation makes, exactly if the sums
of the fighters and of the rounds fit (`SumsFit`), and the counters of frames and wins do
(`stepCounted?_eq_some_iff`).

The two counters have limits that are far away. A match has only so many frames ahead of it
(`framesLeft`), and an undecided end of a round leaves nobody with as many wins as are needed; so what
fits with room enough at one moment of a match fits ever after (`framesFit_of_room`,
`winsFit_of_room`).
-/

namespace Arcade.Duel

open Live Checked

/-! ### What has to fit -/

namespace Fighter

variable {f g : Fighter}

theorem flightFits_of_fly? (h : f.fly? = some g) : f.FlightFits := by
  intro hflies
  rw [fly?, if_pos hflies] at h
  simp only [Option.bind_eq_bind, Option.bind_eq_some_iff] at h
  obtain ⟨y, hheight, velY, hspeed, -⟩ := h
  exact ⟨fits_of_word? hheight, fits_of_word? hspeed⟩

theorem fits_of_walk? (h : f.walk? = some g) : Fits (f.x.toInt + f.velX.toInt) := by
  simp only [walk?, Option.bind_eq_bind, Option.bind_eq_some_iff] at h
  obtain ⟨x, hx, -⟩ := h
  exact fits_of_word? hx

theorem moveFits_of_move? {moved : Fighter × Option Attack} (h : f.move? = some moved) :
    f.MoveFits := by
  simp only [move?, steer?_eq, Option.bind_eq_bind, Option.bind_some, Option.bind_eq_some_iff] at h
  obtain ⟨flown, hfly, walked, hwalk, -⟩ := h
  have hflight : f.ready.steer.FlightFits := flightFits_of_fly? hfly
  rw [fly?_eq hflight] at hfly
  obtain rfl := Option.some.inj hfly
  have hx := fits_of_walk? hwalk
  rw [x_fly, velX_fly, x_steer] at hx
  exact ⟨hflight, hx⟩

/-- Whoever has moved is in the arena, wherever he was before. -/
theorem x_move_within (h : f.MoveFits) : -arenaHalfWidth.toInt ≤ f.move.1.x.toInt ∧
    f.move.1.x.toInt ≤ arenaHalfWidth.toInt := by
  rw [toInt_x_move h.walk, toInt_arenaHalfWidth]
  omega

end Fighter

namespace Match

variable {config : Config} {m m' : Match}

theorem distanceFits_move (hleft : m.left.MoveFits) (hright : m.right.MoveFits) :
    DistanceFits m.left.move.1 m.right.move.1 := by
  obtain ⟨hlow, hhigh⟩ := Fighter.x_move_within hleft
  obtain ⟨hlow', hhigh'⟩ := Fighter.x_move_within hright
  rw [toInt_arenaHalfWidth] at hlow hhigh hlow' hhigh'
  constructor <;> constructor <;> omega

/-- Two fighters who are put back to where they were are on the same side of the arena, or both near its
middle. So their distance fits also if they were far outside. -/
theorem distanceFits_moved (hleft : m.left.MoveFits) (hright : m.right.MoveFits) :
    DistanceFits m.moved.1.1 m.moved.1.2 := by
  have hdistance := distanceFits_move hleft hright
  unfold DistanceFits
  rcases m.x_moved_cases with ⟨hx, hx'⟩ | ⟨hclose, hx, hx'⟩
  · rw [hx, hx']
    exact hdistance
  · rw [hx, hx']
    rw [toInt_distance hdistance, Fighter.toInt_x_move hleft.walk,
      Fighter.toInt_x_move hright.walk, toInt_arenaHalfWidth, toInt_minGap] at hclose
    obtain ⟨hslow, hfast⟩ := m.left.ready.velX_steer_bounds
    obtain ⟨hslow', hfast'⟩ := m.right.ready.velX_steer_bounds
    rw [toInt_walkSpeed] at hslow hfast hslow' hfast'
    have hlow := m.left.x.le_toInt
    have hhigh := m.left.x.toInt_lt
    have hlow' := m.right.x.le_toInt
    have hhigh' := m.right.x.toInt_lt
    constructor <;> constructor <;> omega

theorem fought?_eq (hleft : m.left.MoveFits) (hright : m.right.MoveFits) :
    m.fought? = some m.fought := by
  simp only [fought?, fought, moved?_eq hleft hright (distanceFits_move hleft hright),
    exchange?_eq (distanceFits_moved hleft hright), Option.bind_eq_bind, Option.bind_some,
    Option.pure_def]

theorem moveFits_of_fought? (h : m.fought? = some m') : m.left.MoveFits ∧ m.right.MoveFits := by
  simp only [fought?, moved?, Option.bind_eq_bind, Option.bind_eq_some_iff] at h
  obtain ⟨moved, ⟨left, hleft, right, hright, -⟩, -⟩ := h
  exact ⟨Fighter.moveFits_of_move? hleft, Fighter.moveFits_of_move? hright⟩

/-- Whether the winner of a round that is over, if there is one, can be credited with it. -/
def WinnerFits (m : Match) : Prop :=
  ∀ p, m.roundWinner? = some p → (m.winsOf p).toNat + 1 < UInt32.size

/-- Whether all that a frame adds up fits, but for its own number and the wins. -/
structure SumsFit (m : Match) : Prop where
  fighters : m.phase = .fighting → m.left.MoveFits ∧ m.right.MoveFits
  round : m.phase = .roundOver → m.phaseFrames.toNat ≤ 1 → m.round.toNat + 1 < UInt32.size

/-- Whether the frame that comes has a number, if one comes. -/
def FrameFits (m : Match) : Prop := m.phase ≠ .finished → m.frame.toNat + 1 < UInt64.size

/-- Whether the frame that comes can count the win of the round that it ends, if it ends one. -/
def WinFits (m : Match) : Prop :=
  m.phase = .fighting → m.fought.roundEnds = true → m.fought.WinnerFits

theorem winsAfter?_eq_some_iff {wins : Dict UInt32} :
    m.winsAfter? = some wins ↔ m.WinnerFits ∧ m.winsAfter = wins := by
  unfold winsAfter? WinnerFits winsAfter
  cases m.roundWinner? with
  | none => simp
  | some p =>
      simp only [Option.bind_eq_bind, Option.bind_eq_some_iff, next32?_eq_some_iff, Option.pure_def,
        Option.some.injEq, forall_eq']
      constructor
      · intro h
        obtain ⟨_, ⟨hfits, rfl⟩, hwins⟩ := h
        exact ⟨hfits, hwins⟩
      · intro h
        obtain ⟨hfits, hwins⟩ := h
        exact ⟨_, ⟨hfits, rfl⟩, hwins⟩

theorem endRound?_eq (h : m.WinnerFits) : m.endRound? config = some (m.endRound config) := by
  have hwins : m.winsAfter? = some m.winsAfter := winsAfter?_eq_some_iff.mpr ⟨h, rfl⟩
  rw [endRound?, hwins, endRound_eq, Option.bind_eq_bind, Option.bind_some]
  cases decided? config m.winsAfter with
  | some p => rfl
  | none =>
      dsimp only
      split <;> rfl

theorem winnerFits_of_endRound? (h : m.endRound? config = some m') : m.WinnerFits := by
  simp only [endRound?, Option.bind_eq_bind, Option.bind_eq_some_iff] at h
  obtain ⟨wins, hwins, -⟩ := h
  exact (winsAfter?_eq_some_iff.mp hwins).1

theorem fightCounted?_eq (hleft : m.left.MoveFits) (hright : m.right.MoveFits)
    (hwins : m.fought.roundEnds = true → m.fought.WinnerFits) :
    m.fightCounted? config = some (m.fight config) := by
  have hfight : m.fight config = if m.fought.roundEnds then m.fought.endRound config else m.fought :=
    fight_eq config m
  rw [fightCounted?, fought?_eq hleft hright, Option.bind_eq_bind, Option.bind_some, hfight]
  generalize m.fought = fought at hwins
  split
  · next hends => exact endRound?_eq (hwins hends)
  · rfl

theorem fits_of_fightCounted? (h : m.fightCounted? config = some m') :
    (m.left.MoveFits ∧ m.right.MoveFits) ∧ (m.fought.roundEnds = true → m.fought.WinnerFits) := by
  simp only [fightCounted?, Option.bind_eq_bind, Option.bind_eq_some_iff] at h
  obtain ⟨fought, hfought, hend⟩ := h
  obtain ⟨hleft, hright⟩ := moveFits_of_fought? hfought
  rw [fought?_eq hleft hright] at hfought
  obtain rfl := Option.some.inj hfought
  refine ⟨⟨hleft, hright⟩, fun hends => ?_⟩
  rw [if_pos hends] at hend
  exact winnerFits_of_endRound? hend

theorem nextRound?_eq (hround : m.round.toNat + 1 < UInt32.size) :
    m.nextRound? config = some (m.beginRound config) := by
  rw [nextRound?, next32?_eq_some_iff.mpr ⟨hround, rfl⟩, beginRound?_eq]
  rfl

theorem round_fits_of_nextRound? (h : m.nextRound? config = some m') :
    m.round.toNat + 1 < UInt32.size := by
  simp only [nextRound?, Option.bind_eq_bind, Option.bind_eq_some_iff] at h
  obtain ⟨round, hround, -⟩ := h
  exact (next32?_eq_some_iff.mp hround).1

theorem advanceCounted?_eq (hsums : m.SumsFit) (hwins : m.WinFits) :
    m.advanceCounted? config = some (m.advance config) := by
  cases hphase : m.phase with
  | waiting => simp only [advanceCounted?, advance, hphase]
  | fighting =>
      obtain ⟨hleft, hright⟩ := hsums.fighters hphase
      simp only [advanceCounted?, advance, hphase, fightCounted?_eq hleft hright (hwins hphase)]
  | roundOver =>
      simp only [advanceCounted?, advance, hphase]
      split
      · next hlast =>
        exact nextRound?_eq (hsums.round hphase ((countDown_eq_zero_iff _).mp hlast))
      · rfl
  | finished => simp only [advanceCounted?, advance, hphase]

theorem fits_of_advanceCounted? (h : m.advanceCounted? config = some m') : m.WinFits ∧ m.SumsFit := by
  cases hphase : m.phase with
  | fighting =>
      simp only [advanceCounted?, hphase] at h
      obtain ⟨hmoves, hwins⟩ := fits_of_fightCounted? h
      exact ⟨fun _ => hwins, fun _ => hmoves, fun hover => by cases hphase.symm.trans hover⟩
  | roundOver =>
      refine ⟨fun hfight => (by cases hphase.symm.trans hfight),
        fun hfight => (by cases hphase.symm.trans hfight), fun _ hlast => ?_⟩
      simp only [advanceCounted?, hphase] at h
      rw [if_pos ((countDown_eq_zero_iff _).mpr hlast)] at h
      exact round_fits_of_nextRound? h
  | waiting | finished =>
      exact ⟨fun hfight => (by cases hphase.symm.trans hfight),
        fun hfight => (by cases hphase.symm.trans hfight),
        fun hover => (by cases hphase.symm.trans hover)⟩

theorem fought_counted (m : Match) : ({ m with frame := m.frame + 1 } : Match).fought
    = { m.fought with frame := m.frame + 1 } := by
  have hmoved : ({ m with frame := m.frame + 1 } : Match).moved = m.moved := rfl
  unfold fought
  rw [hmoved]

/-- The number of a frame matters to no other sum of it. -/
theorem fits_counted_iff : ({ m with frame := m.frame + 1 } : Match).WinFits ∧
    ({ m with frame := m.frame + 1 } : Match).SumsFit ↔ m.WinFits ∧ m.SumsFit := by
  have hwins : ({ m with frame := m.frame + 1 } : Match).WinFits ↔ m.WinFits := by
    unfold WinFits
    rw [fought_counted]
    generalize m.fought = fought
    rfl
  rw [hwins]
  exact and_congr_right fun _ => ⟨fun h => ⟨h.fighters, h.round⟩, fun h => ⟨h.fighters, h.round⟩⟩

/-- **What has to fit in a frame.** A build that checks its sums comes through a frame if and only if its
number, the win that it may bring, and the sums of the fighters and rounds fit; the frame is then the one of
the simulation. -/
theorem stepCounted?_eq_some_iff : m.stepCounted? config = some m' ↔
    (m.FrameFits ∧ m.WinFits ∧ m.SumsFit) ∧ m.step config = m' := by
  by_cases hphase : m.phase = .finished
  · have hfight : m.phase ≠ .fighting := by simp [hphase]
    have hover : m.phase ≠ .roundOver := by simp [hphase]
    have hfits : m.FrameFits ∧ m.WinFits ∧ m.SumsFit :=
      ⟨fun h => absurd hphase h, fun h => absurd h hfight,
        ⟨fun h => absurd h hfight, fun h => absurd h hover⟩⟩
    have hstays : m.stepCounted? config = some m := if_pos (decide_eq_true hphase)
    simp only [hstays, step_of_finished hphase, hfits, Option.some.injEq, and_self, true_and]
  · have hgoes : m.phase.isFinished = false := decide_eq_false hphase
    rw [stepCounted?, hgoes, step_of_not_finished hphase]
    simp only [Bool.false_eq_true, if_false, Option.bind_eq_bind, Option.bind_eq_some_iff,
      next64?_eq_some_iff, Option.pure_def, Option.some.injEq]
    constructor
    · intro h
      obtain ⟨_, ⟨hframe, rfl⟩, next, hnext, rfl⟩ := h
      obtain ⟨hwins, hsums⟩ := fits_of_advanceCounted? hnext
      rw [advanceCounted?_eq hsums hwins] at hnext
      obtain rfl := Option.some.inj hnext
      exact ⟨⟨fun _ => hframe, fits_counted_iff.mp ⟨hwins, hsums⟩⟩, rfl⟩
    · intro h
      obtain ⟨⟨hframe, hfits⟩, rfl⟩ := h
      obtain ⟨hwins, hsums⟩ := fits_counted_iff.mpr hfits
      exact ⟨_, ⟨hframe hphase, rfl⟩, _, advanceCounted?_eq hsums hwins, rfl⟩

/-! ### What a frame does -/

/-- What a frame makes of a match that is not decided, phase by phase. -/
inductive Advances (config : Config) (m : Match) : Match → Prop
  | countsDown (hphase : m.phase = .waiting) (hmore : 1 < m.phaseFrames.toNat) :
      Advances config m
        { m with frame := m.frame + 1, phaseFrames := countDown m.phaseFrames }
  | opens (hphase : m.phase = .waiting) (hlast : m.phaseFrames.toNat ≤ 1) :
      Advances config m
        { m with frame := m.frame + 1, phaseFrames := countDown m.phaseFrames, phase := .fighting }
  | fights {fought : Match} (hphase : m.phase = .fighting) (hfought : m.fought = fought)
      (hgoes : fought.roundEnds = false) :
      Advances config m { fought with frame := m.frame + 1 }
  | decides {fought : Match} (hphase : m.phase = .fighting) (hfought : m.fought = fought)
      (hends : fought.roundEnds = true)
      (hclosed : decided? config fought.winsAfter = none → maxRounds.toNat ≤ m.round.toNat)
      (winner : Option String) :
      Advances config m { fought with
        frame := m.frame + 1, roundWins := fought.winsAfter, winner := winner, phase := .finished }
  | pauses {fought : Match} (hphase : m.phase = .fighting) (hfought : m.fought = fought)
      (hends : fought.roundEnds = true) (hopen : decided? config fought.winsAfter = none)
      (hmore : m.round.toNat < maxRounds.toNat) :
      Advances config m { fought with
        frame := m.frame + 1, roundWins := fought.winsAfter, phase := .roundOver
        phaseFrames := intermissionFrames }
  | rests (hphase : m.phase = .roundOver) (hmore : 1 < m.phaseFrames.toNat) :
      Advances config m
        { m with frame := m.frame + 1, phaseFrames := countDown m.phaseFrames }
  | begins (hphase : m.phase = .roundOver) (hlast : m.phaseFrames.toNat ≤ 1) :
      Advances config m (({ m with frame := m.frame + 1 } : Match).beginRound config)

/-- A round whose end decides the match gives somebody enough wins, or was the last. -/
theorem closed_of_endRound (h : (m.endRound config).phase = .finished)
    (hopen : decided? config m.winsAfter = none) : maxRounds.toNat ≤ m.round.toNat := by
  refine Nat.not_lt.mp fun hmore => ?_
  have hround : ¬ maxRounds ≤ m.round := UInt32.not_le.mpr (UInt32.lt_iff_toNat_lt.mpr hmore)
  rw [endRound_eq, hopen] at h
  simp only [hround, if_false, reduceCtorEq] at h

theorem advances_fight (config : Config) (hphase : m.phase = .fighting) : ∃ m', Advances config m m' ∧
    ({ m with frame := m.frame + 1 } : Match).fight config = m' := by
  have hround := m.round_fought
  have hfight := fight_eq config { m with frame := m.frame + 1 }
  rw [fought_counted] at hfight
  generalize hfought : m.fought = fought at hround hfight
  split at hfight
  · next hends =>
    rcases endRound_cases config { fought with frame := m.frame + 1 } with hend | ⟨hopen, hmore, hend⟩
    · have hclosed : decided? config fought.winsAfter = none → maxRounds.toNat ≤ m.round.toNat := by
        rw [← hround]
        exact closed_of_endRound (m := { fought with frame := m.frame + 1 }) (by rw [hend])
      exact ⟨_, .decides hphase hfought hends hclosed _, hfight.trans hend⟩
    · refine ⟨_, .pauses hphase hfought hends hopen ?_, hfight.trans hend⟩
      rw [← hround]
      exact hmore
  · next hgoes => exact ⟨_, .fights hphase hfought (Bool.eq_false_iff.mpr hgoes), hfight⟩

/-- **One frame.** A match that is not decided advances, and the buttons are released. -/
theorem step_advances (config : Config) (hphase : m.phase ≠ .finished) :
    ∃ m', Advances config m m' ∧ m.step config = m'.releaseInputs := by
  have hstep : m.step config
      = (({ m with frame := m.frame + 1 } : Match).advance config).releaseInputs :=
    step_of_not_finished hphase
  cases hcase : m.phase with
  | waiting =>
      by_cases hlast : m.phaseFrames.toNat ≤ 1
      · refine ⟨_, .opens hcase hlast, ?_⟩
        simp only [hstep, advance, hcase, countDown_eq_zero_iff, hlast, if_true]
      · refine ⟨_, .countsDown hcase (Nat.not_le.mp hlast), ?_⟩
        simp only [hstep, advance, hcase, countDown_eq_zero_iff, hlast, if_false]
  | fighting =>
      obtain ⟨m', hadvances, hfight⟩ := advances_fight config hcase
      refine ⟨m', hadvances, ?_⟩
      rw [hstep, ← hfight]
      simp only [advance, hcase]
  | roundOver =>
      by_cases hlast : m.phaseFrames.toNat ≤ 1
      · refine ⟨_, .begins hcase hlast, ?_⟩
        simp only [hstep, advance, hcase, countDown_eq_zero_iff, hlast, if_true]
        rfl
      · refine ⟨_, .rests hcase (Nat.not_le.mp hlast), ?_⟩
        simp only [hstep, advance, hcase, countDown_eq_zero_iff, hlast, if_false]
  | finished => exact absurd hcase hphase

/-! ### What can follow a match -/

/-- Whether inputs and steps lead from one moment of a match to another. -/
def Reaches (config : Config) (m m' : Match) : Prop :=
  ∃ calls, Run.after EngineCall.make (⟨config, some m⟩ : DuelEngine) calls = ⟨config, some m'⟩

theorem Reaches.refl (config : Config) (m : Match) : Reaches config m m := ⟨[], rfl⟩

theorem Reaches.trans {m'' : Match} (h : Reaches config m m') (h' : Reaches config m' m'') :
    Reaches config m m'' := by
  obtain ⟨calls, hcalls⟩ := h
  obtain ⟨more, hmore⟩ := h'
  exact ⟨calls ++ more, by rw [Run.after_append, hcalls, hmore]⟩

theorem Reaches.step (config : Config) (m : Match) : Reaches config m (m.step config) := ⟨[.step], rfl⟩

/-- What inputs and frames keep is true of everything that can follow. -/
theorem Reaches.keeps {P : Match → Prop} (h : Reaches config m m')
    (hinput : ∀ {m m'}, OnlyFighters m m' → DuelEngine.frameOf m' = DuelEngine.frameOf m → P m → P m')
    (hadvances : ∀ {m m'}, m.phase ≠ .finished → Advances config m m' → P m → P m')
    (hm : P m) : P m' := by
  have hstep : ∀ m, P m → P (m.step config) := by
    intro m hm
    by_cases hphase : m.phase = .finished
    · rwa [step_of_finished hphase]
    · obtain ⟨next, hnext, hstep⟩ := step_advances config hphase
      rw [hstep]
      exact hinput rfl rfl (hadvances hphase hnext hm)
  let Inv (e : DuelEngine) : Prop := ∃ m, e = ⟨config, some m⟩ ∧ P m
  have hmake : ∀ e c, True → Inv e → Inv (EngineCall.make e c).2 := by
    intro e c _ he
    obtain ⟨m, rfl, hm⟩ := he
    rcases DuelEngine.make_current (e := ⟨config, some m⟩) rfl c with
      ⟨m', -, honly, hframe, hmake⟩ | ⟨-, hmake⟩
    · rw [hmake]
      exact ⟨m', rfl, hinput honly hframe hm⟩
    · rw [hmake]
      exact ⟨m.step config, rfl, hstep m hm⟩
  obtain ⟨calls, hcalls⟩ := h
  have hstart : Inv ⟨config, some m⟩ := ⟨m, rfl, hm⟩
  have hend : Inv (Run.after EngineCall.make ⟨config, some m⟩ calls) :=
    Run.after_invariant Inv (fun _ => True) hmake (fun _ _ => trivial) hstart
  obtain ⟨m'', hreached, hlast⟩ := hend
  rw [hcalls] at hreached
  obtain rfl : m' = m'' := by simpa using hreached
  exact hlast

/-- Whether every frame that can follow has a number. -/
def FramesFit (config : Config) (m : Match) : Prop :=
  ∀ m', Reaches config m m' → m'.FrameFits

/-- Whether every win that can follow can be counted. -/
def WinsFit (config : Config) (m : Match) : Prop := ∀ m', Reaches config m m' → m'.WinFits

/-! ### Room for the counters -/

theorem winsOf_fought (m : Match) (p : String) : m.fought.winsOf p = m.winsOf p := by
  rw [winsOf, winsOf, fought]

/-- A round whose end leaves the match open leaves everybody room for another win. -/
theorem win_fits_of_open (hopen : decided? config m.roundWins = none) (p : String) :
    (m.winsOf p).toNat + 1 < UInt32.size := by
  unfold winsOf
  cases hget : Dict.get? m.roundWins p with
  | none => decide
  | some n =>
      have hmem : (p, n) ∈ m.roundWins := Dict.mem_of_get? hget
      simp only [decided?, Option.map_eq_none_iff, List.find?_eq_none, decide_eq_true_eq] at hopen
      have hless : n.toNat < config.winsNeeded.toNat :=
        UInt32.lt_iff_toNat_lt.mp (UInt32.not_le.mp (hopen (p, n) hmem))
      have hneeded := config.winsNeeded.toNat_lt
      show n.toNat + 1 < UInt32.size
      rw [UInt32.size]
      omega

/-- As long as a match is not decided, there is room for one more win of everybody. -/
def WinsRoom (m : Match) : Prop :=
  m.phase ≠ .finished → ∀ p, (m.winsOf p).toNat + 1 < UInt32.size

theorem winsRoom_of_advances (hphase : m.phase ≠ .finished) (hadvances : Advances config m m')
    (h : m.WinsRoom) : m'.WinsRoom := by
  have hroom := h hphase
  cases hadvances with
  | decides => exact fun hgoes => absurd rfl hgoes
  | @pauses fought _ _ _ hopen =>
      exact fun _ => win_fits_of_open (m := { fought with roundWins := fought.winsAfter }) hopen
  | @fights fought _ hfought =>
      intro _ p
      have hsame : fought.winsOf p = m.winsOf p := by rw [← hfought, winsOf_fought]
      exact hsame ▸ hroom p
  | countsDown | opens | rests | begins => exact fun _ => hroom

/-- Where everybody has room for one more win, all wins that can follow are counted. -/
theorem winsFit_of_room (h : ∀ p, (m.winsOf p).toNat + 1 < UInt32.size) : WinsFit config m := by
  intro m' hreaches
  have hroom : m'.WinsRoom := by
    refine hreaches.keeps (fun honly _ hroom => ?_) winsRoom_of_advances fun _ => h
    rw [honly]
    exact hroom
  intro hphase _ p _
  rw [winsOf_fought]
  exact hroom (by simp [hphase]) p

/-- Who is down has nothing more to lose. -/
theorem hurt_of_down {f attacker : Fighter} (h : f.health ≤ 0) (attack : Option Attack) (random : Generator) :
    f.hurt (damageOf attack attacker f random).1 = f := by
  unfold Fighter.hurt
  refine if_neg fun hdamage => ?_
  exact Int32.not_lt.mpr h (health_pos_of_damageOf hdamage)

theorem health_fought_of_down (m : Match) : (m.left.health ≤ 0 → m.fought.left.health ≤ 0) ∧
    (m.right.health ≤ 0 → m.fought.right.health ≤ 0) := by
  obtain ⟨hleft, hright⟩ := m.health_moved
  rw [← hleft, ← hright, fought]
  constructor <;>
    · intro hdown
      dsimp only [exchange]
      rwa [hurt_of_down hdown, Fighter.health_settle]

/-- The most frames that the current round can still have, from its first blow on. -/
def fightFrames (m : Match) : Nat :=
  if m.left.health ≤ 0 ∨ m.right.health ≤ 0 then 1 else max m.timerFrames.toNat 1

theorem fightFrames_pos (m : Match) : 0 < m.fightFrames := by
  unfold fightFrames
  split <;> omega

theorem fightFrames_le (m : Match) : m.fightFrames ≤ max m.timerFrames.toNat 1 := by
  unfold fightFrames
  split <;> omega

/-- A frame shows how long its round can last. -/
theorem fightFrames_of_frameOf (hframe : DuelEngine.frameOf m' = DuelEngine.frameOf m) :
    m'.fightFrames = m.fightFrames := by
  obtain ⟨-, ⟨hleft, hright⟩, -, -, htimer, -⟩ := frameOf_eq_iff.mp hframe
  have hhealth : m'.left.health = m.left.health := congrArg Entity.health hleft
  have hhealth' : m'.right.health = m.right.health := congrArg Entity.health hright
  rw [fightFrames, fightFrames, hhealth, hhealth', htimer]

theorem fightFrames_fought (hgoes : m.fought.roundEnds = false) :
    m.fightFrames = m.fought.fightFrames + 1 := by
  obtain ⟨hdown, hdown'⟩ := m.health_fought_of_down
  have hclock := m.timerFrames_fought
  generalize m.fought = fought at *
  simp only [roundEnds, Bool.or_eq_false_iff, decide_eq_false_iff_not] at hgoes
  obtain ⟨⟨hleft, hright⟩, htimer⟩ := hgoes
  have halive : ¬ (m.left.health ≤ 0 ∨ m.right.health ≤ 0) :=
    not_or.mpr ⟨mt hdown hleft, mt hdown' hright⟩
  have halive' : ¬ (fought.left.health ≤ 0 ∨ fought.right.health ≤ 0) :=
    not_or.mpr ⟨hleft, hright⟩
  rw [hclock, countDown_eq_zero_iff] at htimer
  rw [fightFrames, fightFrames, if_neg halive, if_neg halive', hclock, toNat_countDown]
  omega

/-- The most frames that can still follow. -/
def framesLeft (config : Config) (m : Match) : Nat :=
  match m.phase with
  | .waiting => max m.phaseFrames.toNat 1 + m.fightFrames + laterFrames config m.round
  | .fighting => m.fightFrames + laterFrames config m.round
  | .roundOver =>
    max m.phaseFrames.toNat 1 + roundLength config + laterFrames config (m.round + 1)
  | .finished => 0

theorem framesLeft_of_frameOf (honly : OnlyFighters m m')
    (hframe : DuelEngine.frameOf m' = DuelEngine.frameOf m) :
    m'.framesLeft config = m.framesLeft config := by
  have hfight := fightFrames_of_frameOf hframe
  rw [honly] at hfight ⊢
  simp only [framesLeft, hfight]

theorem framesLeft_pos (config : Config) (hphase : m.phase ≠ .finished) : 0 < m.framesLeft config := by
  have hfight := m.fightFrames_pos
  unfold framesLeft
  cases hcase : m.phase with
  | finished => exact absurd hcase hphase
  | _ =>
      dsimp only
      omega

/-- A frame takes at least itself from those that are left. -/
theorem framesLeft_advances (hconfig : 0 < config.roundFrames.toNat) (hadvances : Advances config m m') :
    m'.frame = m.frame + 1 ∧ m'.framesLeft config < m.framesLeft config := by
  have hfight := m.fightFrames_pos
  cases hadvances with
  | countsDown hphase hmore =>
      refine ⟨rfl, ?_⟩
      simp only [framesLeft, hphase, toNat_countDown]
      show max (m.phaseFrames.toNat - 1) 1 + m.fightFrames + laterFrames config m.round < _
      omega
  | rests hphase hmore =>
      simp only [framesLeft, hphase, toNat_countDown, true_and]
      omega
  | opens hphase hlast =>
      refine ⟨rfl, ?_⟩
      simp only [framesLeft, hphase]
      show m.fightFrames + laterFrames config m.round < _
      omega
  | @fights fought hphase hfought hgoes =>
      have hstill : fought.phase = .fighting := by rw [← hfought, phase_fought, hphase]
      have hround : fought.round = m.round := by rw [← hfought, round_fought]
      have hframes := fightFrames_fought (m := m) (by rwa [hfought])
      rw [hfought] at hframes
      refine ⟨rfl, ?_⟩
      simp only [framesLeft, hstill, hphase]
      show fought.fightFrames + laterFrames config fought.round < _
      rw [hround]
      omega
  | decides hphase =>
      simp only [framesLeft, hphase, true_and]
      omega
  | @pauses fought hphase hfought _ _ hmore =>
      have hround : fought.round = m.round := by rw [← hfought, round_fought]
      -- the intermission and the round after it were counted as later frames
      have hlater := laterFrames_succ config hmore
      have hfull : intermissionFrames.toNat = 90 := rfl
      simp only [framesLeft, hphase, hround, true_and]
      omega
  | begins hphase hlast =>
      have hlength : roundLength config = 60 + config.roundFrames.toNat := rfl
      have hfull : countdownFrames.toNat = 60 := rfl
      have hfight := (m.beginRound config).fightFrames_le
      have htimer : (m.beginRound config).timerFrames = config.roundFrames := rfl
      rw [htimer] at hfight
      refine ⟨rfl, ?_⟩
      simp only [framesLeft, hphase]
      show max countdownFrames.toNat 1 + (m.beginRound config).fightFrames
        + laterFrames config (m.round + 1) < _
      omega

/-- Where the last frame that can follow has a number, all of them have. -/
theorem framesFit_of_room (hconfig : 0 < config.roundFrames.toNat)
    (h : m.frame.toNat + m.framesLeft config < UInt64.size) : FramesFit config m := by
  intro m' hreaches hphase
  have hroom : m'.phase ≠ .finished → m'.frame.toNat + m'.framesLeft config < UInt64.size := by
    refine hreaches.keeps (P := fun m => m.phase ≠ .finished →
      m.frame.toNat + m.framesLeft config < UInt64.size) (fun honly hframe hroom => ?_)
      (fun {m m'} hgoes hadvances hroom _ => ?_) fun _ => h
    · rw [framesLeft_of_frameOf honly hframe, honly]
      exact hroom
    · obtain ⟨hframe, hless⟩ := framesLeft_advances hconfig hadvances
      have hbefore := hroom hgoes
      rw [hframe, toNat_next64 (by omega)]
      omega
  have hleft := framesLeft_pos config hphase
  have hlast := hroom hphase
  omega

end Match

end Arcade.Duel
