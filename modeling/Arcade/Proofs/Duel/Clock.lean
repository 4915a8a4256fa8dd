import Arcade.Proofs.Duel.Engine
import Arcade.Proofs.Live.Adapter
import Arcade.Proofs.Number.Checked
import Arcade.Proofs.Run
/-!
# The clock of a duel

A duel goes on only as long as its clocks run. Three of them take turns: that of the countdown, that
of the round and that of the intermission, and the rounds are counted. `framesAhead` adds up what all
of them have left. A frame of a match that is not decided takes at least one from it (`step_ticks`),
a knock-out many at once, and inputs take nothing (`inTime_make`). So a duel is decided after as
many frames as nine full rounds with their intermissions have, whatever the players do
(`ends_in_time`).
-/

namespace Arcade.Duel

open Live

/-- The phases that may follow one another from one frame to the next. -/
inductive Follows : MatchPhase → MatchPhase → Prop
  | stay (p : MatchPhase) : Follows p p
  | fight : Follows .waiting .fighting
  | pause : Follows .fighting .roundOver
  | again : Follows .roundOver .waiting
  | decide : Follows .fighting .finished

/-! ### The frames of a round -/

theorem Config.toNat_roundFrames (c : Config) :
    c.roundFrames.toNat = min (60 * c.roundSeconds.toNat) (UInt32.size - 1) := by
  rw [roundFrames, UInt32.toNat_ofNat']
  simp only [tickRate, Words.max32, UInt32.size]
  omega

theorem Config.isPositive_of_ofOptions {options : Json} {c : Config}
    (h : ofOptions options = .ok c) : c.isPositive = true := by
  unfold ofOptions at h
  split at h
  · cases h
    decide
  · split at h
    · cases h
    · split at h
      next hpositive =>
        cases h
        exact hpositive
      · cases h

theorem Config.roundFrames_pos {c : Config} (h : c.isPositive = true) :
    0 < c.roundFrames.toNat := by
  have hseconds : c.roundSeconds.toNat ≠ 0 := by
    intro hzero
    have hnone : c.roundSeconds = 0 := UInt32.toNat_inj.mp hzero
    simp [isPositive, hnone] at h
  rw [toNat_roundFrames, UInt32.size]
  omega

theorem toNat_countDown (n : UInt32) : (countDown n).toNat = n.toNat - 1 := by
  unfold countDown
  split
  next h =>
    subst h
    rfl
  next h =>
    have hpos : 1 ≤ n.toNat := by
      have hne : n.toNat ≠ 0 := fun hzero => h (UInt32.toNat_inj.mp hzero)
      omega
    exact UInt32.toNat_sub_of_le _ _ (UInt32.le_iff_toNat_le.mpr hpos)

theorem countDown_eq_zero_iff (n : UInt32) : countDown n = 0 ↔ n.toNat ≤ 1 := by
  rw [← UInt32.toNat_inj, toNat_countDown]
  show n.toNat - 1 = 0 ↔ n.toNat ≤ 1
  omega

namespace Match

/-! ### What the clocks have left -/

/-- The frames that a round has with its countdown. -/
def roundLength (config : Config) : Nat :=
  countdownFrames.toNat + config.roundFrames.toNat

/-- The frames of the rounds after the current one, each with the intermission before it. -/
def laterFrames (config : Config) (round : UInt32) : Nat :=
  (maxRounds.toNat - round.toNat) * (intermissionFrames.toNat + roundLength config)

/-- The most frames that a match can still have. -/
def framesAhead (config : Config) (m : Match) : Nat :=
  match m.phase with
  | .waiting => m.phaseFrames.toNat + config.roundFrames.toNat + laterFrames config m.round
  | .fighting => m.timerFrames.toNat + laterFrames config m.round
  | .roundOver =>
    m.phaseFrames.toNat + roundLength config + laterFrames config (m.round + 1)
  | .finished => 0

/-- A match whose clocks run: the one of its phase has not run out, and no round is one too many. -/
structure Ticking (config : Config) (m : Match) : Prop where
  round : m.round.toNat ≤ maxRounds.toNat
  waiting : m.phase = .waiting → 0 < m.phaseFrames.toNat ∧ m.timerFrames = config.roundFrames
  fighting : m.phase = .fighting → 0 < m.timerFrames.toNat
  roundOver : m.phase = .roundOver → 0 < m.phaseFrames.toNat ∧ m.round.toNat < maxRounds.toNat

variable {config : Config} {m : Match}

theorem toNat_succ_round {round : UInt32} (h : round.toNat < maxRounds.toNat) :
    (round + 1).toNat = round.toNat + 1 := by
  rw [UInt32.toNat_add]
  have hmax : maxRounds.toNat = 9 := rfl
  have hone : (1 : UInt32).toNat = 1 := rfl
  omega

theorem laterFrames_succ (config : Config) {round : UInt32} (h : round.toNat < maxRounds.toNat) :
    laterFrames config round
      = intermissionFrames.toNat + roundLength config + laterFrames config (round + 1) := by
  have hsucc : maxRounds.toNat - round.toNat = maxRounds.toNat - (round.toNat + 1) + 1 := by omega
  rw [laterFrames, laterFrames, toNat_succ_round h, hsucc, Nat.add_mul, Nat.one_mul, Nat.add_comm]

/-! ### Fighters do not matter to the clocks -/

theorem ticking_of_onlyFighters {m' : Match} (h : OnlyFighters m m') (ht : Ticking config m) :
    Ticking config m' := by
  rw [h]
  exact ⟨ht.round, ht.waiting, ht.fighting, ht.roundOver⟩

theorem framesAhead_of_onlyFighters {m' : Match} (h : OnlyFighters m m') :
    framesAhead config m' = framesAhead config m := by
  rw [h]
  rfl

/-! ### What a frame can do -/

theorem step_of_not_finished (h : m.phase ≠ .finished) : m.step config
    = (({ m with frame := m.frame + 1 } : Match).advance config).releaseInputs := by
  simp only [step, MatchPhase.isFinished, h, decide_false, Bool.false_eq_true, if_false]

theorem step_of_finished (h : m.phase = .finished) : m.step config = m := by
  simp only [step, MatchPhase.isFinished, h, decide_true, if_true]

/-- The wins once the round is over. -/
def winsAfter (m : Match) : Dict UInt32 :=
  match m.roundWinner? with
  | some p => addWin m.roundWins p
  | none => m.roundWins

theorem endRound_eq (config : Config) (m : Match) : m.endRound config =
    match decided? config m.winsAfter with
    | some p => { m with roundWins := m.winsAfter, winner := some p, phase := .finished }
    | none =>
      if maxRounds ≤ m.round then
        { m with roundWins := m.winsAfter, winner := leader? m.winsAfter, phase := .finished }
      else
        { m with
          roundWins := m.winsAfter, phase := .roundOver, phaseFrames := intermissionFrames } :=
  rfl

/-- The end of a round decides the match, unless nobody has enough wins and another round may
follow. -/
theorem endRound_cases (config : Config) (m : Match) :
    (m.endRound config = { m with
      roundWins := m.winsAfter, phase := .finished
      winner := (decided? config m.winsAfter).or (leader? m.winsAfter) }) ∨
    (decided? config m.winsAfter = none ∧ m.round.toNat < maxRounds.toNat ∧
      m.endRound config = { m with
        roundWins := m.winsAfter, phase := .roundOver, phaseFrames := intermissionFrames }) := by
  rw [endRound_eq]
  cases decided? config m.winsAfter with
  | some p => exact Or.inl rfl
  | none =>
      by_cases hlast : maxRounds ≤ m.round
      · simp only [hlast, if_true]
        exact Or.inl rfl
      · simp only [hlast, if_false]
        exact Or.inr ⟨trivial, UInt32.lt_iff_toNat_lt.mp (UInt32.not_le.mp hlast), trivial⟩

/-- A match after the exchange of a frame of fighting, before it is seen whether the round is over. -/
def fought (m : Match) : Match :=
  let exchanged := exchange m.moved.1 m.moved.2.1 m.moved.2.2 m.random
  { m with
    left := exchanged.1.1, right := exchanged.1.2, random := exchanged.2
    timerFrames := countDown m.timerFrames }

theorem frame_fought (m : Match) : m.fought.frame = m.frame := by rw [fought]

theorem phase_fought (m : Match) : m.fought.phase = m.phase := by rw [fought]

theorem round_fought (m : Match) : m.fought.round = m.round := by rw [fought]

theorem timerFrames_fought (m : Match) : m.fought.timerFrames = countDown m.timerFrames := by
  rw [fought]

theorem fight_eq (config : Config) (m : Match) : m.fight config =
    if m.fought.left.health ≤ 0 || m.fought.right.health ≤ 0 || m.fought.timerFrames = 0 then
      m.fought.endRound config
    else m.fought := by
  unfold fight
  rfl

/-- A frame of fighting changes the fighters and takes one from the clock of the round, which it may
bring to its end. -/
theorem fight_cases (config : Config) (m : Match) :
    (m.fought.timerFrames ≠ 0 ∧ m.fight config = m.fought) ∨
      m.fight config = m.fought.endRound config := by
  rw [fight_eq]
  split
  next => exact Or.inr rfl
  next hgoes =>
    refine Or.inl ⟨fun hzero => hgoes ?_, rfl⟩
    simp [hzero]

theorem frame_endRound (config : Config) (m : Match) : (m.endRound config).frame = m.frame := by
  rcases endRound_cases config m with hend | ⟨-, -, hend⟩ <;> rw [hend]

theorem frame_advance (config : Config) (m : Match) : (m.advance config).frame = m.frame := by
  unfold advance
  split
  · rfl
  · rcases fight_cases config m with ⟨-, hfight⟩ | hfight
    · rw [hfight, frame_fought]
    · rw [hfight, frame_endRound, frame_fought]
  · dsimp only
    split <;> rfl
  · rfl

/-- What a frame does to the clocks: they still run, the phase stays or is followed by the next one,
and less is ahead. -/
structure Ticks (config : Config) (m m' : Match) : Prop where
  ticking : Ticking config m'
  follows : Follows m.phase m'.phase
  less : framesAhead config m' < framesAhead config m

/-- The countdown goes on, or the fight begins with the clock of the round full. -/
theorem ticks_of_waiting (h : Ticking config m) (hphase : m.phase = .waiting)
    (hconfig : 0 < config.roundFrames.toNat) : Ticks config m (m.advance config) := by
  obtain ⟨hpos, htimer⟩ := h.waiting hphase
  by_cases hlast : m.phaseFrames.toNat ≤ 1
  · have hadvance : m.advance config
        = { m with phaseFrames := countDown m.phaseFrames, phase := .fighting } := by
      simp only [advance, hphase, countDown_eq_zero_iff, hlast, if_true]
    rw [hadvance]
    refine ⟨⟨h.round, nofun, fun _ => ?_, nofun⟩, ?_, ?_⟩
    · rwa [htimer]
    · rw [hphase]
      exact .fight
    · simp only [framesAhead, hphase, htimer]
      omega
  · have hadvance : m.advance config
        = { m with phaseFrames := countDown m.phaseFrames, phase := .waiting } := by
      simp only [advance, hphase, countDown_eq_zero_iff, hlast, if_false]
    rw [hadvance]
    refine ⟨⟨h.round, fun _ => ⟨?_, htimer⟩, nofun, nofun⟩, ?_, ?_⟩
    · simp only [toNat_countDown]
      omega
    · rw [hphase]
      exact .stay _
    · simp only [framesAhead, hphase, toNat_countDown]
      omega

/-- The round goes on with one frame less on its clock, or it is over, and with it perhaps the match. -/
theorem ticks_of_fighting (h : Ticking config m) (hphase : m.phase = .fighting) :
    Ticks config m (m.advance config) := by
  have htimer := h.fighting hphase
  have hadvance : m.advance config = m.fight config := by simp only [advance, hphase]
  have hround := m.round_fought
  have hclock := m.timerFrames_fought
  have hstill : m.fought.phase = .fighting := m.phase_fought.trans hphase
  have hfight := fight_cases config m
  rw [hadvance]
  generalize m.fought = fought at hround hclock hstill hfight
  have hrounds : fought.round.toNat ≤ maxRounds.toNat := by
    rw [hround]
    exact h.round
  rcases hfight with ⟨hgoes, hfight⟩ | hfight
  · rw [hfight]
    rw [hclock, ne_eq, countDown_eq_zero_iff] at hgoes
    refine ⟨⟨hrounds, fun hwaiting => ?_, fun _ => ?_, fun hover => ?_⟩, ?_, ?_⟩
    · cases hstill.symm.trans hwaiting
    · rw [hclock, toNat_countDown]
      omega
    · cases hstill.symm.trans hover
    · rw [hphase, hstill]
      exact .stay _
    · simp only [framesAhead, hphase, hstill, hround, hclock, toNat_countDown]
      omega
  · rw [hfight]
    rcases endRound_cases config fought with hend | ⟨-, hmore, hend⟩
    · rw [hend]
      refine ⟨⟨hrounds, nofun, nofun, nofun⟩, ?_, ?_⟩
      · rw [hphase]
        exact .decide
      · simp only [framesAhead, hphase]
        omega
    · rw [hend]
      have hfull : 0 < intermissionFrames.toNat := by decide
      refine ⟨⟨hrounds, nofun, nofun, fun _ => ⟨hfull, hmore⟩⟩, ?_, ?_⟩
      · rw [hphase]
        exact .pause
      · -- the intermission and the round after it were counted as later frames
        rw [hround] at hmore
        have hlater := laterFrames_succ config hmore
        simp only [framesAhead, hphase, hround]
        omega

/-- The intermission goes on, or the next round begins with its countdown. -/
theorem ticks_of_roundOver (h : Ticking config m) (hphase : m.phase = .roundOver) :
    Ticks config m (m.advance config) := by
  obtain ⟨hpos, hmore⟩ := h.roundOver hphase
  by_cases hlast : m.phaseFrames.toNat ≤ 1
  · have hadvance : m.advance config
        = ({ m with phaseFrames := countDown m.phaseFrames } : Match).beginRound config := by
      simp only [advance, hphase, countDown_eq_zero_iff, hlast, if_true]
    rw [hadvance]
    refine ⟨⟨?_, fun _ => ⟨show 0 < countdownFrames.toNat by decide, rfl⟩, nofun, nofun⟩, ?_, ?_⟩
    · simp only [beginRound, toNat_succ_round hmore]
      omega
    · rw [hphase]
      exact .again
    · simp only [framesAhead, hphase, beginRound, roundLength]
      omega
  · have hadvance : m.advance config = { m with phaseFrames := countDown m.phaseFrames } := by
      simp only [advance, hphase, countDown_eq_zero_iff, hlast, if_false]
    rw [hadvance]
    refine ⟨⟨h.round, fun hwaiting => ?_, fun hfighting => ?_, fun _ => ⟨?_, hmore⟩⟩, .stay _, ?_⟩
    · cases hphase.symm.trans hwaiting
    · cases hphase.symm.trans hfighting
    · simp only [toNat_countDown]
      omega
    · simp only [framesAhead, hphase, toNat_countDown]
      omega

theorem ticks_advance (h : Ticking config m) (hphase : m.phase ≠ .finished)
    (hconfig : 0 < config.roundFrames.toNat) : Ticks config m (m.advance config) := by
  cases hcase : m.phase with
  | waiting => exact ticks_of_waiting h hcase hconfig
  | fighting => exact ticks_of_fighting h hcase
  | roundOver => exact ticks_of_roundOver h hcase
  | finished => exact absurd hcase hphase

/-- A frame of a match that is not decided has the next number, and takes from the clocks. -/
theorem step_ticks (h : Ticking config m) (hphase : m.phase ≠ .finished)
    (hconfig : 0 < config.roundFrames.toNat) :
    (m.step config).frame = m.frame + 1 ∧ Ticks config m (m.step config) := by
  have hcounted : Ticking config ({ m with frame := m.frame + 1 } : Match) :=
    ⟨h.round, h.waiting, h.fighting, h.roundOver⟩
  have hticks := ticks_advance hcounted hphase hconfig
  rw [step_of_not_finished hphase]
  exact ⟨frame_advance config _, ticking_of_onlyFighters rfl hticks.ticking, hticks.follows,
    hticks.less⟩

/-! ### The start -/

theorem ticking_begin (config : Config) (left right : String) (seed : UInt64) :
    Ticking config (begin config left right seed) where
  round := show ((0 : UInt32) + 1).toNat ≤ maxRounds.toNat by decide
  waiting _ := ⟨show 0 < countdownFrames.toNat by decide, rfl⟩
  fighting h := nomatch h
  roundOver h := nomatch h

theorem framesAhead_begin (config : Config) (left right : String) (seed : UInt64) :
    framesAhead config (begin config left right seed)
      = 9 * (60 + config.roundFrames.toNat) + 8 * 90 := by
  show 60 + config.roundFrames.toNat + (9 - 1) * (90 + (60 + config.roundFrames.toNat)) = _
  omega

end Match

/-! ### The engine under any calls -/

namespace DuelEngine

variable {e : DuelEngine} {m : Match}

/-- A call sets an input, which no frame shows, or makes one step. -/
theorem make_current (hm : e.current = some m) (c : EngineCall) :
    (∃ m', c ≠ .step ∧ OnlyFighters m m' ∧ frameOf m' = frameOf m ∧
      (EngineCall.make e c).2 = { e with current := some m' }) ∨
    (c = .step ∧ EngineCall.make e c = (.ok (), { e with current := some (m.step e.config) })) := by
  cases c with
  | step =>
      right
      simp only [EngineCall.make, Engine.step, step, hm, and_self]
  | setInput player buttons =>
      left
      simp only [EngineCall.make, Engine.setInput, setInput, hm]
      cases hu : m.updateFighter? player (fun f => { f with input := buttons }) with
      | none =>
          refine ⟨m, by simp, .refl m, rfl, ?_⟩
          show e = { e with current := some m }
          rw [← hm]
      | some m' =>
          refine ⟨m', by simp, onlyFighters_of_updateFighter? hu, ?_, rfl⟩
          unfold Match.updateFighter? at hu
          split at hu
          · cases hu
            rfl
          · split at hu
            · cases hu
              rfl
            · cases hu

/-- An engine after so many steps: its clocks run, and unless the match is decided it has shown as many
frames, which together with those ahead do not exceed the bound. -/
def InTime (bound steps : Nat) (e : DuelEngine) : Prop :=
  ∃ m, e.current = some m ∧ m.Ticking e.config ∧
    (m.phase ≠ .finished → m.frame.toNat = steps ∧ steps + m.framesAhead e.config ≤ bound)

theorem inTime_make {bound steps : Nat} (hbound : bound < UInt64.size)
    (hconfig : 0 < e.config.roundFrames.toNat) (h : InTime bound steps e) (c : EngineCall) :
    (EngineCall.make e c).2.config = e.config ∧
      InTime bound (steps + if c == .step then 1 else 0) (EngineCall.make e c).2 := by
  obtain ⟨m, hm, hticking, htime⟩ := h
  rcases make_current hm c with ⟨m', hc, honly, -, hmake⟩ | ⟨rfl, hmake⟩
  · rw [hmake, if_neg (by simpa using hc), Nat.add_zero]
    refine ⟨rfl, m', rfl, Match.ticking_of_onlyFighters honly hticking, ?_⟩
    rw [Match.framesAhead_of_onlyFighters honly, honly]
    exact htime
  · rw [hmake]
    refine ⟨rfl, m.step e.config, rfl, ?_⟩
    by_cases hphase : m.phase = .finished
    · have hsame : m.step e.config = m := Match.step_of_finished hphase
      rw [hsame]
      exact ⟨hticking, fun hgoes => absurd hphase hgoes⟩
    · obtain ⟨hnumber, hahead⟩ := htime hphase
      obtain ⟨hframe, hticks, -, hless⟩ := Match.step_ticks hticking hphase hconfig
      refine ⟨hticks, fun _ => ⟨?_, ?_⟩⟩
      · rw [hframe, Checked.toNat_next64 (by omega), hnumber]
        rfl
      · show steps + 1 + (m.step e.config).framesAhead e.config ≤ bound
        omega

theorem inTime_after {bound steps : Nat} (hbound : bound < UInt64.size)
    (hconfig : 0 < e.config.roundFrames.toNat) (h : InTime bound steps e) (calls : List EngineCall) :
    (Run.after EngineCall.make e calls).config = e.config ∧
      InTime bound (steps + calls.count .step) (Run.after EngineCall.make e calls) := by
  induction calls generalizing e steps with
  | nil => exact ⟨rfl, h⟩
  | cons c rest ih =>
      obtain ⟨hsame, hnext⟩ := inTime_make hbound hconfig h c
      obtain ⟨hrest, hlast⟩ := ih (by rwa [hsame]) hnext
      refine ⟨hrest.trans hsame, ?_⟩
      rwa [List.count_cons, Nat.add_comm (List.count _ rest), ← Nat.add_assoc]

/-- A decided match shows the same frame whatever is called. -/
theorem snapshot_after_of_finished (hm : e.current = some m) (hphase : m.phase = .finished)
    (calls : List EngineCall) :
    Engine.snapshot (Run.after EngineCall.make e calls) = .ok (frameOf m) := by
  induction calls generalizing e m with
  | nil => simp only [Run.after_nil, Engine.snapshot, snapshot, hm]
  | cons c rest ih =>
      rw [Run.after_cons]
      rcases make_current hm c with ⟨m', -, honly, hframe, hmake⟩ | ⟨-, hmake⟩
      · rw [hmake, ← hframe]
        exact ih rfl (by rw [honly]; exact hphase)
      · have hsame : m.step e.config = m := Match.step_of_finished hphase
        rw [hmake, hsame]
        exact ih rfl hphase

/-- **Every duel ends.** With `F` frames on the clock of a round, a duel is decided after at most
`9 * (60 + F) + 8 * 90` steps, whatever inputs are set between them. Until then each step shows the
next frame, in the same phase or the one that follows it; a decided duel shows the same frame
for ever. -/
theorem ends_in_time {options : Json} {config : Config}
    (hoptions : Config.ofOptions options = .ok config) (engine : DuelEngine)
    (hengine : engine.config = config) (left right : String) (seed : UInt64)
    (calls : List EngineCall) :
    let F := min (60 * config.roundSeconds.toNat) (UInt32.size - 1)
    let begun := Engine.start engine [left, right] seed
    let reached := Run.after EngineCall.make begun.2 calls
    begun.1 = .ok () ∧ ∃ frame, Engine.snapshot reached = .ok frame ∧
      (9 * (60 + F) + 8 * 90 ≤ calls.count .step → frame.info.phase = .finished) ∧
      (frame.info.phase ≠ .finished → ∃ next, (Engine.step reached).1 = .ok () ∧
        Engine.snapshot (Engine.step reached).2 = .ok next ∧
        next.frame.toNat = frame.frame.toNat + 1 ∧ Follows frame.info.phase next.info.phase) ∧
      (frame.info.phase = .finished → ∀ more,
        Engine.snapshot (Run.after EngineCall.make reached more) = .ok frame) := by
  intro F begun reached
  subst hengine
  have hpos := Config.roundFrames_pos (Config.isPositive_of_ofOptions hoptions)
  have hF : engine.config.roundFrames.toNat = F := engine.config.toNat_roundFrames
  have hsmall : 9 * (60 + F) + 8 * 90 < UInt64.size := by
    have hround : F ≤ UInt32.size - 1 := Nat.min_le_right _ _
    simp only [UInt32.size, UInt64.size] at hround ⊢
    omega
  have hstart : InTime (9 * (60 + F) + 8 * 90) 0 begun.2 := by
    refine ⟨_, rfl, Match.ticking_begin _ left right seed, fun _ => ⟨rfl, ?_⟩⟩
    show 0 + Match.framesAhead engine.config (.begin engine.config left right seed) ≤ _
    rw [Match.framesAhead_begin, hF]
    omega
  have hbegun : 0 < begun.2.config.roundFrames.toNat := hpos
  obtain ⟨hsame, m, hm, hticking, htime⟩ : reached.config = engine.config ∧
      InTime (9 * (60 + F) + 8 * 90) (0 + calls.count .step) reached :=
    inTime_after hsmall hbegun hstart calls
  rw [hsame] at hticking htime
  refine ⟨rfl, frameOf m, ?_, fun henough => ?_, fun hphase => ?_, fun hphase more => ?_⟩
  · simp only [reached, Engine.snapshot, snapshot, hm]
  · refine Classical.byContradiction fun hphase => ?_
    have hahead : 0 < m.framesAhead engine.config := by
      have hless := (Match.step_ticks hticking hphase hpos).2.less
      omega
    have hless := (htime hphase).2
    show False
    omega
  · obtain ⟨hframe, -, hfollows, hticks⟩ := Match.step_ticks hticking hphase hpos
    obtain ⟨hnumber, hless⟩ := htime hphase
    refine ⟨frameOf (m.step engine.config), ?_, ?_, ?_, hfollows⟩
    · simp only [reached, Engine.step, step, hm]
    · simp only [reached, Engine.step, step, hm, Engine.snapshot, snapshot, hsame]
    · show (m.step engine.config).frame.toNat = m.frame.toNat + 1
      rw [hframe, Checked.toNat_next64 (by omega)]
  · exact snapshot_after_of_finished hm hphase more

/-- With rounds of one second the bound is 1800 steps, idle ones here. -/
theorem ends_in_time_of_one_second :
    let options : Json := .obj [("round_seconds", .nat 1)]
    let engine : DuelEngine := { config := { roundSeconds := 1 } }
    let idle := List.replicate 1800 EngineCall.step
    let reached := Run.after EngineCall.make (Engine.start engine ["a", "b"] 7).2 idle
    Config.ofOptions options = .ok engine.config ∧
      ∃ frame, Engine.snapshot reached = .ok frame ∧ frame.info.phase = .finished := by
  intro options engine idle reached
  have hoptions : Config.ofOptions options = .ok engine.config := rfl
  obtain ⟨-, frame, hframe, hended, -, -⟩ := ends_in_time hoptions engine rfl "a" "b" 7 idle
  refine ⟨hoptions, frame, hframe, hended ?_⟩
  show 1800 ≤ (List.replicate 1800 EngineCall.step).count .step
  exact Nat.le_of_eq List.count_replicate_self.symm

end DuelEngine

end Arcade.Duel
