import Arcade.Proofs.Duel.Clock
import Arcade.Proofs.Duel.Resume
/-!
# The verdict of a duel

Two rules decide a match: somebody has enough wins, or the last round is over and somebody leads.
`Tally` is what both rules leave true at any time, with a count of the rounds that are over. It holds at
the start (`tally_begin`), a frame keeps it (`tally_step`), and so does a run of calls of an engine
(`tallied_after`). Both rules name the player who has won more rounds, if there is one
(`majority_of_verdict`), so a decided duel is always won by a majority (`verdict_is_majority`).
-/

namespace Arcade.Duel

open Live

theorem Config.winsNeeded_pos {c : Config} (h : c.isPositive = true) : 0 < c.winsNeeded := by
  have hsome : c.winsNeeded ≠ 0 := by
    intro hnone
    simp [isPositive, hnone] at h
  exact UInt32.pos_iff_ne_zero.mpr hsome

/-- The player with more wins, unless both have as many. -/
def majority (p q : String) (a b : UInt32) : Option String :=
  if b < a then some p else if a < b then some q else none

theorem majority_eq_some_iff {p q w : String} {a b : UInt32} :
    majority p q a b = some w ↔ (w = p ∧ b < a) ∨ (w = q ∧ a < b) := by
  unfold majority
  by_cases hleft : b < a
  · simp [hleft, UInt32.lt_asymm hleft, eq_comm]
  · by_cases hright : a < b
    · simp [hleft, hright, eq_comm]
    · simp [hleft, hright]

namespace Match

variable {config : Config} {m m' : Match} {p q : String} {a b : UInt32} {ended : Nat}

/-! ### The two rules -/

/-- The leader does not depend on whose id comes first. -/
theorem leader?_pair (hne : p ≠ q) (a b : UInt32) :
    leader? (Dict.ofList [(p, a), (q, b)]) = majority p q a b := by
  rw [Dict.ofList_pair hne]
  split
  · simp only [leader?, majority]
    by_cases hleft : b < a
    · simp [hleft, UInt32.lt_asymm hleft]
    · simp [hleft]
  · simp only [leader?, majority]

/-- Whoever has enough wins, one of two at most, is the one who is found. -/
theorem decided?_pair (hne : p ≠ q) (hone : a < config.winsNeeded ∨ b < config.winsNeeded) :
    decided? config (Dict.ofList [(p, a), (q, b)]) =
      if config.winsNeeded ≤ a then some p else if config.winsNeeded ≤ b then some q else none := by
  have hnot : ¬ (config.winsNeeded ≤ a ∧ config.winsNeeded ≤ b) := by
    rintro ⟨ha, hb⟩
    rcases hone with hless | hless
    · exact UInt32.not_le.mpr hless ha
    · exact UInt32.not_le.mpr hless hb
  rw [Dict.ofList_pair hne]
  by_cases ha : config.winsNeeded ≤ a
  · have hb : ¬ config.winsNeeded ≤ b := fun hb => hnot ⟨ha, hb⟩
    split <;> simp [decided?, ha, hb]
  · split <;> by_cases hb : config.winsNeeded ≤ b <;> simp [decided?, ha, hb]

/-- Both rules name the player with more wins: with enough of them he has more than the other. -/
theorem majority_of_verdict (hne : p ≠ q) (ha : a ≤ config.winsNeeded) (hb : b ≤ config.winsNeeded)
    (hone : a < config.winsNeeded ∨ b < config.winsNeeded) :
    (decided? config (Dict.ofList [(p, a), (q, b)])).or (leader? (Dict.ofList [(p, a), (q, b)]))
      = majority p q a b := by
  rw [decided?_pair hne hone, leader?_pair hne]
  simp only [UInt32.le_iff_toNat_le, UInt32.lt_iff_toNat_lt] at ha hb hone
  by_cases hwon : config.winsNeeded ≤ a
  · have hmore : b < a := by
      simp only [UInt32.le_iff_toNat_le, UInt32.lt_iff_toNat_lt] at hwon ⊢
      omega
    simp [majority, hwon, hmore]
  · by_cases hlost : config.winsNeeded ≤ b
    · have hmore : a < b := by
        simp only [UInt32.le_iff_toNat_le, UInt32.lt_iff_toNat_lt] at hwon hlost ⊢
        omega
      simp [majority, hwon, hlost, hmore, UInt32.lt_asymm hmore]
    · simp [hwon, hlost]

/-! ### What is true of the wins -/

/-- Whether the fight of the current round is still to come or under way. -/
def RoundOpen (m : Match) : Prop := m.phase = .waiting ∨ m.phase = .fighting

instance (m : Match) : Decidable m.RoundOpen :=
  inferInstanceAs (Decidable (_ ∨ _))

/-- The wins of two players in their seats after so many rounds: nobody has more than enough, and
somebody has enough only of a match that is decided, for the player who has more. -/
structure Tally (config : Config) (p q : String) (ended : Nat) (a b : UInt32) (m : Match) : Prop where
  left : m.left.id = p
  right : m.right.id = q
  wins : m.roundWins = Dict.ofList [(p, a), (q, b)]
  round : m.round.toNat = if m.RoundOpen then ended + 1 else ended
  total : a.toNat + b.toNat ≤ ended
  left_le : a ≤ config.winsNeeded
  right_le : b ≤ config.winsNeeded
  undecided : m.phase ≠ .finished →
    a < config.winsNeeded ∧ b < config.winsNeeded ∧ m.winner = none
  decided : m.phase = .finished → m.winner = majority p q a b

theorem tally_begin (hneeded : 0 < config.winsNeeded) (p q : String) (seed : UInt64) :
    Tally config p q 0 0 0 (begin config p q seed) where
  left := rfl
  right := rfl
  wins := rfl
  round := rfl
  total := Nat.le_refl 0
  left_le := UInt32.le_of_lt hneeded
  right_le := UInt32.le_of_lt hneeded
  undecided _ := ⟨hneeded, hneeded, rfl⟩
  decided h := by cases h

/-- Rounds are never more than nine. -/
theorem Tally.ended_le (h : Tally config p q ended a b m) (hticking : Ticking config m) :
    ended ≤ 9 := by
  have hround : m.round.toNat ≤ 9 := hticking.round
  have hcount := h.round
  split at hcount <;> omega

/-- A match with the same seats, rounds and verdict has the same tally. -/
theorem Tally.congr (h : Tally config p q ended a b m) (hleft : m'.left.id = m.left.id)
    (hright : m'.right.id = m.right.id) (hwins : m'.roundWins = m.roundWins)
    (hround : m'.round = m.round) (hopen : m'.RoundOpen ↔ m.RoundOpen)
    (hfinished : m'.phase = .finished ↔ m.phase = .finished) (hwinner : m'.winner = m.winner) :
    Tally config p q ended a b m' where
  left := hleft.trans h.left
  right := hright.trans h.right
  wins := hwins.trans h.wins
  round := by
    rw [hround, h.round]
    simp only [hopen]
  total := h.total
  left_le := h.left_le
  right_le := h.right_le
  undecided hphase := by
    rw [hwinner]
    exact h.undecided (mt hfinished.mpr hphase)
  decided hphase := by
    rw [hwinner]
    exact h.decided (hfinished.mp hphase)

/-! ### One frame -/

/-- One round more is over, and one of the players, or nobody, has won it. -/
theorem tally_endRound (hne : p ≠ q) (h : Tally config p q ended a b m)
    (hlast : m.round.toNat ≤ maxRounds.toNat) (hphase : m.phase = .fighting) :
    ∃ a' b', Tally config p q (ended + 1) a' b' (m.endRound config) := by
  obtain ⟨hless, hless', hnone⟩ := h.undecided (by simp [hphase])
  have hround : m.round.toNat = ended + 1 := by
    rw [h.round, if_pos]
    exact Or.inr hphase
  have htotal := h.total
  obtain ⟨a', b', hwins, hcase⟩ := winsAfter_cases hne h.left h.right h.wins
  -- the counters do not wrap, so the wins of one player at most have reached what is needed
  obtain ⟨htotal', hle, hle', hone⟩ : a'.toNat + b'.toNat ≤ ended + 1 ∧ a' ≤ config.winsNeeded ∧
      b' ≤ config.winsNeeded ∧ (a' < config.winsNeeded ∨ b' < config.winsNeeded) := by
    have ha : (a + 1).toNat = a.toNat + 1 := toNat_succ_round (by omega)
    have hb : (b + 1).toNat = b.toNat + 1 := toNat_succ_round (by omega)
    simp only [UInt32.le_iff_toNat_le, UInt32.lt_iff_toNat_lt] at hless hless' ⊢
    rcases hcase with ⟨rfl, rfl⟩ | ⟨rfl, rfl⟩ | ⟨rfl, rfl⟩ <;> omega
  refine ⟨a', b', ?_⟩
  rcases endRound_cases config m with hend | ⟨hopen, -, hend⟩
  · rw [hend]
    refine ⟨h.left, h.right, hwins, ?_, htotal', hle, hle', fun hgoes => absurd rfl hgoes, fun _ => ?_⟩
    · rw [hround, if_neg (by simp [RoundOpen])]
    · rw [hwins]
      exact majority_of_verdict hne hle hle' hone
  · rw [hend]
    refine ⟨h.left, h.right, hwins, ?_, htotal', hle, hle', fun _ => ?_, fun hover => by cases hover⟩
    · rw [hround, if_neg (by simp [RoundOpen])]
    · rw [hwins, decided?_pair hne hone] at hopen
      split at hopen
      · cases hopen
      next hleft =>
        split at hopen
        · cases hopen
        next hright => exact ⟨UInt32.not_le.mp hleft, UInt32.not_le.mp hright, hnone⟩

theorem tally_fought (h : Tally config p q ended a b m) : Tally config p q ended a b m.fought := by
  obtain ⟨hleft, hright⟩ := id_exchange m.moved.1 m.moved.2.1 m.moved.2.2 m.random
  have hphase : m.fought.phase = m.phase := m.phase_fought
  refine h.congr ?_ ?_ ?_ m.round_fought ?_ ?_ ?_
  · rw [fought, hleft, m.id_moved.1]
  · rw [fought, hright, m.id_moved.2]
  · rw [fought]
  · rw [RoundOpen, RoundOpen, hphase]
  · rw [hphase]
  · rw [fought]

/-- How many rounds are over with a frame. -/
def roundsEnding (before after : MatchPhase) : Nat :=
  if before = .fighting ∧ after ≠ .fighting then 1 else 0

/-- The fight goes on, or the round ends with it. -/
theorem tally_fight (hne : p ≠ q) (h : Tally config p q ended a b m)
    (hlast : m.round.toNat ≤ maxRounds.toNat) (hphase : m.phase = .fighting) :
    ∃ a' b', Tally config p q (ended + roundsEnding m.phase (m.fight config).phase) a' b'
      (m.fight config) := by
  have hstill : m.fought.phase = .fighting := m.phase_fought.trans hphase
  have hfought : Tally config p q ended a b m.fought := tally_fought h
  rcases fight_cases config m with ⟨-, hfight⟩ | hfight
  · rw [hfight, roundsEnding, if_neg (by simp [hstill])]
    exact ⟨a, b, hfought⟩
  · have hended : (m.fought.endRound config).phase ≠ .fighting := by
      rcases endRound_cases config m.fought with hend | ⟨-, -, hend⟩ <;> rw [hend] <;> simp
    rw [hfight, roundsEnding, if_pos ⟨hphase, hended⟩]
    exact tally_endRound hne hfought (by rwa [round_fought]) hstill

/-- No round is over with a countdown. -/
theorem tally_of_waiting (h : Tally config p q ended a b m) (hphase : m.phase = .waiting) :
    Tally config p q (ended + roundsEnding m.phase (m.advance config).phase) a b
      (m.advance config) := by
  rw [roundsEnding, if_neg (by simp [hphase]), Nat.add_zero]
  simp only [advance, hphase]
  refine h.congr rfl rfl rfl rfl ?_ ?_ rfl
  · unfold RoundOpen
    split <;> simp [hphase]
  · split <;> simp [hphase]

/-- The round after an intermission is one more. -/
theorem tally_of_roundOver (h : Tally config p q ended a b m) (hphase : m.phase = .roundOver)
    (hmore : m.round.toNat < maxRounds.toNat) :
    Tally config p q (ended + roundsEnding m.phase (m.advance config).phase) a b
      (m.advance config) := by
  obtain ⟨hless, hless', hnone⟩ := h.undecided (by simp [hphase])
  have hround : m.round.toNat = ended := by
    rw [h.round, if_neg (by simp [RoundOpen, hphase])]
  rw [roundsEnding, if_neg (by simp [hphase]), Nat.add_zero]
  by_cases hlast : m.phaseFrames.toNat ≤ 1
  · have hadvance : m.advance config
        = ({ m with phaseFrames := countDown m.phaseFrames } : Match).beginRound config := by
      simp only [advance, hphase, countDown_eq_zero_iff, hlast, if_true]
    have hopen : (m.advance config).RoundOpen := by
      rw [hadvance]
      exact Or.inl rfl
    rw [hadvance] at hopen ⊢
    refine ⟨h.left, h.right, h.wins, ?_, h.total, h.left_le, h.right_le,
      fun _ => ⟨hless, hless', hnone⟩, fun hover => by cases hover⟩
    rw [if_pos hopen, ← hround]
    exact toNat_succ_round hmore
  · have hadvance : m.advance config = { m with phaseFrames := countDown m.phaseFrames } := by
      simp only [advance, hphase, countDown_eq_zero_iff, hlast, if_false]
    rw [hadvance]
    exact h.congr rfl rfl rfl rfl Iff.rfl Iff.rfl rfl

theorem tally_advance (hne : p ≠ q) (h : Tally config p q ended a b m) (hticking : Ticking config m) :
    ∃ a' b', Tally config p q (ended + roundsEnding m.phase (m.advance config).phase) a' b'
      (m.advance config) := by
  cases hphase : m.phase with
  | waiting => exact ⟨a, b, hphase ▸ tally_of_waiting h hphase⟩
  | fighting =>
      have hadvance : m.advance config = m.fight config := by simp only [advance, hphase]
      rw [hadvance, ← hphase]
      exact tally_fight hne h hticking.round hphase
  | roundOver => exact ⟨a, b, hphase ▸ tally_of_roundOver h hphase (hticking.roundOver hphase).2⟩
  | finished =>
      have hadvance : m.advance config = m := by simp only [advance, hphase]
      rw [hadvance, hphase]
      exact ⟨a, b, h⟩

/-- A frame keeps the tally, with one round more if it ends one. -/
theorem tally_step (hne : p ≠ q) (h : Tally config p q ended a b m) (hticking : Ticking config m) :
    ∃ a' b', Tally config p q (ended + roundsEnding m.phase (m.step config).phase) a' b'
      (m.step config) := by
  by_cases hphase : m.phase = .finished
  · rw [step_of_finished hphase, hphase]
    exact ⟨a, b, h⟩
  · have hcounted : Tally config p q ended a b ({ m with frame := m.frame + 1 } : Match) :=
      h.congr rfl rfl rfl rfl Iff.rfl Iff.rfl rfl
    have hclock : Ticking config ({ m with frame := m.frame + 1 } : Match) :=
      ⟨hticking.round, hticking.waiting, hticking.fighting, hticking.roundOver⟩
    obtain ⟨a', b', hnext⟩ := tally_advance hne hcounted hclock
    rw [step_of_not_finished hphase]
    exact ⟨a', b', hnext.congr rfl rfl rfl rfl Iff.rfl Iff.rfl rfl⟩

end Match

/-! ### The engine under any calls -/

namespace DuelEngine

variable {e : DuelEngine} {p q : String} {ended : Nat}

/-- The phase that the current frame of an engine shows. -/
def shownPhase? (e : DuelEngine) : Option MatchPhase :=
  (Engine.snapshot e).toOption.map fun frame => frame.info.phase

/-- How many rounds come to their end in a run: in so many of its calls a fight is over. -/
def roundsEnded (e : DuelEngine) : List EngineCall → Nat
  | [] => 0
  | c :: rest =>
    let e' := (EngineCall.make e c).2
    (if e.shownPhase? = some .fighting ∧ e'.shownPhase? ≠ some .fighting then 1 else 0)
      + roundsEnded e' rest

/-- An engine whose match has a tally after so many rounds, while its clocks run. -/
def Tallied (p q : String) (ended : Nat) (e : DuelEngine) : Prop :=
  ∃ m a b, e.current = some m ∧ m.Ticking e.config ∧ m.Tally e.config p q ended a b

theorem shownPhase?_of_current {m : Match} (h : e.current = some m) : e.shownPhase? = some m.phase := by
  simp only [shownPhase?, Engine.snapshot, snapshot, h]
  rfl

theorem roundsEnded_cons {m m' : Match} {c : EngineCall} (hm : e.current = some m)
    (hm' : (EngineCall.make e c).2.current = some m') (rest : List EngineCall) :
    roundsEnded e (c :: rest)
      = Match.roundsEnding m.phase m'.phase + roundsEnded (EngineCall.make e c).2 rest := by
  simp only [roundsEnded, shownPhase?_of_current hm, shownPhase?_of_current hm', Option.some.injEq,
    Match.roundsEnding, ne_eq]

theorem tallied_after (hne : p ≠ q) (hconfig : 0 < e.config.roundFrames.toNat)
    (h : Tallied p q ended e) (calls : List EngineCall) :
    (Run.after EngineCall.make e calls).config = e.config ∧
      Tallied p q (ended + roundsEnded e calls) (Run.after EngineCall.make e calls) := by
  induction calls generalizing e ended with
  | nil => exact ⟨rfl, h⟩
  | cons c rest ih =>
      obtain ⟨m, a, b, hm, hticking, htally⟩ := h
      rcases make_current hm c with ⟨m', -, honly, hframe, hmake⟩ | ⟨rfl, hmake⟩
      · -- an input reaches the fighters only, and no frame shows it
        obtain ⟨-, ⟨hleft, hright⟩, hphase, -⟩ := Match.frameOf_eq_iff.mp hframe
        have hended := roundsEnded_cons hm (congrArg DuelEngine.current hmake) rest
        rw [hphase] at hended
        have hnone : Match.roundsEnding m.phase m.phase = 0 := by
          simp [Match.roundsEnding]
        rw [hended, hnone, Nat.zero_add, Run.after_cons, hmake]
        refine ih hconfig ⟨m', a, b, rfl, Match.ticking_of_onlyFighters honly hticking, ?_⟩
        refine htally.congr (congrArg Entity.id hleft) (congrArg Entity.id hright) ?_ ?_ ?_ ?_ ?_ <;>
          rw [honly]
        exact Iff.rfl
      · have hended := roundsEnded_cons hm (congrArg (DuelEngine.current ∘ Prod.snd) hmake) rest
        obtain ⟨a', b', hnext⟩ := Match.tally_step hne htally hticking
        rw [hended, ← Nat.add_assoc, Run.after_cons, hmake]
        refine ih hconfig ⟨m.step e.config, a', b', rfl, ?_, hnext⟩
        by_cases hphase : m.phase = .finished
        · show (m.step e.config).Ticking e.config
          rw [Match.step_of_finished hphase]
          exact hticking
        · exact (Match.step_ticks hticking hphase hconfig).2.ticking

/-- **A duel is won by a majority of its rounds.** Whatever is called after the start, the wins of both
players add up to at most the number of rounds that are over, nine at most, and the frame counts these
rounds. Nobody wins more than what is needed; a duel that nobody has decided yet has no winner and
leaves both below it; a decided one is won by the player who has won more rounds, and by nobody if both
have won as many. -/
theorem verdict_is_majority {options : Json} {config : Config}
    (hoptions : Config.ofOptions options = .ok config) (engine : DuelEngine)
    (hengine : engine.config = config) {left right : String} (hne : left ≠ right) (seed : UInt64)
    (calls : List EngineCall) :
    let begun := Engine.start engine [left, right] seed
    let reached := Run.after EngineCall.make begun.2 calls
    let ended := roundsEnded begun.2 calls
    begun.1 = .ok () ∧ ∃ frame a b, Engine.snapshot reached = .ok frame ∧
      frame.info.roundWins = Dict.ofList [(left, a), (right, b)] ∧
      (frame.info.round.toNat =
        if frame.info.phase = .waiting ∨ frame.info.phase = .fighting then ended + 1 else ended) ∧
      a.toNat + b.toNat ≤ ended ∧ ended ≤ 9 ∧ a ≤ config.winsNeeded ∧ b ≤ config.winsNeeded ∧
      (frame.info.phase ≠ .finished →
        a < config.winsNeeded ∧ b < config.winsNeeded ∧ frame.info.winner = none) ∧
      (frame.info.phase = .finished → ∀ player, frame.info.winner = some player ↔
        (player = left ∧ b < a) ∨ (player = right ∧ a < b)) := by
  intro begun reached ended
  subst hengine
  have hpositive := Config.isPositive_of_ofOptions hoptions
  have hneeded : 0 < engine.config.winsNeeded := Config.winsNeeded_pos hpositive
  have hstart : Tallied left right 0 begun.2 :=
    ⟨_, 0, 0, rfl, Match.ticking_begin _ left right seed, Match.tally_begin hneeded left right seed⟩
  have hbegun : 0 < begun.2.config.roundFrames.toNat := Config.roundFrames_pos hpositive
  obtain ⟨hsame, m, a, b, hm, hticking, htally⟩ : reached.config = engine.config ∧
      Tallied left right (0 + ended) reached :=
    tallied_after hne hbegun hstart calls
  rw [hsame] at hticking htally
  rw [Nat.zero_add] at htally
  refine ⟨rfl, frameOf m, a, b, ?_, htally.wins, htally.round, htally.total, htally.ended_le hticking,
    htally.left_le, htally.right_le, htally.undecided, fun hphase player => ?_⟩
  · simp only [reached, Engine.snapshot, snapshot, hm]
  · show m.winner = some player ↔ _
    rw [htally.decided hphase, majority_eq_some_iff]

/-- The second player is knocked out in the only round that is needed: the wins of the last frame name
the winner. -/
theorem verdict_of_knock_out :
    let options : Json := .obj [("health", .nat 1), ("wins_needed", .nat 1)]
    let engine : DuelEngine := { config := { winsNeeded := 1, health := 1 } }
    let approach : List EngineCall := [.setInput "a" .moveRight, .setInput "b" .moveLeft, .step]
    let calls := List.replicate 60 .step ++ (List.replicate 16 approach).flatten
      ++ [.setInput "a" .special, .step]
    let reached := Run.after EngineCall.make (Engine.start engine ["a", "b"] 7).2 calls
    Config.ofOptions options = .ok engine.config ∧ "a" ≠ "b" ∧
      ∃ frame, Engine.snapshot reached = .ok frame ∧ frame.info.phase = .finished ∧
        frame.info.winner = some "a" := by
  intro options engine approach calls reached
  have hoptions : Config.ofOptions options = .ok engine.config := rfl
  have hne : "a" ≠ "b" := by decide
  obtain ⟨-, frame, a, b, hframe, hwins, -, -, -, -, -, -, hdecided⟩ :=
    verdict_is_majority hoptions engine rfl hne 7 calls
  have hlast : (Engine.snapshot reached).toOption.map
      (fun frame => (frame.info.phase, frame.info.roundWins))
        = some (.finished, Dict.ofList [("a", 1), ("b", 0)]) := by
    decide +kernel
  rw [hframe] at hlast
  obtain ⟨hphase, hone⟩ := Prod.mk.inj (Option.some.inj hlast)
  refine ⟨hoptions, hne, frame, hframe, hphase, (hdecided hphase "a").mpr (Or.inl ⟨rfl, ?_⟩)⟩
  rw [hwins] at hone
  obtain ⟨ha, hb⟩ := Dict.get?_ofList_pair hne a b
  rw [hone] at ha hb
  obtain rfl : 1 = a := Option.some.inj ha
  obtain rfl : 0 = b := Option.some.inj hb
  decide

end DuelEngine

end Arcade.Duel
