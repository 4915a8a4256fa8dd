import Arcade.Proofs.Duel.Counted
import Arcade.Proofs.Duel.Resume
/-!
# Nobody presses a button

A match goes on without its players. A fighter without buttons stays where he is, but for the flight that
he is on, and loses nothing; so a round lasts until its clock is out, unless one of them is down already,
and the healthier of them wins it. The rounds after it are drawn, for everybody begins them alike.

`idleFrames` counts the frames of that run: it is the least that a match has room for (`idle_frames_fit`),
as `framesLeft` is the most. The two are one number where the end of the round leaves the match open, and
that number then decides whether all frames can be counted (`framesFit_iff_of_staysOpen`). And if somebody is
ahead in a round, the win of that round has to be one that can be counted (`win_fits_of_lead`).
-/

namespace Arcade.Duel

open Live Checked

namespace Fighter

variable {f g : Fighter}

/-- Only the height and the upward speed matter to a flight. -/
theorem fly_congr (hy : g.y = f.y) (hvel : g.velY = f.velY) :
    g.fly.y = f.fly.y ∧ g.fly.velY = f.fly.velY := by
  unfold fly grounded
  rw [hy, hvel]
  split
  · dsimp only
    split <;> exact ⟨rfl, rfl⟩
  · exact ⟨hy, hvel⟩

theorem fires_nothing (h : f.input = .none) : f.attack? = none := by
  have hnothing : (Attack.all.find? fun a => f.input.contains a.button) = none := by
    rw [h]
    rfl
  unfold attack?
  rw [hnothing, ite_self]

theorem steer_idle (h : f.input = .none) : f.ready.steer.y = f.y ∧ f.ready.steer.velY = f.velY := by
  have hstays : wantsJump f.input = false := by
    rw [h]
    rfl
  rw [steer_eq]
  simp [ready, hstays]

/-- Without buttons a fighter only goes on with his flight. -/
theorem move_idle (h : f.input = .none) :
    f.move.2 = none ∧ f.move.1.y = f.fly.y ∧ f.move.1.velY = f.fly.velY := by
  have hplace := f.samePlace_move.1
  obtain ⟨hy, hvel⟩ := steer_idle h
  obtain ⟨hnext, hfaster⟩ := fly_congr hy hvel
  refine ⟨?_, ?_, ?_⟩
  · have hinput : f.ready.steer.fly.walk.input = .none := by
      rw [walk, fly_eq, steer_eq]
      exact h
    unfold move
    generalize f.ready.steer.fly.walk = walked at hinput
    simp only [fires_nothing hinput]
  · rw [hplace.y, ← hnext, walk]
  · rw [hplace.velY, ← hfaster, walk]

end Fighter

namespace Match

variable {config : Config} {m m' : Match}

/-! ### A frame without buttons -/

/-- What a frame of fighting without buttons does to a fighter. -/
structure Idles (f f' : Fighter) : Prop where
  id : f'.id = f.id
  y : f'.y = f.fly.y
  velY : f'.velY = f.fly.velY
  health : f'.health = f.health

theorem health_exchange_none (f : Fighter × Fighter) (random : Generator) :
    (exchange f none none random).1.1.health = f.1.health ∧
      (exchange f none none random).1.2.health = f.2.health :=
  ⟨f.1.health_settle, f.2.health_settle⟩

theorem idles_fought (hleft : m.left.input = .none) (hright : m.right.input = .none) :
    Idles m.left m.fought.left ∧ Idles m.right m.fought.right := by
  obtain ⟨hnone, hy, hvel⟩ := Fighter.move_idle hleft
  obtain ⟨hnone', hy', hvel'⟩ := Fighter.move_idle hright
  obtain ⟨hsame, hsame'⟩ := m.id_fought
  obtain ⟨hhealth, hhealth'⟩ := m.health_moved
  have hflight := m.flight_moved
  rw [hy, hvel, hy', hvel'] at hflight
  have hattacks : m.moved.2 = (none, none) := by rw [moved_eq, hnone, hnone']
  rw [fought] at hsame hsame' ⊢
  generalize m.moved = moved at *
  obtain ⟨fighters, attacks⟩ := moved
  obtain rfl : attacks = (none, none) := hattacks
  obtain ⟨hstay, hstay'⟩ := samePlace_exchange fighters none none m.random
  obtain ⟨hspared, hspared'⟩ := health_exchange_none fighters m.random
  exact ⟨⟨hsame, hstay.y.trans hflight.1.1, hstay.velY.trans hflight.1.2,
      hspared.trans hhealth⟩,
    ⟨hsame', hstay'.y.trans hflight.2.1, hstay'.velY.trans hflight.2.2,
      hspared'.trans hhealth'⟩⟩

/-- Buttons are no part of a flight, neither those before the frame nor those after it. -/
theorem Idles.of_pressed {f f' : Fighter} {b c : Buttons}
    (h : Idles ({ f with input := b } : Fighter) f') : Idles f ({ f' with input := c } : Fighter) := by
  obtain ⟨hy, hvel⟩ := Fighter.fly_congr (f := f) (g := { f with input := b }) rfl rfl
  exact ⟨h.id, h.y.trans hy, h.velY.trans hvel, h.health⟩

/-- Without buttons a round goes on exactly as long as there is more than one frame of it. -/
theorem goes_iff_of_idle (hleft : m.left.input = .none) (hright : m.right.input = .none) :
    m.fought.roundEnds = false ↔ 1 < m.fightFrames := by
  constructor
  · intro hgoes
    rw [fightFrames_fought hgoes]
    exact Nat.succ_lt_succ (fightFrames_pos _)
  intro hmore
  obtain ⟨hidle, hidle'⟩ := idles_fought hleft hright
  unfold fightFrames at hmore
  split at hmore
  · exact absurd hmore (Nat.lt_irrefl 1)
  · next halive =>
    rw [not_or] at halive
    have htimer : ¬ m.timerFrames.toNat ≤ 1 := by omega
    rw [← countDown_eq_zero_iff] at htimer
    simp only [roundEnds, hidle.health, hidle'.health, m.timerFrames_fought, halive, htimer,
      decide_false, Bool.or_self]

/-- Who wins a round does not change while nobody presses a button. -/
theorem roundWinner?_of_idles (hleft : Idles m.left m'.left) (hright : Idles m.right m'.right) :
    m'.roundWinner? = m.roundWinner? := by
  rw [roundWinner?, roundWinner?, hleft.id, hright.id, hleft.health, hright.health]

theorem winsAfter_of_idles (hleft : Idles m.left m'.left) (hright : Idles m.right m'.right)
    (hwins : m'.roundWins = m.roundWins) : m'.winsAfter = m.winsAfter := by
  rw [winsAfter, winsAfter, roundWinner?_of_idles hleft hright, hwins]

/-- A drawn round is won by nobody. -/
theorem winsAfter_of_draw (h : m.roundWinner? = none) : m.winsAfter = m.roundWins := by
  rw [winsAfter, h]

/-! ### The run of frames without buttons -/

/-- A match whose players hold these buttons. -/
def pressing (left right : Buttons) (m : Match) : Match :=
  { m with left := { m.left with input := left }, right := { m.right with input := right } }

theorem reaches_pressing (config : Config) (hne : m.left.id ≠ m.right.id) (left right : Buttons) :
    Reaches config m (m.pressing left right) := by
  refine ⟨[.setInput m.left.id left, .setInput m.right.id right], ?_⟩
  simp [EngineCall.make, Engine.setInput, DuelEngine.setInput, updateFighter?, hne, pressing]

/-- The frames of the rounds that follow one which ends with these wins, if all of them are drawn. -/
def drawnFrames (config : Config) (wins : Dict UInt32) (round : UInt32) : Nat :=
  if decided? config wins = none then laterFrames config round else 0

/-- The frames that still follow if nobody presses a button any more. -/
def idleFrames (config : Config) (m : Match) : Nat :=
  match m.phase with
  | .waiting => max m.phaseFrames.toNat 1 + m.fightFrames + drawnFrames config m.winsAfter m.round
  | .fighting => m.fightFrames + drawnFrames config m.winsAfter m.round
  | .roundOver =>
    max m.phaseFrames.toNat 1 + roundLength config + drawnFrames config m.roundWins (m.round + 1)
  | .finished => 0

/-- A round begins with nobody ahead, and lasts as long as its clock. -/
theorem idleFrames_beginRound (hconfig : config.isPositive = true) (m : Match) :
    (m.beginRound config).idleFrames config
      = roundLength config + drawnFrames config m.roundWins (m.round + 1) := by
  have hhealth : ¬ config.health ≤ 0 :=
    Int32.not_le.mpr (Int32.lt_iff_toInt_lt.mpr (Config.health_pos hconfig))
  have hnobody : (m.beginRound config).roundWinner? = none := by
    show (if config.health < config.health then _ else if config.health < config.health then _
      else none) = none
    simp only [Int32.lt_irrefl, if_false]
  have hwins : (m.beginRound config).winsAfter = m.roundWins := winsAfter_of_draw hnobody
  have hframes : (m.beginRound config).fightFrames = max config.roundFrames.toNat 1 :=
    if_neg (not_or.mpr ⟨hhealth, hhealth⟩)
  have htimer := Config.roundFrames_pos hconfig
  have hfull : countdownFrames.toNat = 60 := rfl
  show max countdownFrames.toNat 1 + (m.beginRound config).fightFrames
    + drawnFrames config (m.beginRound config).winsAfter (m.round + 1) = _
  rw [hwins, hframes, roundLength]
  omega

/-- A frame without buttons is one of the run. -/
theorem idleFrames_advances (hconfig : config.isPositive = true) (hleft : m.left.input = .none)
    (hright : m.right.input = .none) (hadvances : Advances config m m') :
    m'.frame = m.frame + 1 ∧ m.idleFrames config = m'.idleFrames config + 1 := by
  have hfight := m.fightFrames_pos
  have hlast : m.fought.roundEnds = true → m.fightFrames = 1 := by
    intro hends
    have hone : ¬ 1 < m.fightFrames := by
      rw [← goes_iff_of_idle hleft hright, hends]
      exact Bool.noConfusion
    omega
  obtain ⟨hidle, hidle'⟩ := idles_fought hleft hright
  have hwins : m.fought.winsAfter = m.winsAfter := winsAfter_of_idles hidle hidle' (by rw [fought])
  cases hadvances with
  | countsDown hphase hmore =>
      refine ⟨rfl, ?_⟩
      simp only [idleFrames, hphase, toNat_countDown]
      show _ = max (m.phaseFrames.toNat - 1) 1 + m.fightFrames
        + drawnFrames config m.winsAfter m.round + 1
      omega
  | opens hphase hlast =>
      refine ⟨rfl, ?_⟩
      simp only [idleFrames, hphase]
      show _ = m.fightFrames + drawnFrames config m.winsAfter m.round + 1
      omega
  | @fights fought hphase hfought hgoes =>
      have hstill : fought.phase = .fighting := by rw [← hfought, phase_fought, hphase]
      have hround : fought.round = m.round := by rw [← hfought, round_fought]
      have hframes := fightFrames_fought (m := m) (by rwa [hfought])
      rw [hfought] at hframes hwins
      refine ⟨rfl, ?_⟩
      simp only [idleFrames, hstill, hphase]
      show _ = fought.fightFrames + drawnFrames config fought.winsAfter fought.round + 1
      rw [hround, hwins]
      omega
  | @decides fought hphase hfought hends hclosed =>
      rw [hfought] at hlast hwins
      have hdrawn : drawnFrames config m.winsAfter m.round = 0 := by
        unfold drawnFrames laterFrames
        split
        · next hopen =>
          have hround := hclosed (hwins ▸ hopen)
          rw [Nat.sub_eq_zero_of_le hround, Nat.zero_mul]
        · rfl
      refine ⟨rfl, ?_⟩
      simp only [idleFrames, hphase, hdrawn, hlast hends]
  | @pauses fought hphase hfought hends hopen hmore =>
      have hround : fought.round = m.round := by rw [← hfought, round_fought]
      rw [hfought] at hlast hwins
      have hlater := laterFrames_succ config hmore
      have hfull : intermissionFrames.toNat = 90 := rfl
      refine ⟨rfl, ?_⟩
      simp only [idleFrames, hphase, drawnFrames, hwins ▸ hopen, hopen, if_true, hround, hlast hends]
      omega
  | rests hphase hmore =>
      refine ⟨rfl, ?_⟩
      simp only [idleFrames, hphase, toNat_countDown]
      omega
  | begins hphase hlast =>
      refine ⟨rfl, ?_⟩
      rw [idleFrames_beginRound hconfig]
      simp only [idleFrames, hphase]
      omega

theorem id_advances (hadvances : Advances config m m') :
    m'.left.id = m.left.id ∧ m'.right.id = m.right.id := by
  cases hadvances with
  | fights _ hfought | decides _ hfought | pauses _ hfought =>
      rw [← m.id_fought.1, ← m.id_fought.2, hfought]
      exact ⟨rfl, rfl⟩
  | countsDown | opens | rests | begins => exact ⟨rfl, rfl⟩

/-- A match that is not decided can go on without buttons. -/
theorem exists_idle_step (config : Config) (hne : m.left.id ≠ m.right.id) (hphase : m.phase ≠ .finished) :
    ∃ m', Advances config (m.pressing .none .none) m' ∧ Reaches config m m'.releaseInputs := by
  obtain ⟨m', hadvances, hstep⟩ := step_advances (m := m.pressing .none .none) config hphase
  have hreaches := (reaches_pressing config hne .none .none).trans (.step config _)
  rw [hstep] at hreaches
  exact ⟨m', hadvances, hreaches⟩

/-- **The least room.** Where every frame that can follow has a number, the frames without buttons have. -/
theorem idle_frames_fit (hconfig : config.isPositive = true) (hne : m.left.id ≠ m.right.id)
    (h : FramesFit config m) : m.frame.toNat + m.idleFrames config < UInt64.size := by
  induction hn : m.idleFrames config generalizing m with
  | zero => exact m.frame.toNat_lt
  | succ n ih =>
      have hphase : m.phase ≠ .finished := by
        intro hfinished
        simp [idleFrames, hfinished] at hn
      obtain ⟨m', hadvances, hreaches⟩ := exists_idle_step config hne hphase
      obtain ⟨hframe, hframes⟩ := idleFrames_advances hconfig rfl rfl hadvances
      obtain ⟨hid, hid'⟩ := id_advances hadvances
      have hsame : (m.pressing .none .none).idleFrames config = m.idleFrames config := rfl
      have hseats : m'.left.id ≠ m'.right.id := by
        rw [hid, hid']
        exact hne
      have hnext : FramesFit config m'.releaseInputs := fun _ hlater => h _ (hreaches.trans hlater)
      have hrest := ih (m := m'.releaseInputs) hseats hnext
        (by show m'.idleFrames config = n; omega)
      have hfits : m.frame.toNat + 1 < UInt64.size := h m (.refl config m) hphase
      have hnumber : m'.releaseInputs.frame.toNat = m.frame.toNat + 1 := by
        show m'.frame.toNat = _
        rw [hframe]
        exact toNat_next64 hfits
      omega

/-- Whether the wins leave a match open, those that there are and those at the end of the round in hand, if
nobody presses a button in it. -/
structure StaysOpen (config : Config) (m : Match) : Prop where
  now : decided? config m.roundWins = none
  after : m.phase ≠ .roundOver → decided? config m.winsAfter = none

/-- The run without buttons is the longest there is in a match that it leaves open. -/
theorem idleFrames_eq_framesLeft (hopen : m.StaysOpen config) :
    m.idleFrames config = m.framesLeft config := by
  unfold idleFrames framesLeft drawnFrames
  cases hphase : m.phase with
  | finished => rfl
  | roundOver => simp only [hopen.now, if_true]
  | waiting | fighting => simp only [hopen.after (by simp [hphase]), if_true]

theorem framesFit_iff_of_staysOpen (hconfig : config.isPositive = true) (hne : m.left.id ≠ m.right.id)
    (hopen : m.StaysOpen config) :
    FramesFit config m ↔ m.frame.toNat + m.framesLeft config < UInt64.size := by
  constructor
  · intro h
    rw [← idleFrames_eq_framesLeft hopen]
    exact idle_frames_fit hconfig hne h
  · exact framesFit_of_room (Config.roundFrames_pos hconfig)

/-! ### The end of a run without buttons -/

/-- A frame in which nobody presses a button, of a round that goes on after it. -/
theorem exists_idle_frame (config : Config) (hne : m.left.id ≠ m.right.id) (hphase : m.phase = .fighting)
    (hmore : 1 < m.fightFrames) : ∃ m', Reaches config m m' ∧ m'.phase = .fighting ∧
      (Idles m.left m'.left ∧ Idles m.right m'.right) ∧ m'.roundWins = m.roundWins ∧
      m.fightFrames = m'.fightFrames + 1 := by
  obtain ⟨m', hadvances, hreaches⟩ := exists_idle_step config hne (by simp [hphase])
  have hidles := idles_fought (m := m.pressing .none .none) rfl rfl
  have hgoes := (goes_iff_of_idle (m := m.pressing .none .none) rfl rfl).mpr hmore
  have hstill : (m.pressing .none .none).phase = .fighting := hphase
  cases hadvances with
  | @fights fought _ hfought =>
      have hwins : fought.roundWins = m.roundWins := by rw [← hfought, Match.fought, pressing]
      have hphase' : fought.phase = .fighting := by rw [← hfought, phase_fought, hstill]
      have hframes := fightFrames_fought hgoes
      rw [hfought] at hidles hframes
      exact ⟨_, hreaches, hphase', ⟨hidles.1.of_pressed, hidles.2.of_pressed⟩, hwins, hframes⟩
  | decides _ hfought hends | pauses _ hfought hends =>
      rw [← hfought, hgoes] at hends
      cases hends
  | countsDown hwaits | opens hwaits | rests hwaits | begins hwaits => cases hstill.symm.trans hwaits

/-- A clock that puts off what comes runs out. -/
theorem exists_waited (config : Config) (hne : m.left.id ≠ m.right.id)
    (hphase : m.phase = .waiting ∨ m.phase = .roundOver) : ∃ frame clock, clock.toNat ≤ 1 ∧
      Reaches config m { m.pressing .none .none with frame := frame, phaseFrames := clock } := by
  induction hclock : m.phaseFrames.toNat using Nat.strongRecOn generalizing m with
  | ind k ih =>
      by_cases hlast : m.phaseFrames.toNat ≤ 1
      · exact ⟨m.frame, m.phaseFrames, hlast, reaches_pressing config hne .none .none⟩
      · obtain ⟨m', hadvances, hreaches⟩ :=
          exists_idle_step config hne (by rcases hphase with h | h <;> simp [h])
        have hless : (countDown m.phaseFrames).toNat < k := by
          rw [toNat_countDown]
          omega
        have hrest := @ih _ hless { m.pressing .none .none with
          frame := m.frame + 1, phaseFrames := countDown m.phaseFrames } hne hphase rfl
        cases hadvances with
        | countsDown | rests =>
            obtain ⟨frame, clock, hout, hlater⟩ := hrest
            exact ⟨frame, clock, hout, hreaches.trans hlater⟩
        | opens _ hout | begins _ hout => exact absurd hout hlast
        | fights hfights | decides hfights | pauses hfights =>
            have hfighting : m.phase = .fighting := hfights
            simp [hfighting] at hphase

/-- A countdown ends with a fight. -/
theorem exists_fight (config : Config) (hne : m.left.id ≠ m.right.id) (hphase : m.phase = .waiting) :
    ∃ frame clock, Reaches config m { m.pressing .none .none with
      frame := frame, phaseFrames := clock, phase := .fighting } := by
  obtain ⟨frame, clock, hout, hreaches⟩ := exists_waited config hne (Or.inl hphase)
  have hstep : ({ m.pressing .none .none with frame := frame, phaseFrames := clock } : Match).step config
      = { m.pressing .none .none with
          frame := frame + 1, phaseFrames := countDown clock, phase := .fighting } := by
    have hwaits : (m.pressing .none .none).phase = .waiting := hphase
    rw [step_of_not_finished (by simp [hwaits])]
    simp only [advance, hwaits, (countDown_eq_zero_iff clock).mpr hout, if_true]
    rfl
  exact ⟨frame + 1, countDown clock, hstep ▸ hreaches.trans (.step config _)⟩

theorem win_fits_of_fighting {p : String} (hne : m.left.id ≠ m.right.id) (hphase : m.phase = .fighting)
    (h : WinsFit config m) (hp : m.roundWinner? = some p) : (m.winsOf p).toNat + 1 < UInt32.size := by
  induction hn : m.fightFrames using Nat.strongRecOn generalizing m with
  | ind k ih =>
      by_cases hmore : 1 < m.fightFrames
      · obtain ⟨m', hreaches, hphase', ⟨hidles, hidles'⟩, hwins, hframes⟩ :=
          exists_idle_frame config hne hphase hmore
        have hsame : m'.winsOf p = m.winsOf p := by rw [winsOf, winsOf, hwins]
        rw [← hsame]
        refine ih _ (by omega) (by rwa [hidles.id, hidles'.id]) hphase'
          (fun _ hlater => h _ (hreaches.trans hlater)) ?_ rfl
        rw [roundWinner?_of_idles hidles hidles', hp]
      · -- the round ends with the frame that comes, and so it is won
        have hwin := h _ (reaches_pressing config hne .none .none) hphase
        obtain ⟨hidles, hidles'⟩ := idles_fought (m := m.pressing .none .none) rfl rfl
        have hends : (m.pressing .none .none).fought.roundEnds = true := by
          rw [← Bool.not_eq_false, goes_iff_of_idle rfl rfl]
          exact hmore
        have hfits := hwin hends p (by rw [roundWinner?_of_idles hidles hidles']; exact hp)
        rwa [winsOf_fought] at hfits

/-- **The win of who is ahead.** Where every win that can follow can be counted, so can that of the
fighter who is ahead in a round that is still to be fought. -/
theorem win_fits_of_lead {p : String} (hne : m.left.id ≠ m.right.id)
    (hengaged : m.phase = .waiting ∨ m.phase = .fighting) (h : WinsFit config m)
    (hp : m.roundWinner? = some p) : (m.winsOf p).toNat + 1 < UInt32.size := by
  rcases hengaged with hphase | hphase
  · obtain ⟨frame, clock, hreaches⟩ := exists_fight config hne hphase
    exact win_fits_of_fighting
      (m := { m.pressing .none .none with frame := frame, phaseFrames := clock, phase := .fighting })
      hne rfl (fun _ hlater => h _ (hreaches.trans hlater)) hp
  · exact win_fits_of_fighting hne hphase h hp

end Match

end Arcade.Duel
