import Arcade.Proofs.Duel.Idle
/-!
# Frames that can be simulated

The sums of a duel are exact as long as its fighters are where a duel brings them. A frame that is handed
in can show them anywhere, and an engine goes on from it all the same. Then three things can be too large
to be added to, and this module says when one of them will be:

* a fighter who is to fight needs room for a step to either side, and for the flight that he is on, as
  long as the round can last (`Fighter.InRange`);
* an intermission needs the number of the next round;
* the frames and the wins need room to be counted.

The first two make a match `InRange`. What is in range stays there, whatever the players do
(`Reaches.inRange`); and what is not, some of their inputs bring to a sum that overflows
(`inRange_of_sumsStayFit`): a step to that side, or none at all until the flight has grown too high.
`resumed_stays_exact_iff` puts it together for an engine that goes on from a frame, in a build that stops at
the first sum that overflows.
-/

namespace Arcade.Duel

open Live Checked

/-! ### A fighter's range -/

namespace Fighter

variable {f g : Fighter} {n : Nat}

/-- Whether a step to either side fits. -/
def WalkFits (f : Fighter) : Prop :=
  Fits (f.x.toInt - walkSpeed.toInt) ∧ Fits (f.x.toInt + walkSpeed.toInt)

instance (f : Fighter) : Decidable f.WalkFits := inferInstanceAs (Decidable (_ ∧ _))

instance (f : Fighter) : Decidable f.FlightFits := inferInstanceAs (Decidable (_ → _))

/-- Whether the sums of so many frames of flight fit. -/
def FliesFor : Nat → Fighter → Prop
  | 0, _ => True
  | n + 1, f => f.FlightFits ∧ f.fly.FliesFor n

instance decidableFliesFor : (n : Nat) → (f : Fighter) → Decidable (f.FliesFor n)
  | 0, _ => isTrue trivial
  | n + 1, f =>
    have := decidableFliesFor n f.fly
    inferInstanceAs (Decidable (_ ∧ _))

/-- Whether so many frames of fighting are exact for a fighter, whatever he does in them. -/
structure InRange (n : Nat) (f : Fighter) : Prop where
  walk : f.WalkFits
  flight : f.FliesFor n

instance (n : Nat) (f : Fighter) : Decidable (f.InRange n) :=
  decidable_of_iff (f.WalkFits ∧ f.FliesFor n)
    ⟨fun h => ⟨h.1, h.2⟩, fun h => ⟨h.walk, h.flight⟩⟩

/-! Only the height and the upward speed matter to a flight. -/

theorem FlightFits.congr (h : f.FlightFits) (hy : g.y = f.y) (hvel : g.velY = f.velY) :
    g.FlightFits := by
  unfold FlightFits grounded at h ⊢
  rwa [hy, hvel]

theorem FliesFor.congr (h : f.FliesFor n) (hy : g.y = f.y) (hvel : g.velY = f.velY) :
    g.FliesFor n := by
  induction n generalizing f g with
  | zero => trivial
  | succ n ih =>
      obtain ⟨hfits, hlater⟩ := h
      obtain ⟨hnext, hfaster⟩ := fly_congr hy hvel
      exact ⟨hfits.congr hy hvel, ih hlater hnext hfaster⟩

theorem WalkFits.congr (h : f.WalkFits) (hx : g.x = f.x) : g.WalkFits := by
  unfold WalkFits at h ⊢
  rwa [hx]

theorem InRange.congr (h : f.InRange n) (hx : g.x = f.x) (hy : g.y = f.y) (hvel : g.velY = f.velY) :
    g.InRange n :=
  ⟨h.walk.congr hx, h.flight.congr hy hvel⟩

/-- A jump can go on for ever. -/
theorem fliesFor_of_onArc (h : f.OnArc) : f.FliesFor n := by
  induction n generalizing f with
  | zero => trivial
  | succ n ih => exact ⟨flightFits_of_onArc h, ih (onArc_fly h)⟩

theorem FliesFor.ready_steer (h : f.FliesFor n) : f.ready.steer.FliesFor n := by
  rcases f.ready.steer_cases with hjumps | ⟨hy, hvel⟩
  · exact fliesFor_of_onArc hjumps
  · exact h.congr hy hvel

theorem walkFits_of_within (hlow : -arenaHalfWidth.toInt ≤ f.x.toInt)
    (hhigh : f.x.toInt ≤ arenaHalfWidth.toInt) : f.WalkFits := by
  rw [toInt_arenaHalfWidth] at hlow hhigh
  unfold WalkFits
  rw [toInt_walkSpeed]
  constructor <;> constructor <;> omega

theorem InRange.moveFits (h : f.InRange (n + 1)) : f.MoveFits where
  flight := h.flight.ready_steer.1
  walk := by
    obtain ⟨hslow, hfast⟩ := f.ready.velX_steer_bounds
    obtain ⟨⟨hlow, -⟩, -, hhigh⟩ := h.walk
    constructor <;> omega

/-- A frame of movement takes one from the frames of a flight. -/
theorem FliesFor.move (h : f.FliesFor (n + 1)) : f.move.1.FliesFor n := by
  have hplace := f.samePlace_move.1
  have hwalked : f.ready.steer.fly.walk.FliesFor n := h.ready_steer.2.congr (by rw [walk]) (by rw [walk])
  exact hwalked.congr hplace.y hplace.velY

end Fighter

namespace Match

variable {config : Config} {m m' : Match} {n : Nat}

theorem inRange_moved (hleft : m.left.InRange (n + 1)) (hright : m.right.InRange (n + 1)) :
    m.moved.1.1.InRange n ∧ m.moved.1.2.InRange n := by
  obtain ⟨⟨hy, hvel⟩, hy', hvel'⟩ := m.flight_moved
  have hflies : m.moved.1.1.FliesFor n := hleft.flight.move.congr hy hvel
  have hflies' : m.moved.1.2.FliesFor n := hright.flight.move.congr hy' hvel'
  rcases m.x_moved_cases with ⟨hx, hx'⟩ | ⟨-, hx, hx'⟩
  · -- whoever has moved is in the arena now
    obtain ⟨hlow, hhigh⟩ := Fighter.x_move_within hleft.moveFits
    obtain ⟨hlow', hhigh'⟩ := Fighter.x_move_within hright.moveFits
    rw [← hx] at hlow hhigh
    rw [← hx'] at hlow' hhigh'
    exact ⟨⟨Fighter.walkFits_of_within hlow hhigh, hflies⟩,
      Fighter.walkFits_of_within hlow' hhigh', hflies'⟩
  · exact ⟨⟨hleft.walk.congr hx, hflies⟩, hright.walk.congr hx', hflies'⟩

theorem inRange_fought (hleft : m.left.InRange (n + 1)) (hright : m.right.InRange (n + 1)) :
    m.fought.left.InRange n ∧ m.fought.right.InRange n := by
  obtain ⟨hmoved, hmoved'⟩ := inRange_moved hleft hright
  obtain ⟨hstay, hstay'⟩ := samePlace_exchange m.moved.1 m.moved.2.1 m.moved.2.2 m.random
  rw [fought]
  exact ⟨hmoved.congr hstay.x hstay.y hstay.velY, hmoved'.congr hstay'.x hstay'.y hstay'.velY⟩

/-- Whether the numbers of a match are in range: those of fighters who are to fight, and that of the round
before an intermission. -/
structure InRange (m : Match) : Prop where
  fighters : m.phase = .waiting ∨ m.phase = .fighting →
    m.left.InRange m.fightFrames ∧ m.right.InRange m.fightFrames
  round : m.phase = .roundOver → m.round.toNat + 1 < UInt32.size

instance (m : Match) : Decidable m.InRange :=
  decidable_of_iff
    ((m.phase = .waiting ∨ m.phase = .fighting →
      m.left.InRange m.fightFrames ∧ m.right.InRange m.fightFrames) ∧
      (m.phase = .roundOver → m.round.toNat + 1 < UInt32.size))
    ⟨fun h => ⟨h.1, h.2⟩, fun h => ⟨h.fighters, h.round⟩⟩

theorem inRange_of_fighters (hphase : m.phase ≠ .roundOver) (hleft : m.left.InRange m.fightFrames)
    (hright : m.right.InRange m.fightFrames) : m.InRange :=
  ⟨fun _ => ⟨hleft, hright⟩, fun hover => absurd hover hphase⟩

theorem inRange_of_round (hphase : m.phase = .roundOver) (h : m.round.toNat + 1 < UInt32.size) :
    m.InRange :=
  ⟨fun hengaged => by simp [hphase] at hengaged, fun _ => h⟩

/-! ### What is in range stays in range -/

theorem sumsFit_of_inRange (h : m.InRange) : m.SumsFit where
  fighters hphase := by
    obtain ⟨hleft, hright⟩ := h.fighters (Or.inr hphase)
    obtain ⟨n, hn⟩ := Nat.exists_eq_succ_of_ne_zero (Nat.ne_of_gt m.fightFrames_pos)
    rw [hn] at hleft hright
    exact ⟨hleft.moveFits, hright.moveFits⟩
  round hphase _ := h.round hphase

/-- A frame shows whether a match is in range. -/
theorem inRange_of_frameOf (hframe : DuelEngine.frameOf m' = DuelEngine.frameOf m) (h : m.InRange) :
    m'.InRange := by
  have hframes := fightFrames_of_frameOf hframe
  obtain ⟨-, ⟨hleft, hright⟩, hphase, hround, -⟩ := frameOf_eq_iff.mp hframe
  simp only [Fighter.entity, Entity.mk.injEq] at hleft hright
  obtain ⟨-, hx, hy, -, hvel, -⟩ := hleft
  obtain ⟨-, hx', hy', -, hvel', -⟩ := hright
  refine ⟨fun hengaged => ?_, fun hover => ?_⟩
  · rw [hphase] at hengaged
    obtain ⟨hfighter, hfighter'⟩ := h.fighters hengaged
    rw [hframes]
    exact ⟨hfighter.congr hx hy hvel, hfighter'.congr hx' hy' hvel'⟩
  · rw [hphase] at hover
    rw [hround]
    exact h.round hover

/-- A round begins in range. -/
theorem inRange_fresh (config : Config) (p q : String) :
    (∀ n, (freshLeft config p).InRange n) ∧ ∀ n, (freshRight config q).InRange n := by
  refine ⟨fun n => ⟨?_, Fighter.fliesFor_of_onArc (.standing rfl rfl)⟩,
    fun n => ⟨?_, Fighter.fliesFor_of_onArc (.standing rfl rfl)⟩⟩
  · show Fits ((-startX).toInt - walkSpeed.toInt) ∧ Fits ((-startX).toInt + walkSpeed.toInt)
    decide
  · show Fits (startX.toInt - walkSpeed.toInt) ∧ Fits (startX.toInt + walkSpeed.toInt)
    decide

theorem inRange_of_advances (hadvances : Advances config m m') (h : m.InRange) : m'.InRange := by
  cases hadvances with
  | countsDown hphase =>
      obtain ⟨hleft, hright⟩ := h.fighters (Or.inl hphase)
      exact inRange_of_fighters (by simp [hphase]) hleft hright
  | opens hphase =>
      obtain ⟨hleft, hright⟩ := h.fighters (Or.inl hphase)
      exact inRange_of_fighters (by simp) hleft hright
  | @fights fought hphase hfought hgoes =>
      obtain ⟨hleft, hright⟩ := h.fighters (Or.inr hphase)
      have hstill : fought.phase = .fighting := by rw [← hfought, phase_fought, hphase]
      have hframes := fightFrames_fought (m := m) (by rwa [hfought])
      rw [hframes] at hleft hright
      have hrange := inRange_fought hleft hright
      rw [hfought] at hrange
      exact inRange_of_fighters (by simp [hstill]) hrange.1 hrange.2
  | decides => exact ⟨fun hengaged => by simp at hengaged, fun hover => by cases hover⟩
  | @pauses fought hphase hfought _ _ hmore =>
      have hround : fought.round = m.round := by rw [← hfought, round_fought]
      have hmax : maxRounds.toNat = 9 := rfl
      refine inRange_of_round rfl ?_
      show fought.round.toNat + 1 < UInt32.size
      rw [hround, UInt32.size]
      omega
  | rests hphase => exact inRange_of_round hphase (h.round hphase)
  | begins =>
      obtain ⟨hleft, hright⟩ := inRange_fresh config m.left.id m.right.id
      exact inRange_of_fighters (by simp [beginRound]) (hleft _) (hright _)

theorem Reaches.inRange (h : Reaches config m m') (hm : m.InRange) : m'.InRange :=
  h.keeps (fun _ => inRange_of_frameOf) (fun _ => inRange_of_advances) hm

/-! ### What is out of range can overflow -/

/-- Whether the sums of the fighters and rounds fit in everything that can follow. -/
def SumsStayFit (config : Config) (m : Match) : Prop := ∀ m', Reaches config m m' → m'.SumsFit

theorem SumsStayFit.of_reaches (h : SumsStayFit config m) (hreaches : Reaches config m m') :
    SumsStayFit config m' :=
  fun _ hlater => h _ (hreaches.trans hlater)

theorem walkFits_of_sumsStayFit (hne : m.left.id ≠ m.right.id) (hphase : m.phase = .fighting)
    (h : SumsStayFit config m) : m.left.WalkFits ∧ m.right.WalkFits := by
  have hwalks : ∀ b : Buttons, b.contains .moveDown = false →
      Fits (m.left.x.toInt + (Fighter.direction b * walkSpeed).toInt) ∧
      Fits (m.right.x.toInt + (Fighter.direction b * walkSpeed).toInt) := by
    intro b hdown
    obtain ⟨hleft, hright⟩ := (h _ (reaches_pressing config hne b b)).fighters hphase
    have hsteer : ∀ f : Fighter, ({ f with input := b } : Fighter).ready.steer.velX
        = Fighter.direction b * walkSpeed := by
      intro f
      rw [Fighter.steer_eq]
      simp [Fighter.ready, hdown]
    have hx := hleft.walk
    have hx' := hright.walk
    simp only [pressing, hsteer] at hx hx'
    exact ⟨hx, hx'⟩
  obtain ⟨hfits, hfits'⟩ := hwalks .moveLeft rfl
  obtain ⟨hfitsR, hfitsR'⟩ := hwalks .moveRight rfl
  exact ⟨⟨hfits, hfitsR⟩, hfits', hfitsR'⟩

theorem flightFits_of_sumsStayFit (hne : m.left.id ≠ m.right.id) (hphase : m.phase = .fighting)
    (h : SumsStayFit config m) : m.left.FlightFits ∧ m.right.FlightFits := by
  obtain ⟨hmove, hmove'⟩ := (h _ (reaches_pressing config hne .none .none)).fighters hphase
  have hidle : ∀ f : Fighter, ({ f with input := .none } : Fighter).MoveFits → f.FlightFits := by
    intro f hmove
    obtain ⟨hy, hvel⟩ := Fighter.steer_idle (f := { f with input := .none }) rfl
    exact hmove.flight.congr hy.symm hvel.symm
  exact ⟨hidle _ hmove, hidle _ hmove'⟩

/-- A fighter who only flies needs every sum of his flight, until the round is over. -/
theorem fliesFor_of_sumsStayFit (hne : m.left.id ≠ m.right.id) (hphase : m.phase = .fighting)
    (h : SumsStayFit config m) (hn : n ≤ m.fightFrames) :
    m.left.FliesFor n ∧ m.right.FliesFor n := by
  induction n generalizing m with
  | zero => exact ⟨trivial, trivial⟩
  | succ n ih =>
      obtain ⟨hfits, hfits'⟩ := flightFits_of_sumsStayFit hne hphase h
      suffices hlater : m.left.fly.FliesFor n ∧ m.right.fly.FliesFor n from
        ⟨⟨hfits, hlater.1⟩, hfits', hlater.2⟩
      by_cases hlast : n = 0
      · subst hlast
        exact ⟨trivial, trivial⟩
      · obtain ⟨m', hreaches, hphase', ⟨hidles, hidles'⟩, -, hframes⟩ :=
          exists_idle_frame config hne hphase (by omega)
        have hne' : m'.left.id ≠ m'.right.id := by rwa [hidles.id, hidles'.id]
        obtain ⟨hlater, hlater'⟩ := ih hne' hphase' (h.of_reaches hreaches) (by omega)
        exact ⟨hlater.congr hidles.y.symm hidles.velY.symm,
          hlater'.congr hidles'.y.symm hidles'.velY.symm⟩

theorem inRange_of_fighting (h : SumsStayFit config m) (hne : m.left.id ≠ m.right.id)
    (hphase : m.phase = .fighting) : m.InRange := by
  obtain ⟨hwalk, hwalk'⟩ := walkFits_of_sumsStayFit hne hphase h
  obtain ⟨hflies, hflies'⟩ := fliesFor_of_sumsStayFit hne hphase h (Nat.le_refl _)
  exact inRange_of_fighters (by simp [hphase]) ⟨hwalk, hflies⟩ ⟨hwalk', hflies'⟩

/-- A countdown only puts off what comes after it, and so does an intermission. -/
theorem inRange_of_sumsStayFit (h : SumsStayFit config m) (hne : m.left.id ≠ m.right.id) :
    m.InRange := by
  cases hphase : m.phase with
  | finished =>
      exact ⟨fun hengaged => by simp [hphase] at hengaged, fun hover => by simp [hphase] at hover⟩
  | fighting => exact inRange_of_fighting h hne hphase
  | waiting =>
      obtain ⟨frame, clock, hreaches⟩ := exists_fight config hne hphase
      have hrange := inRange_of_fighting (h.of_reaches hreaches) hne rfl
      obtain ⟨hleft, hright⟩ := hrange.fighters (Or.inr rfl)
      exact inRange_of_fighters (by simp [hphase]) (hleft.congr rfl rfl rfl) (hright.congr rfl rfl rfl)
  | roundOver =>
      obtain ⟨frame, clock, hlast, hreaches⟩ := exists_waited config hne (Or.inr hphase)
      exact inRange_of_round hphase ((h _ hreaches).round hphase hlast)

/-- **In range.** Two fighters can be simulated, whatever they do, exactly if their match is in range. -/
theorem sumsStayFit_iff (hne : m.left.id ≠ m.right.id) : SumsStayFit config m ↔ m.InRange :=
  ⟨fun h => inRange_of_sumsStayFit h hne, fun h _ hreaches => sumsFit_of_inRange (hreaches.inRange h)⟩

/-- The match that a frame shows, for an engine that has just seated two players. -/
def atFrame (config : Config) (left right : String) (seed : UInt64) (frame : Frame) : Match :=
  DuelEngine.adoptStanding frame { begin config left right seed with
    left := DuelEngine.shownIn frame.entities (freshLeft config left)
    right := DuelEngine.shownIn frame.entities (freshRight config right) }

end Match

namespace DuelEngine

variable {config : Config} {m : Match}

theorem current_resume {engine : DuelEngine} {left right : String} (hne : left ≠ right) {seed : UInt64}
    {frame : Frame}
    (h : (Engine.resume (Engine.start engine [left, right] seed).2 frame).1 = .ok ()) :
    (Engine.resume (Engine.start engine [left, right] seed).2 frame).2
      = ⟨engine.config, some (Match.atFrame engine.config left right seed frame)⟩ := by
  simp only [Engine.start, start, Engine.resume, resume] at h ⊢
  rcases hadopt : adoptAll frame.entities (Match.begin engine.config left right seed) with ⟨answer, m⟩
  rw [hadopt] at h
  cases answer with
  | error failure => cases h
  | ok _ =>
      obtain rfl := adoptAll_ok hadopt hne
      rfl

/-- A call to an engine in a build that checks its sums, if it comes through. -/
def make? (e : DuelEngine) : EngineCall → Option (Except EngineFailure Unit × DuelEngine)
  | .step => e.step?
  | c => some (EngineCall.make e c)

/-- Whether a build that checks its sums comes through whatever an engine may still be called to do, with
what a build without the checks makes of it. -/
def StaysExact (e : DuelEngine) : Prop :=
  ∀ calls, Run.after? make? e calls = some (Run.after EngineCall.make e calls)

theorem step?_eq_some_iff {r : Except EngineFailure Unit × DuelEngine} :
    step? ⟨config, some m⟩ = some r ↔
      (m.FrameFits ∧ m.WinFits ∧ m.SumsFit) ∧ (.ok (), ⟨config, some (m.step config)⟩) = r := by
  simp only [step?, Option.map_eq_some_iff, Match.stepCounted?_eq_some_iff]
  constructor
  · intro h
    obtain ⟨_, ⟨hfits, rfl⟩, hr⟩ := h
    exact ⟨hfits, hr⟩
  · intro h
    obtain ⟨hfits, hr⟩ := h
    exact ⟨_, ⟨hfits, rfl⟩, hr⟩

theorem make?_eq (hfits : m.FrameFits ∧ m.WinFits ∧ m.SumsFit) (c : EngineCall) :
    make? ⟨config, some m⟩ c = some (EngineCall.make ⟨config, some m⟩ c) := by
  cases c with
  | setInput player buttons => rfl
  | step => exact step?_eq_some_iff.mpr ⟨hfits, rfl⟩

theorem reaches_after (config : Config) (m : Match) (calls : List EngineCall) : ∃ m',
    Run.after EngineCall.make (⟨config, some m⟩ : DuelEngine) calls = ⟨config, some m'⟩ := by
  induction calls generalizing m with
  | nil => exact ⟨m, rfl⟩
  | cons c rest ih =>
      rcases make_current (e := ⟨config, some m⟩) rfl c with ⟨m', -, -, -, hmake⟩ | ⟨-, hmake⟩ <;>
        · rw [Run.after_cons, hmake]
          exact ih _

/-- A build that checks its sums comes through exactly if every frame that can follow fits. -/
theorem staysExact_iff : StaysExact ⟨config, some m⟩ ↔
    m.FramesFit config ∧ m.WinsFit config ∧ m.SumsStayFit config := by
  constructor
  · intro h
    have hfits : ∀ m', m.Reaches config m' → m'.FrameFits ∧ m'.WinFits ∧ m'.SumsFit := by
      intro m' hreaches
      obtain ⟨calls, hcalls⟩ := hreaches
      have hstep := h (calls ++ [.step])
      rw [Run.after?_append, h calls, hcalls, Option.bind_some] at hstep
      obtain ⟨r, hr, -⟩ := Option.bind_eq_some_iff.mp hstep
      exact (step?_eq_some_iff.mp hr).1
    exact ⟨fun m' hm => (hfits m' hm).1, fun m' hm => (hfits m' hm).2.1,
      fun m' hm => (hfits m' hm).2.2⟩
  · intro h calls
    induction calls generalizing m with
    | nil => rfl
    | cons c rest ih =>
        obtain ⟨hframes, hwins, hsums⟩ := h
        obtain ⟨m', hcalls⟩ := reaches_after config m [c]
        have hreaches : m.Reaches config m' := ⟨[c], hcalls⟩
        have hmake : (EngineCall.make (⟨config, some m⟩ : DuelEngine) c).2 = ⟨config, some m'⟩ := hcalls
        have hstart := Match.Reaches.refl config m
        rw [Run.after?, make?_eq ⟨hframes m hstart, hwins m hstart, hsums m hstart⟩, Option.bind_some,
          Run.after_cons, hmake]
        exact ih ⟨fun _ hlater => hframes _ (hreaches.trans hlater),
          fun _ hlater => hwins _ (hreaches.trans hlater), hsums.of_reaches hreaches⟩

/-- **Which frames can be simulated.** An engine goes on from any frame whose entities have a seat.
Whatever inputs are set from then on, a build that checks its sums comes through every frame, with the frames
of the simulation, if and only if the numbers of the frame are in range, the frames that can follow have
numbers, and the wins that can follow can be counted. For a match that stays open this is: in range, and with
numbers for as many frames as its clocks have left. Otherwise as many numbers are enough, as is room for one
more win of everybody; and needed are numbers for the frames without buttons, and room for the win of
whoever is ahead. -/
theorem resumed_stays_exact_iff {options : Json} {config : Config}
    (hoptions : Config.ofOptions options = .ok config) (engine : DuelEngine)
    (hengine : engine.config = config) {left right : String} (hne : left ≠ right) (seed : UInt64)
    (frame : Frame)
    (hresume : (Engine.resume (Engine.start engine [left, right] seed).2 frame).1 = .ok ()) :
    let resumed := (Engine.resume (Engine.start engine [left, right] seed).2 frame).2
    let m := Match.atFrame config left right seed frame
    resumed.current = some m ∧
      (StaysExact resumed ↔ m.InRange ∧ m.FramesFit config ∧ m.WinsFit config) ∧
      (m.StaysOpen config → (StaysExact resumed ↔
        m.InRange ∧ m.frame.toNat + m.framesLeft config < UInt64.size)) ∧
      ((m.frame.toNat + m.framesLeft config < UInt64.size → m.FramesFit config) ∧
        (m.FramesFit config → m.frame.toNat + m.idleFrames config < UInt64.size)) ∧
      ((∀ p, (m.winsOf p).toNat + 1 < UInt32.size) → m.WinsFit config) ∧
      (m.WinsFit config → m.phase = .waiting ∨ m.phase = .fighting →
        ∀ p, m.roundWinner? = some p → (m.winsOf p).toNat + 1 < UInt32.size) := by
  intro resumed m
  subst hengine
  have hconfig := Config.isPositive_of_ofOptions hoptions
  have hcurrent : resumed = ⟨engine.config, some m⟩ := current_resume hne hresume
  have hseats : m.left.id ≠ m.right.id := by
    show (shownIn frame.entities (Match.freshLeft engine.config left)).id
      ≠ (shownIn frame.entities (Match.freshRight engine.config right)).id
    rw [id_shownIn, id_shownIn]
    exact hne
  have hexact : StaysExact resumed ↔
      m.InRange ∧ m.FramesFit engine.config ∧ m.WinsFit engine.config := by
    rw [hcurrent, staysExact_iff, Match.sumsStayFit_iff hseats, ← and_assoc, and_comm]
  refine ⟨by rw [hcurrent], hexact, fun hopen => ?_,
    ⟨Match.framesFit_of_room (Config.roundFrames_pos hconfig), Match.idle_frames_fit hconfig hseats⟩,
    Match.winsFit_of_room, fun hwins hengaged _ => Match.win_fits_of_lead hseats hengaged hwins⟩
  have hwins : m.WinsFit engine.config := Match.winsFit_of_room (Match.win_fits_of_open hopen.now)
  rw [hexact, Match.framesFit_iff_of_staysOpen hconfig hseats hopen]
  simp only [hwins, and_true]

/-- A frame shows the first player at the right end of the arena: the engine can go on from it for good. Another
shows him at the far end of all numbers. The engine goes on from it as well, until the player makes a step to
the right: a build that checks its sums does not come through that frame. -/
theorem resumed_stays_exact_iff_at_the_edge :
    let engine : DuelEngine := {}
    let shown (id : String) (x : Fixed) (facing : Int8) : Entity := ⟨id, x, 0, 0, 0, 100, facing, "idle"⟩
    let frame (x : Fixed) : Frame := ⟨100, [shown "p1" x (-1), shown "p2" 0 1],
      ⟨.fighting, 1, 100, [("p1", 0), ("p2", 0)], none⟩⟩
    let answer (x : Fixed) := Engine.resume (Engine.start engine ["p1", "p2"] 7).2 (frame x)
    ((answer arenaHalfWidth).1 = .ok () ∧ StaysExact (answer arenaHalfWidth).2) ∧
      (answer 2147483647).1 = .ok () ∧ ¬ StaysExact (answer 2147483647).2 ∧
      Run.after? make? (answer 2147483647).2 [.setInput "p1" .moveRight, .step] = none := by
  intro engine shown frame answer
  have hoptions : Config.ofOptions .null = .ok engine.config := rfl
  have hne : "p1" ≠ "p2" := by decide
  obtain ⟨-, -, hexact, -⟩ :=
    resumed_stays_exact_iff hoptions engine rfl hne 7 (frame arenaHalfWidth) rfl
  obtain ⟨-, hedge, -⟩ := resumed_stays_exact_iff hoptions engine rfl hne 7 (frame 2147483647) rfl
  refine ⟨⟨rfl, (hexact ⟨by decide +kernel, fun _ => by decide +kernel⟩).mpr ?_⟩, rfl,
    fun hstays => ?_, by decide +kernel⟩
  · exact ⟨by decide +kernel, by decide +kernel⟩
  · have hout : ¬ (Match.atFrame engine.config "p1" "p2" 7 (frame 2147483647)).InRange := by
      decide +kernel
    exact hout (hedge.mp hstays).1

end DuelEngine

end Arcade.Duel
