import Arcade.Proofs.Host.Matches
import Arcade.Proofs.Host.Storage
/-!
# Duels that come back from storage

A duel is stored with its frame, and a frame does not show all of a match. So the session that takes the
text up is the stored one around the match rewound (`duel_restored`).

A countdown or an intermission that has more frames left is told apart by as many frames as the other
one has (`answers_ne_of_longer`). Sessions around matches that are alike (`Mirrors`) answer alike until
an attack connects (`answers_of_mirrors`). Both together are what `duel_comes_back_rewound` says of every
duel without injectors that is stored and taken up, and `countdown_begins_again` is a run of the first
kind.
-/

namespace Arcade

open Play Live Duel Mechanics Json

/-- The phase of the match in the state that a frame is answered with. -/
def Play.Answer.matchPhase? : Answer → Option MatchPhase
  | .ticked (.ok report) => (storedFrame? report.state).map fun frame => frame.info.phase
  | _ => none

namespace Play.Session

section Duels

variable {config : Duel.Config} {p q : PlayerId} {s s' : Session Duel.Game BuiltIn} {m m' : Match}

/-! ### The match rewound -/

theorem shows_rewound (h : Shows config p q s m) :
    Shows config p q (s.withEngine ⟨config, some m.rewound⟩) m.rewound :=
  ⟨h.bare, h.kept, h.descriptor, rfl, h.proper.rewound, h.players, h.seated, h.last, h.stored, h.plain⟩

/-- The rules of a fresh game go on from the state of a session: nothing is pressed then, and the match is
rewound. -/
theorem resume_of_shows (h : Shows config p q s m) (hinputs : s.rules.inputs = [])
    {engine : DuelEngine} (hengine : engine.config = config) {state : GameState}
    (hstate : s.state = some state) :
    GameRules.resume (Adapter.attached Duel.descriptor engine : Duel.Game) s.players state
      = (.ok (), (s.withEngine ⟨config, some m.rewound⟩).rules) := by
  obtain ⟨state₀, hstate₀, hframe, -⟩ := h.stored
  obtain rfl := Option.some.inj (hstate.symm.trans hstate₀)
  have hstored : storedFrame? state = some (DuelEngine.frameOf m) :=
    storedFrame?_of_get? hframe h.proper.toSeats.sorted
  have hresume := DuelEngine.resumeEngine_frameOf h.proper.distinct h.proper.toSeats engine
  have hplayers := h.players
  obtain ⟨id, ⟨descriptor, slot, players', inputs, last⟩, config', maxPlayers, injectors, players,
    state', seed, random, events, disposed⟩ := s
  obtain rfl : descriptor = _ := h.descriptor
  obtain rfl : players' = _ := h.seated
  obtain rfl : last = _ := h.last
  obtain rfl : inputs = [] := hinputs
  obtain rfl : players = _ := hplayers
  subst hengine
  simp only [GameRules.resume, Adapter.resume, hstored, Adapter.attached, hresume, withEngine]

/-! ### Countdowns and intermissions -/

theorem not_finished_of_paused (h : m.Paused) : m.phase ≠ .finished := by
  rcases h with h | h <;> rw [h] <;> exact nofun

/-- A clock that has frames left after some frames has them less. -/
theorem paused_after (hconfig : 0 < config.roundFrames.toNat) (h : Shows config p q s m)
    (hpaused : m.Paused) {n : Nat} (hn : n < m.phaseFrames.toNat) (seconds : Float) :
    ∃ m', Shows config p q (s.after (List.replicate n (.tick seconds))) m' ∧ m'.phase = m.phase ∧
      m'.phaseFrames.toNat = m.phaseFrames.toNat - n := by
  induction n generalizing s m with
  | zero => exact ⟨m, h, rfl, rfl⟩
  | succ n ih =>
      obtain ⟨hphase, hclock⟩ : (m.next config s.rules.inputs).phase = m.phase ∧
          (m.next config s.rules.inputs).phaseFrames.toNat = m.phaseFrames.toNat - 1 :=
        Match.next_of_paused hpaused (by omega)
      have hnext := (shows_tick hconfig h (not_finished_of_paused hpaused) seconds).1
      have hpaused' : (m.next config s.rules.inputs).Paused := by
        unfold Match.Paused
        rw [hphase]
        exact hpaused
      obtain ⟨m', h', hphase', hclock'⟩ := ih hnext hpaused' (by omega)
      exact ⟨m', h', hphase'.trans hphase, by omega⟩

theorem matchPhase?_of_shows (hconfig : 0 < config.roundFrames.toNat) (h : Shows config p q s m)
    (hphase : m.phase ≠ .finished) (seconds : Float) :
    (s.perform (.tick seconds)).1.matchPhase? = some (m.next config s.rules.inputs).phase := by
  obtain ⟨hnext, report, hanswer, hstate⟩ := shows_tick hconfig h hphase seconds
  obtain ⟨state, hstate', hframe, -⟩ := hnext.stored
  obtain rfl : report.state = state := Option.some.inj (hstate.symm.trans hstate')
  simp only [perform, hanswer, Answer.matchPhase?,
    storedFrame?_of_get? hframe hnext.proper.toSeats.sorted, Option.map_some, DuelEngine.frameOf]

/-- A countdown or an intermission that has more frames left is told apart by as many frames as the other
one has. -/
theorem answers_ne_of_longer (hconfig : 0 < config.roundFrames.toNat) (h : Shows config p q s m)
    (h' : Shows config p q s' m') (hphase : m'.phase = m.phase) (hpaused : m.Paused)
    (hlonger : m.phaseFrames < m'.phaseFrames) (seconds : Float) :
    s'.answers (List.replicate m.phaseFrames.toNat (.tick seconds))
      ≠ s.answers (List.replicate m.phaseFrames.toNat (.tick seconds)) := by
  have hless : m.phaseFrames.toNat < m'.phaseFrames.toNat := UInt32.lt_iff_toNat_lt.mp hlonger
  have hpaused' : m'.Paused := by
    unfold Match.Paused
    rw [hphase]
    exact hpaused
  have hpos : 0 < m.phaseFrames.toNat := by
    rcases hpaused with hwaiting | hover
    · exact (h.proper.waiting hwaiting).1
    · exact (h.proper.roundOver hover).1
  obtain ⟨n, hn⟩ : ∃ n, m.phaseFrames.toNat = n + 1 := ⟨m.phaseFrames.toNat - 1, by omega⟩
  obtain ⟨m₁, h₁, hphase₁, hclock₁⟩ := paused_after hconfig h hpaused (n := n) (by omega) seconds
  obtain ⟨m₁', h₁', hphase₁', hclock₁'⟩ :=
    paused_after hconfig h' hpaused' (n := n) (by omega) seconds
  have hpaused₁ : m₁.Paused := by rwa [Match.Paused, hphase₁]
  have hpaused₁' : m₁'.Paused := by rwa [Match.Paused, hphase₁']
  -- the last of the frames ends the one phase, and not the other
  have hends : ((s.after (List.replicate n (.tick seconds))).perform (.tick seconds)).1.matchPhase?
      ≠ some m.phase := by
    rw [matchPhase?_of_shows hconfig h₁ (not_finished_of_paused hpaused₁), ← hphase₁]
    exact fun heq => Match.next_of_last hpaused₁ (by omega) (Option.some.inj heq)
  have hstays : ((s'.after (List.replicate n (.tick seconds))).perform (.tick seconds)).1.matchPhase?
      = some m.phase := by
    rw [matchPhase?_of_shows hconfig h₁' (not_finished_of_paused hpaused₁'),
      (Match.next_of_paused hpaused₁' (by omega)).1, hphase₁', hphase]
  have hlast : ∀ s : Session Duel.Game BuiltIn,
      s.answers (List.replicate (n + 1) (.tick seconds))
        = s.answers (List.replicate n (.tick seconds))
          ++ [((s.after (List.replicate n (.tick seconds))).perform (.tick seconds)).1] := by
    intro s
    rw [List.replicate_succ']
    exact Run.answers_append s _ _
  intro heq
  rw [hn, hlast, hlast] at heq
  have hsame := (List.cons.inj (List.append_inj' heq rfl).2).1
  rw [hsame] at hstays
  exact hends hstays

/-! ### Until an attack connects -/

/-- Whether an attack connects in the next frame. -/
def lands (s : Session Duel.Game BuiltIn) : Bool :=
  match s.rules.slot with
  | .attached engine => engine.current.any fun m => (m.holding s.rules.inputs).lands
  | _ => false

/-- Two sessions around matches that are alike, and otherwise the same. -/
def Mirrors (config : Duel.Config) (p q : PlayerId) (s s' : Session Duel.Game BuiltIn) : Prop :=
  ∃ m m' : Match, Shows config p q s m ∧ m.Alike m' ∧ s' = s.withEngine ⟨config, some m'⟩

theorem mirrors_act (h : Mirrors config p q s s') (player : PlayerId) (action : Action) :
    (s'.handleAction player action).1 = (s.handleAction player action).1 ∧
      Mirrors config p q (s.handleAction player action).2 (s'.handleAction player action).2 := by
  obtain ⟨m, m', hshows, halike, rfl⟩ := h
  rw [handleAction_withEngine hshows.slot]
  exact ⟨rfl, m, m', shows_handleAction hshows player action, halike, rfl⟩

theorem mirrors_tick (hconfig : 0 < config.roundFrames.toNat) (h : Mirrors config p q s s')
    (hno : s.lands = false) (seconds : Float) :
    (s'.tick seconds).1 = (s.tick seconds).1 ∧
      Mirrors config p q (s.tick seconds).2 (s'.tick seconds).2 := by
  obtain ⟨m, m', hshows, halike, rfl⟩ := h
  obtain ⟨state, hstate, hframe, hended⟩ := hshows.stored
  by_cases hphase : m.phase = .finished
  · -- a game that is decided is answered from its state, whatever the engine
    have hdecided : state.isEnded = true := by simp [GameState.isEnded, hended.mpr hphase]
    have htick : ∀ engine : DuelEngine, (s.withEngine engine).tick seconds
        = (.ok ⟨state, [], false, false⟩, s.withEngine engine) := by
      intro engine
      unfold tick
      simp only [withEngine, hshows.kept, hstate, hdecided, Bool.false_eq_true, if_false, if_true]
    have hself : s.withEngine ⟨config, some m⟩ = s := by
      unfold withEngine
      rw [← hshows.slot]
    have hsame := htick ⟨config, some m⟩
    rw [hself] at hsame
    rw [htick, hsame]
    exact ⟨rfl, m, m', hshows, halike, rfl⟩
  · have hplaying : state.phase ≠ .ended := fun hdecided => hphase (hended.mp hdecided)
    have hquiet : (m.holding s.rules.inputs).lands = false := by
      simpa only [lands, hshows.slot, Option.any_some] using hno
    have hnext := halike.next config hquiet
    have hsimulate := simulate_of_shows hshows hshows.proper.toSeats
    have hsimulate' := simulate_of_shows hshows (halike.seats hshows.proper.toSeats)
    have hsame : (Adapter.simulate s.rules.inputs s.rules.players (⟨config, some m'⟩ : DuelEngine)).1
        = (Adapter.simulate s.rules.inputs s.rules.players (⟨config, some m⟩ : DuelEngine)).1 := by
      rw [hsimulate, hsimulate', hnext.shown]
    rw [tick_withEngine hshows.slot hshows.kept hstate hplaying hsame, hsimulate']
    exact ⟨rfl, _, _, (shows_tick hconfig hshows hphase seconds).1, hnext, rfl⟩

/-- Mirrored sessions answer alike until an attack connects. -/
theorem answers_of_mirrors (hconfig : 0 < config.roundFrames.toNat) (h : Mirrors config p q s s')
    {later : List Call} (hlater : ∀ c ∈ later, c.isMove = true)
    (hno : ∀ before seconds after, later = before ++ .tick seconds :: after →
      (s.after before).lands = false) : s'.answers later = s.answers later := by
  -- both sessions change with every call, and what they share is that they mirror each other
  induction later generalizing s s' with
  | nil => rfl
  | cons c rest ih =>
      have hstep : (s'.perform c).1 = (s.perform c).1 ∧
          Mirrors config p q (s.perform c).2 (s'.perform c).2 := by
        cases c with
        | act player action =>
            obtain ⟨hanswer, hnext⟩ := mirrors_act h player action
            exact ⟨congrArg Answer.acted hanswer, hnext⟩
        | tick seconds =>
            obtain ⟨hanswer, hnext⟩ := mirrors_tick hconfig h (hno [] seconds rest rfl) seconds
            exact ⟨congrArg Answer.ticked hanswer, hnext⟩
        | _ => exact absurd (hlater _ List.mem_cons_self) (by simp [Call.isMove])
      have hrest := ih hstep.2 (fun d hd => hlater d (List.mem_cons_of_mem c hd))
        fun before seconds after heq => hno (c :: before) seconds after (by rw [heq]; rfl)
      show (s'.perform c).1 :: (s'.perform c).2.answers rest
        = (s.perform c).1 :: (s.perform c).2.answers rest
      rw [hstep.1, hrest]

/-! ### Texts of duels -/

/-- A duel is stored as a text that is read back as it was written. -/
theorem readsBack_of_shows (h : Shows config p q s m)
    {saved : SavedSession} (hsave : s.save? = .ok saved) : ReadsBack saved.toJson := by
  obtain ⟨state, hstate, -, -⟩ := h.stored
  simp only [save?, hstate] at hsave
  obtain rfl := Except.ok.inj hsave
  exact readsBack_of_plain
    (plain_mono (by decide) _ (SavedSession.plain (h.plain state hstate)))

end Duels

end Play.Session

/-! ### Sessions of one configuration -/

theorem Duel.Config.plain_of_ofOptions {options : Json} {c : Duel.Config}
    (h : Duel.Config.ofOptions options = .ok c) : Plain 1 options := by
  unfold ofOptions at h
  split at h
  next hnull =>
    cases options with
    | null => simp [Plain]
    | _ => cases hnull
  · split at h
    · cases h
    next c' hdecode =>
      refine Schema.plain_of_decode rfl (fun f hf r c c' hstore => ?_) hdecode
      simp only [schema, List.mem_cons, List.not_mem_nil, or_false] at hf
      rcases hf with rfl | rfl | rfl <;> obtain ⟨n, hn, -⟩ := Field.store_of hstore
      · exact isWord_of_uint32 hn
      · exact isWord_of_uint32 hn
      · exact isWord_of_int32 hn

/-- A duel without injectors that has not started. -/
def freshDuel (id : String) (duel : Duel.Config) (config : GameConfig) : Session Duel.Game BuiltIn :=
  .create id (.attached Duel.descriptor { config := duel }) config []

/-- Duels of one configuration without injectors differ in their ids alone. -/
theorem duel_twins {catalog : Catalog BuiltIn} {id id' : String} {config : GameConfig}
    (hbare : config.injectors = []) {s t : Session Duel.Game BuiltIn}
    (hs : Host.create catalog id config = .ok (.duel s))
    (ht : Host.create catalog id' config = .ok (.duel t)) :
    ∃ duel, Duel.Config.ofOptions config.options = .ok duel ∧ s = freshDuel id duel config ∧
      t = freshDuel id' duel config := by
  obtain ⟨rules, hrules, hs⟩ := HostedGame.duel_of_create hs
  obtain ⟨rules', hrules', ht⟩ := HostedGame.duel_of_create ht
  obtain rfl : rules = rules' := Except.ok.inj (hrules.symm.trans hrules')
  obtain ⟨duel, hduel, rfl⟩ := HostedGame.ok_of_map hrules
  obtain ⟨injectors, hbuilt, rfl⟩ := HostedGame.create_of_ofConfig hs
  obtain ⟨injectors', hbuilt', rfl⟩ := HostedGame.create_of_ofConfig ht
  rw [hbare] at hbuilt hbuilt'
  obtain rfl := Except.ok.inj hbuilt
  obtain rfl := Except.ok.inj hbuilt'
  exact ⟨duel, hduel, rfl, rfl⟩

/-! ### The round trip -/

section RoundTrip

variable {config : GameConfig} {id id' : String} {s₀ t s₁ s : Session Duel.Game BuiltIn}
  {players : List PlayerId} {seed : Option UInt64} {events : List Event} {calls : List Call}

/-- What a fresh session makes of the text of a duel that was played. -/
theorem duel_restored (hbare : config.injectors = [])
    (hseats : ∀ n, config.maxPlayers = some n → n ≤ Words.max64)
    (hs₀ : Host.create BuiltIn.catalog id config = .ok (.duel s₀))
    (ht : Host.create BuiltIn.catalog id' config = .ok (.duel t))
    (hstart : s₀.start players seed = (.ok events, s₁)) (hcalls : ∀ c ∈ calls, c.isMove = true)
    (hs : s = s₁.after calls) (hinputs : s.rules.inputs = []) :
    ∃ duel p q m text, 0 < duel.roundFrames.toNat ∧ Session.Shows duel p q s m ∧
      s.toText = .ok text ∧
      t.restoreText text = (.ok (), s.withEngine ⟨duel, some m.rewound⟩) := by
  obtain ⟨duel, hduel, rfl, rfl⟩ := duel_twins hbare hs₀ ht
  have hrounds := Duel.Config.roundFrames_pos (Duel.Config.isPositive_of_ofOptions hduel)
  have hconfig : Plain 3 config.toJson := plain_mono (by omega) _
    (GameConfig.plain hbare hseats (Duel.Config.plain_of_ofOptions hduel))
  obtain ⟨p, q, m₁, hshows₁⟩ := Session.shows_of_start hconfig rfl rfl rfl rfl hstart
  obtain ⟨m, hshows⟩ := Session.shows_after hrounds hcalls ⟨m₁, hshows₁⟩
  rw [← hs] at hshows
  have hstorable : Session.Storable (freshDuel id' duel config) s := by
    have htwin : Session.Twin (freshDuel id' duel config) (freshDuel id duel config) :=
      ⟨rfl, rfl, rfl⟩
    have hsteady : ∀ i ∈ ([] : List BuiltIn), Steady i := fun i hi => absurd hi List.not_mem_nil
    have hbegun := Session.storable_of_begun keepsOrder_adapter injectorsKeepOrder hsteady htwin
      (Session.begun_of_start hstart)
    rw [hs]
    refine Session.storable_after keepsOrder_adapter injectorsKeepOrder hsteady hbegun fun c hc => ?_
    have hmove := hcalls c hc
    cases c with
    | act player action => trivial
    | tick seconds => trivial
    | _ => cases hmove
  obtain ⟨text, htext, hrestore⟩ := Session.restoreText_toText hstorable hshows.kept rfl
    (fun saved hsave => Session.readsBack_of_shows hshows hsave)
    fun state hstate => Session.resume_of_shows hshows hinputs rfl hstate
  exact ⟨duel, p, q, m, text, hrounds, hshows, htext, hrestore⟩

/-- **A duel comes back from storage rewound.** Take any duel without injectors that was started and then
played by actions and frames, with no buttons waiting for the next frame. A fresh session of the
same configuration takes up its text, and is the same session then but for the match, which is rewound.
So a countdown or an intermission under way ends later, and is told apart by the frames that it had
left. But a match of which the frame has hidden nothing but the generator goes on as it would have,
until an attack connects. -/
theorem duel_comes_back_rewound (hbare : config.injectors = [])
    (hseats : ∀ n, config.maxPlayers = some n → n ≤ Words.max64)
    (hs₀ : Host.create BuiltIn.catalog id config = .ok (.duel s₀))
    (ht : Host.create BuiltIn.catalog id' config = .ok (.duel t))
    (hstart : s₀.start players seed = (.ok events, s₁)) (hcalls : ∀ c ∈ calls, c.isMove = true)
    (hs : s = s₁.after calls) (hinputs : s.rules.inputs = []) :
    ∃ duel m text, s.rules.slot = .attached ⟨duel, some m⟩ ∧ s.toText = .ok text ∧
      let copy := s.withEngine ⟨duel, some m.rewound⟩
      t.restoreText text = (.ok (), copy) ∧
        (m.Paused → m.phaseFrames < DuelEngine.resumedPhaseFrames m.phase → ∀ seconds,
          copy.answers (List.replicate m.phaseFrames.toNat (.tick seconds))
            ≠ s.answers (List.replicate m.phaseFrames.toNat (.tick seconds))) ∧
        (m.Candid → ∀ later, (∀ c ∈ later, c.isMove = true) →
          (∀ before seconds after, later = before ++ .tick seconds :: after →
            (s.after before).lands = false) →
          copy.answers later = s.answers later) := by
  obtain ⟨duel, p, q, m, text, hrounds, hshows, htext, hrestore⟩ :=
    duel_restored hbare hseats hs₀ ht hstart hcalls hs hinputs
  refine ⟨duel, m, text, hshows.slot, htext, hrestore, fun hpaused hless seconds => ?_,
    fun hcandid later hlater hno => ?_⟩
  · exact Session.answers_ne_of_longer hrounds hshows (Session.shows_rewound hshows) rfl hpaused hless
      seconds
  · have hmirrors : Session.Mirrors duel p q s (s.withEngine ⟨duel, some m.rewound⟩) :=
      ⟨m, m.rewound, hshows, Match.alike_rewound hshows.proper hcandid, rfl⟩
    exact Session.answers_of_mirrors hrounds hmirrors hlater hno

/-- Two actions and two frames into the countdown the copy is told apart by the fifty-eight frames that were
left of it. At the very start nothing is hidden: a jump is answered as it would have been. -/
theorem duel_comes_back_rewound_in_countdown :
    let config : GameConfig := { gameType := "duel" }
    let begun := ((freshDuel "g" {} config).start ["a", "b"] (some 7)).2
    let s := begun.after
      [.act "a" { kind := "jump" }, .tick 0.1, .act "b" { kind := "move_left" }, .tick 0.1]
    let later : List Call := [.act "a" { kind := "jump" }, .tick 0.1]
    (∃ text copy, s.toText = .ok text ∧ (freshDuel "h" {} config).restoreText text = (.ok (), copy) ∧
      copy.answers (List.replicate 58 (.tick 0.1)) ≠ s.answers (List.replicate 58 (.tick 0.1))) ∧
    ∃ text copy, begun.toText = .ok text ∧
      (freshDuel "h" {} config).restoreText text = (.ok (), copy) ∧
      copy.answers later = begun.answers later := by
  intro config begun s later
  have hcreate : ∀ id, Host.create BuiltIn.catalog id config = .ok (.duel (freshDuel id {} config)) :=
    fun _ => rfl
  have hstart : (freshDuel "g" {} config).start ["a", "b"] (some 7)
      = (.ok [Event.started ["a", "b"]], begun) := rfl
  constructor
  · have hs : s = begun.after
        [.act "a" { kind := "jump" }, .tick 0.1, .act "b" { kind := "move_left" }, .tick 0.1] := rfl
    have hinputs : s.rules.inputs = [] := by decide +kernel
    have hclock : (match s.rules.slot with
        | .attached engine => engine.current.map fun m => (m.phase, m.phaseFrames)
        | _ => none) = some (.waiting, 58) := by decide +kernel
    obtain ⟨duel, m, text, hslot, htext, hrestore, hdiffers, -⟩ :=
      duel_comes_back_rewound rfl (by simp [config]) (hcreate "g") (hcreate "h") hstart
        (by simp [Call.isMove]) hs hinputs
    rw [hslot] at hclock
    obtain ⟨hphase, hframes⟩ := Prod.mk.inj (Option.some.inj hclock)
    have hless : m.phaseFrames < DuelEngine.resumedPhaseFrames m.phase := by
      rw [hphase, hframes]
      decide
    have hanswers := hdiffers (Or.inl hphase) hless 0.1
    rw [hframes] at hanswers
    exact ⟨text, _, htext, hrestore, hanswers⟩
  · obtain ⟨duel, m, text, hslot, htext, hrestore, -, hgoes⟩ :=
      duel_comes_back_rewound rfl (by simp [config]) (hcreate "g") (hcreate "h") hstart
        (fun c hc => absurd hc List.not_mem_nil) rfl rfl
    have hbegun : m = Match.begin {} "a" "b" (Generator.ofSeed 7).next.1 := by
      cases hslot
      rfl
    have hcandid : m.Candid := by
      subst hbegun
      exact ⟨fun _ => rfl, fun hfights => by cases hfights⟩
    refine ⟨text, _, htext, hrestore, hgoes hcandid later (by simp [later, Call.isMove]) ?_⟩
    intro before seconds after hlater
    rcases before with _ | ⟨c, _ | ⟨d, rest⟩⟩
    · simp [later] at hlater
    · obtain ⟨rfl, -, -⟩ : Call.act "a" { kind := "jump" } = c ∧ 0.1 = seconds ∧ [] = after := by
        simpa [later] using hlater
      rfl
    · simp [later] at hlater

/-- A countdown that is stored after its first frame begins again: fifty-nine frames later the original
has come to fight, and the copy still counts down. -/
theorem countdown_begins_again :
    let config : GameConfig := { gameType := "duel" }
    let s := ((freshDuel "g" {} config).start ["a", "b"] (some 7)).2.after [.tick 0.1]
    let later : List Call := List.replicate 59 (.tick 0.1)
    (∀ id, Host.create BuiltIn.catalog id config = .ok (.duel (freshDuel id {} config))) ∧
      s.rules.inputs = [] ∧ s.phase = .playing ∧
      ∃ text copy, s.toText = .ok text ∧ (freshDuel "h" {} config).restoreText text = (.ok (), copy) ∧
        copy.answers later ≠ s.answers later := by
  intro config s later
  have hcreate : ∀ id, Host.create BuiltIn.catalog id config = .ok (.duel (freshDuel id {} config)) :=
    fun _ => rfl
  have hstart : (freshDuel "g" {} config).start ["a", "b"] (some 7)
      = (.ok [Event.started ["a", "b"]], ((freshDuel "g" {} config).start ["a", "b"] (some 7)).2) := rfl
  have hs : s = ((freshDuel "g" {} config).start ["a", "b"] (some 7)).2.after [.tick 0.1] := rfl
  have hinputs : s.rules.inputs = [] := by decide +kernel
  have hcalls : ∀ c ∈ [Call.tick 0.1], c.isMove = true := by simp [Call.isMove]
  obtain ⟨duel, p, q, m, text, hrounds, hshows, htext, hrestore⟩ :=
    duel_restored rfl (by simp [config]) (hcreate "g") (hcreate "h") hstart hcalls hs hinputs
  have hclock : (match s.rules.slot with
      | .attached engine => engine.current.map fun m => (m.phase, m.phaseFrames)
      | _ => none) = some (.waiting, 59) := by decide +kernel
  rw [hshows.slot] at hclock
  obtain ⟨hphase, hframes⟩ := Prod.mk.inj (Option.some.inj hclock)
  -- fifty-nine frames are left of the countdown, and the copy has all sixty of it
  have hless : m.phaseFrames < m.rewound.phaseFrames := by
    simp only [Match.rewound, hphase, hframes]
    decide
  have hdiffer := Session.answers_ne_of_longer hrounds hshows (Session.shows_rewound hshows) rfl
    (Or.inl hphase) hless 0.1
  rw [hframes] at hdiffer
  exact ⟨hcreate, hinputs, by decide +kernel, text, _, htext, hrestore, hdiffer⟩

end RoundTrip

end Arcade
