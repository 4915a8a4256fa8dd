import Arcade.Proofs.Duel.Resume
import Arcade.Proofs.Host.Lifecycle
import Arcade.Proofs.Live.Inputs
/-!
# Sessions around a match

A duel without injectors is its match and what the session makes of it. `Shows` says that it is: the
frame of the match is the last one, the state holds it, and the game is decided with the match.
A duel is that from its start on (`shows_of_start`), an action leaves the match alone
(`shows_handleAction`), and a frame takes it to its next frame (`shows_tick`), so that whatever is
played, there is a match that the session shows (`shows_after`).

The engine itself is hardly looked at. An action does not look at it at all (`handleAction_withEngine`),
and a frame looks no further than to the frame that the engine shows next (`tick_withEngine`).
-/

namespace Arcade

open Play Live Duel Mechanics Json

namespace Play.Session

/-! ### Sessions around different engines -/

section Engines

variable {β ι : Type} [Engine β] [Injector ι] {s : Session (Adapter β) ι} {engine engine' : β}

omit [Engine β] [Injector ι] in
/-- The same session around another engine. -/
def withEngine (s : Session (Adapter β) ι) (engine : β) : Session (Adapter β) ι :=
  { s with rules := { s.rules with slot := .attached engine } }

/-- No action looks at the engine. -/
theorem handleAction_withEngine (hslot : s.rules.slot = .attached engine) (engine' : β)
    (player : PlayerId) (action : Action) :
    (s.withEngine engine').handleAction player action
      = ((s.handleAction player action).1, (s.handleAction player action).2.withEngine engine') := by
  have hattached : s.rules.isDisposed = false := by
    unfold Adapter.isDisposed
    rw [hslot]
  have hattached' : (s.withEngine engine').rules.isDisposed = false := rfl
  have hrefusal : (s.withEngine engine').refusal? player = s.refusal? player := rfl
  unfold handleAction answerAction
  rw [hrefusal]
  cases s.refusal? player with
  | some refusal => rfl
  | none =>
      rw [show (s.withEngine engine').state = s.state from rfl]
      cases s.state with
      | none => rfl
      | some state =>
          dsimp only [runAction]
          rw [show (s.withEngine engine').injectors = s.injectors from rfl]
          rcases Pipeline.before player action state.data s.injectors with ⟨joint, injectors⟩
          cases joint with
          | vetoed name challenge => rfl
          | proceed forwarded multiplier challenge =>
              dsimp only [GameRules.act, Adapter.act]
              rw [hattached, hattached']
              cases Buttons.ofAction forwarded with
              | error fault => rfl
              | ok buttons => rfl

omit [Injector ι] in
/-- A frame looks at the engine no further than to the frame that it shows next. -/
theorem tick_withEngine {state : GameState} (hslot : s.rules.slot = .attached engine)
    (hdisposed : s.disposed = false) (hstate : s.state = some state) (hphase : state.phase ≠ .ended)
    (hsame : (Adapter.simulate s.rules.inputs s.rules.players engine').1
      = (Adapter.simulate s.rules.inputs s.rules.players engine).1) (seconds : Float) :
    (s.withEngine engine').tick seconds = ((s.tick seconds).1, (s.tick seconds).2.withEngine
      (Adapter.simulate s.rules.inputs s.rules.players engine').2) := by
  have hended : state.isEnded = false := by simp [GameState.isEnded, hphase]
  have hadvance := Adapter.advance_of_attached hslot
  have hadvance' : (s.withEngine engine').rules.advance
      = ((Adapter.simulate s.rules.inputs s.rules.players engine).1,
        { s.rules with
          slot := .attached (Adapter.simulate s.rules.inputs s.rules.players engine').2 }) := by
    rw [← hsame]
    exact Adapter.advance_of_attached rfl
  unfold tick
  rw [show (s.withEngine engine').disposed = s.disposed from rfl,
    show (s.withEngine engine').state = s.state from rfl, hdisposed, hstate]
  simp only [hended, Bool.false_eq_true, if_false, GameRules.tick, Adapter.tick, hadvance, hadvance']
  cases (Adapter.simulate s.rules.inputs s.rules.players engine).1 with
  | error fault => rfl
  | ok frame => rfl

end Engines

/-! ### Sessions around a match -/

section Duels

variable {config : Duel.Config} {p q : PlayerId} {s s' : Session Duel.Game BuiltIn} {m m' : Match}

/-- Data of plain documents, as deep as frames are. -/
def PlainData (data : Data) : Prop := ∀ e ∈ data, Plain 3 e.2

theorem plainData_insert {data : Data} (h : PlainData data) (key : String) {j : Json}
    (hj : Plain 3 j) : PlainData (Dict.insert data key j) := by
  intro e he
  rcases Dict.mem_insert he with rfl | he
  · exact hj
  · exact h e he

theorem plainData_storeFrame {data : Data} (h : PlainData data) (frame : Frame)
    (patches : List Patch) : PlainData (storeFrame data frame patches) := by
  have hpatches : Plain 3 (.arr (patches.map fun p => p.toJson.canonical)) := by
    rw [plain_arr_iff]
    intro j hj
    obtain ⟨p, -, rfl⟩ := List.mem_map.mp hj
    exact plain_canonical 2 _ (plain_mono (by omega) _ p.plain)
  exact plainData_insert (plainData_insert h _ (plain_canonical 3 _ frame.plain)) _ hpatches

/-- An action without injectors leaves no multiplier. -/
theorem mergeMultiplier_one (data : Data) :
    mergeMultiplier data 1.0 = Dict.erase data multiplierKey := by
  have hnone : ¬ (1.0 - 1.0 : Float).abs > Float.ofBits 0x3CB0000000000000 := by decide +kernel
  rw [mergeMultiplier, if_neg hnone]

/-- A session without injectors around a match that is played: the adapter and the state hold the frame
of it, and the game is decided with it. -/
structure Shows (config : Duel.Config) (p q : PlayerId) (s : Session Duel.Game BuiltIn) (m : Match) :
    Prop where
  bare : s.injectors = []
  kept : s.disposed = false
  descriptor : s.rules.descriptor = Duel.descriptor
  slot : s.rules.slot = .attached ⟨config, some m⟩
  proper : m.Proper config p q
  players : s.players = [p, q]
  seated : s.rules.players = [p, q]
  last : s.rules.last = some (DuelEngine.frameOf m)
  stored : ∃ state, s.state = some state ∧
    Dict.get? state.data frameKey = some (DuelEngine.frameOf m).toJson.canonical ∧
    (state.phase = .ended ↔ m.phase = .finished)
  plain : ∀ state, s.state = some state → PlainData state.data

theorem isOver_iff_of_get? {state : GameState} (hm : m.Seats p q)
    (hframe : Dict.get? state.data frameKey = some (DuelEngine.frameOf m).toJson.canonical)
    (rules : Duel.Game) : GameRules.isOver rules state = true ↔ m.phase = .finished := by
  have hstored : storedFrame? state = some (DuelEngine.frameOf m) :=
    storedFrame?_of_get? hframe hm.sorted
  show (storedFrame? state).any _ = true ↔ _
  rw [hstored, Option.any_some]
  exact decide_eq_true_iff

/-- A state that is settled with the frame of a match is decided with the match. -/
theorem ended_iff_of_settle {rules : Duel.Game} {next state' : GameState} {events queue : EventQueue}
    {ended : Bool} (hm : m.Seats p q)
    (hframe : Dict.get? next.data frameKey = some (DuelEngine.frameOf m).toJson.canonical)
    (hsettle : settle rules next events = (state', queue, ended)) (hplaying : next.phase ≠ .ended) :
    state'.phase = .ended ↔ m.phase = .finished := by
  have hover := isOver_iff_of_get? hm hframe rules
  rcases settle_cases hsettle with ⟨hno, rfl, -⟩ | ⟨hyes, rfl, -⟩
  · refine ⟨fun hended => absurd hended hplaying, fun hfinished => ?_⟩
    rw [hover.mpr hfinished] at hno
    cases hno
  · exact ⟨fun _ => hover.mp hyes, fun _ => rfl⟩

/-- Actions leave the match alone. -/
theorem shows_handleAction (h : Shows config p q s m) (player : PlayerId) (action : Action) :
    Shows config p q (s.handleAction player action).2 m := by
  obtain ⟨state₀, hstate₀, hframe, hended⟩ := h.stored
  have hbefore' : ∀ data, Pipeline.before player action data s.injectors
      = (.proceed action 1.0 none, []) := by
    intro data
    rw [h.bare]
    rfl
  have hhandled := handled s player action
  generalize (s.handleAction player action).1 = result at hhandled
  generalize (s.handleAction player action).2 = s' at hhandled ⊢
  cases hhandled with
  | refused _ =>
      exact ⟨h.bare, h.kept, h.descriptor, h.slot, h.proper, h.players, h.seated, h.last, h.stored, h.plain⟩
  | vetoed _ _ hbefore =>
      rw [hbefore'] at hbefore
      cases hbefore
  | rejected _ _ hbefore hact =>
      rw [hbefore'] at hbefore
      cases hbefore
      obtain ⟨rfl, -⟩ := Adapter.act_error hact
      exact ⟨rfl, h.kept, h.descriptor, h.slot, h.proper, h.players, h.seated, h.last, h.stored, h.plain⟩
  | @processed state _ _ _ _ _ _ _ _ _ state' _ _ hrefusal hstate hbefore hact hafter hsettle =>
      rw [hbefore'] at hbefore
      cases hbefore
      obtain ⟨buttons, -, rfl, -, rfl⟩ := Adapter.act_ok hact
      obtain ⟨rfl, rfl⟩ := Prod.mk.inj hafter
      obtain rfl : state = state₀ := Option.some.inj (hstate.symm.trans hstate₀)
      obtain ⟨-, state₁, hstate₁, -, hplaying⟩ := state_of_refusal?_eq_none hrefusal
      obtain rfl : state = state₁ := Option.some.inj (hstate.symm.trans hstate₁)
      -- an action writes the multiplier only, which is not where the frame is
      have hmerged : Dict.get? (mergeMultiplier state.data 1.0) frameKey
          = some (DuelEngine.frameOf m).toJson.canonical := by
        rw [get?_mergeMultiplier state.data 1.0 (by decide)]
        exact hframe
      refine ⟨rfl, h.kept, h.descriptor, h.slot, h.proper, h.players, h.seated, h.last,
        ⟨state', rfl, (frame_of_settle hsettle).trans hframe,
          ended_iff_of_settle h.proper.toSeats hmerged hsettle hplaying⟩, ?_⟩
      rintro _ ⟨rfl⟩ e he
      rw [data_of_settle hsettle, mergeMultiplier_one] at he
      exact h.plain state hstate e ((Dict.erase_sublist state.data multiplierKey).subset he)

/-- A frame of a game that is decided does nothing. -/
theorem tick_of_finished (h : Shows config p q s m) (hphase : m.phase = .finished) (seconds : Float) :
    (s.tick seconds).2 = s := by
  obtain ⟨state, hstate, -, hended⟩ := h.stored
  have hended : state.isEnded = true := by simp [GameState.isEnded, hended.mpr hphase]
  unfold tick
  simp only [h.kept, hstate, hended, Bool.false_eq_true, if_false, if_true]

theorem simulate_of_shows (h : Shows config p q s m) (hm' : m'.Seats p q) :
    Adapter.simulate s.rules.inputs s.rules.players (⟨config, some m'⟩ : DuelEngine)
      = (.ok (DuelEngine.frameOf (m'.next config s.rules.inputs)),
        ⟨config, some (m'.next config s.rules.inputs)⟩) := by
  rw [h.seated]
  exact DuelEngine.simulate_of_seats h.proper.distinct hm' _

/-- A frame of a game that is not decided takes the match to the next frame, and answers with it. -/
theorem shows_tick (hconfig : 0 < config.roundFrames.toNat) (h : Shows config p q s m)
    (hphase : m.phase ≠ .finished) (seconds : Float) :
    Shows config p q (s.tick seconds).2 (m.next config s.rules.inputs) ∧
      ∃ report, (s.tick seconds).1 = .ok report ∧ (s.tick seconds).2.state = some report.state := by
  obtain ⟨state₀, hstate₀, -, hended⟩ := h.stored
  have hadvance := Adapter.advance_of_attached h.slot
  rw [simulate_of_shows h h.proper.toSeats] at hadvance
  have hticked := ticked s seconds
  generalize (s.tick seconds).1 = answer at hticked ⊢
  generalize (s.tick seconds).2 = s' at hticked ⊢
  -- of the five ways in which a frame may end, a match that is played leaves the last one only
  cases hticked with
  | disposed hdisposed =>
      rw [h.kept] at hdisposed
      cases hdisposed
  | unstarted _ hstate =>
      rw [hstate₀] at hstate
      cases hstate
  | decided _ hstate hdecided =>
      obtain rfl := Option.some.inj (hstate.symm.trans hstate₀)
      exact absurd (hended.mp hdecided) hphase
  | failed _ _ _ htick =>
      obtain ⟨fault, hfault, -, -⟩ := Adapter.tick_error htick
      rw [hadvance] at hfault
      cases hfault
  | @advanced state _ _ stage state' _ _ _ hstate hplaying htick hsettle =>
      obtain ⟨frame, changes, b, hframe, rfl, rfl⟩ := Adapter.tick_ok htick
      rw [hadvance] at hframe
      obtain ⟨hanswer, rfl⟩ := Prod.mk.inj hframe
      obtain rfl := Except.ok.inj hanswer
      have hproper : (m.next config s.rules.inputs).Proper config p q :=
        h.proper.next hconfig hphase
      have hentry := get?_storeFrame state.data
        (DuelEngine.frameOf (m.next config s.rules.inputs)) changes
      refine ⟨⟨h.bare, h.kept, h.descriptor, rfl, hproper, h.players, h.seated, rfl,
        ⟨state', rfl, ?_, ended_iff_of_settle hproper.toSeats hentry hsettle hplaying⟩, ?_⟩,
        _, rfl, rfl⟩
      · rw [data_of_settle hsettle]
        exact hentry
      · rintro _ ⟨rfl⟩
        rw [data_of_settle hsettle]
        exact plainData_storeFrame (h.plain state hstate) _ changes

/-! ### From the start on -/

theorem shows_of_start {engine : DuelEngine} (hconfig : Plain 3 s.config.toJson)
    (hbare : s.injectors = []) (hkept : s.disposed = false)
    (hdescriptor : s.rules.descriptor = Duel.descriptor) (hslot : s.rules.slot = .attached engine)
    {players : List PlayerId} {seed : Option UInt64} {events : List Event}
    (hstart : s.start players seed = (.ok events, s')) :
    ∃ p q m, Shows engine.config p q s' m := by
  cases begun_of_start hstart with
  | @begun data fragment rules stage injectors hcheck hprepare hinjectors =>
      have hnodup := nodup_of_checkPlayers hcheck
      have hframe : Dict.get? (s.openingData data fragment) frameKey = Dict.get? data frameKey :=
        get?_openingData data hinjectors (by decide) (by decide)
      have hnone : injectors = [] := by
        rw [hbare] at hinjectors
        exact (congrArg Prod.snd hinjectors).symm
      simp only [GameRules.prepare, Adapter.prepare, hslot, Adapter.startEngine, Engine.start,
        DuelEngine.start] at hprepare
      rcases players with _ | ⟨p, _ | ⟨q, _ | ⟨third, rest⟩⟩⟩
      · cases hprepare
      · cases hprepare
      · cases hprepare
        have hne : p ≠ q := by simpa using hnodup
        have hproper := Match.proper_begin engine.config hne
          (⟨.ofSeed (s.seedFor [p, q] seed), {}⟩ : Stage).draw.1
        refine ⟨p, q, _, hnone, hkept, hdescriptor, rfl, hproper, rfl, rfl, rfl,
          ⟨_, rfl, hframe.trans (get?_storeFrame [] _ []), ?_⟩, ?_⟩
        · constructor <;> intro hover <;> cases hover
        rintro _ ⟨rfl⟩
        rw [hbare] at hinjectors
        obtain ⟨rfl, -⟩ := Prod.mk.inj hinjectors
        exact plainData_insert (plainData_storeFrame (fun e he => absurd he List.not_mem_nil) _ [])
          configKey (plain_canonical 3 _ hconfig)
      · cases hprepare

/-- Whatever is played, the session stays around a match that is played. -/
theorem shows_after (hconfig : 0 < config.roundFrames.toNat) {calls : List Call}
    (hcalls : ∀ c ∈ calls, c.isMove = true) (h : ∃ m, Shows config p q s m) :
    ∃ m, Shows config p q (s.after calls) m := by
  refine Run.after_invariant (fun s => ∃ m, Shows config p q s m) (fun c => c.isMove = true)
    (fun s c hmove h => ?_) hcalls h
  obtain ⟨m, h⟩ := h
  cases c with
  | act player action => exact ⟨m, shows_handleAction h player action⟩
  | tick seconds =>
      by_cases hphase : m.phase = .finished
      · refine ⟨m, ?_⟩
        show Shows config p q (s.tick seconds).2 m
        rw [tick_of_finished h hphase]
        exact h
      · exact ⟨_, (shows_tick hconfig h hphase seconds).1⟩
  | _ => cases hmove

end Duels

end Play.Session

end Arcade
