import Arcade.Proofs.Host.Runs
import Arcade.Proofs.Live.StoredFrame
import Arcade.Proofs.Mechanics.Hooks
/-!
# The course of the games of a host

Both games are `Orderly` and begin undecided, clicker because its target is at least two
(`two_le_target`), a duel because its first frame is read back as it was stored and shows a countdown.
So the theory of `Play.Lifecycle` applies to whatever is played after a start:
`game_takes_its_course`.
-/

namespace Arcade

open Play Live Mechanics

/-! ### The rules of the games -/

theorem Clicker.quiet_click (data : Data) (player : PlayerId) (points : Int64) :
    Quiet (Clicker.click data player points).2 := by
  unfold Clicker.click
  dsimp only
  split
  · simp [Quiet, Event.tellsEnd, Clicker.bonusEvent, Clicker.clickEvent]
  · simp [Quiet, Event.tellsEnd, Clicker.clickEvent]

/-- A click touches the scores and the claims. -/
theorem Clicker.get?_click (data : Data) (player : PlayerId) (points : Int64) {key : String}
    (hscores : key ≠ "scores") (hclaims : key ≠ "luckyClaimed") :
    Dict.get? (click data player points).1 key = Dict.get? data key := by
  have hclaim : Dict.get? (claim data player) key = Dict.get? data key := by
    unfold claim
    split
    · exact Dict.get?_insert_of_ne _ _ hclaims.symm
    · rfl
  unfold click setScore
  dsimp only
  split
  · exact (Dict.get?_insert_of_ne _ _ hscores.symm).trans hclaim
  · exact Dict.get?_insert_of_ne _ _ hscores.symm

/-- The rules apply exactly the actions that they allow. -/
theorem Clicker.map_apply (state : GameState) (player : PlayerId) (action : Action) (multiplier : Float) :
    (apply state player action multiplier).map (fun _ => ()) = check state player action := by
  unfold apply check
  cases checkTurn state player with
  | error fault => rfl
  | ok _ =>
      simp only [bind, Except.bind]
      split
      · rfl
      · split
        · cases clickCount action <;> rfl
        · rfl

/-- An allowed action is a pass, which leaves the data alone, or some clicks. -/
theorem Clicker.apply_cases {state : GameState} {player : PlayerId} {action : Action}
    {multiplier : Float} {data : Data} {events : List Event}
    (h : apply state player action multiplier = .ok (data, events)) :
    checkTurn state player = .ok () ∧
      ((action.kind = "pass" ∧ data = state.data ∧ events = [⟨"passed", some player, .obj []⟩]) ∨
        (action.kind = "click" ∧ ∃ count, clickCount action = .ok count ∧
          click state.data player (points count multiplier) = (data, events))) := by
  unfold apply at h
  cases hturn : checkTurn state player with
  | error fault =>
      rw [hturn] at h
      cases h
  | ok _ =>
      rw [hturn] at h
      simp only [bind, Except.bind] at h
      refine ⟨rfl, ?_⟩
      split at h
      next hpass =>
        cases h
        exact Or.inl ⟨hpass, rfl, rfl⟩
      · split at h
        next hclick =>
          cases hcount : clickCount action with
          | error fault =>
              rw [hcount] at h
              cases h
          | ok count =>
              rw [hcount] at h
              exact Or.inr ⟨hclick, count, rfl, Except.ok.inj h⟩
        · cases h

/-- What a session sees accepted was applied. -/
theorem Clicker.apply_of_act {rules rules' : Clicker} {state : GameState} {player : PlayerId}
    {action : Action} {multiplier : Float} {stage stage' : Stage} {replacement : Option Data}
    (h : GameRules.act rules state player action multiplier stage
      = ⟨.ok replacement, rules', stage'⟩) :
    ∃ data events, apply state player action multiplier = .ok (data, events) ∧
      replacement = some data := by
  simp only [GameRules.act] at h
  cases happly : apply state player action multiplier with
  | error fault =>
      rw [happly] at h
      cases h
  | ok applied =>
      obtain ⟨data, events⟩ := applied
      rw [happly] at h
      exact ⟨data, events, rfl, (Except.ok.inj (congrArg Ran.answer h)).symm⟩

theorem Clicker.quiet_apply {state : GameState} {player : PlayerId} {action : Action}
    {multiplier : Float} {data : Data} {events : List Event}
    (h : Clicker.apply state player action multiplier = .ok (data, events)) : Quiet events := by
  obtain ⟨-, ⟨-, -, rfl⟩ | ⟨-, count, -, hclick⟩⟩ := apply_cases h
  · simp [Quiet, Event.tellsEnd]
  · obtain rfl := congrArg Prod.snd hclick
    exact quiet_click state.data player _

theorem Clicker.events_drawLucky (c : Clicker) (players : List PlayerId) (stage : Stage) :
    (c.drawLucky players stage).2.events = stage.events := by
  induction players generalizing stage with
  | nil => rfl
  | cons p rest ih => exact ih (stage.drawBetween 1 c.luckyLimit).2

theorem orderly_clicker : Orderly Clicker where
  prepare c players stage hquiet := by
    show Quiet (c.drawLucky players stage).2.events.pending
    rw [Clicker.events_drawLucky]
    exact hquiet
  act c state player action multiplier stage hquiet := by
    simp only [GameRules.act]
    cases happly : Clicker.apply state player action multiplier with
    | error fault => exact ⟨.refl c, hquiet⟩
    | ok applied =>
        obtain ⟨data, events⟩ := applied
        exact ⟨.refl c, quiet_append.mpr ⟨hquiet, Clicker.quiet_apply happly⟩⟩
  tick c _ _ _ hquiet := ⟨.refl c, hquiet⟩
  release c := .refl c

section Adapters

variable {β : Type} [Engine β]

/-- The verdict on a real-time game is read off the frame in the state alone. -/
theorem sameVerdict_adapter (a a' : Adapter β) : SameVerdict a a' :=
  ⟨fun _ => rfl, fun _ => rfl, fun _ => rfl⟩

theorem quiet_phaseEvent (before : MatchPhase) (frame : Frame) : Quiet [phaseEvent before frame] := by
  simp [Quiet, Event.tellsEnd, phaseEvent]

theorem orderly_adapter : Orderly (Adapter β) where
  prepare a players stage hquiet := by
    have hdraw : Quiet stage.draw.2.events.pending := hquiet
    simp only [GameRules.prepare, Adapter.prepare]
    rcases Adapter.startEngine a.slot players stage.draw.1 with ⟨answer, slot⟩
    cases answer with
    | error failure => exact hdraw
    | ok _ =>
        dsimp only
        split <;> exact hdraw
  act a state player action multiplier stage hquiet := by
    refine ⟨sameVerdict_adapter _ _, ?_⟩
    simp only [GameRules.act, Adapter.act]
    split
    · exact hquiet
    · cases Buttons.ofAction action <;> exact hquiet
  tick a state seconds stage hquiet := by
    refine ⟨sameVerdict_adapter _ _, ?_⟩
    simp only [GameRules.tick, Adapter.tick]
    rcases a.advance with ⟨answer, a'⟩
    cases answer with
    | error failure => exact hquiet
    | ok frame =>
        have hphase : ∀ before : MatchPhase, Quiet (if before = frame.info.phase then stage
            else { stage with events := stage.events.push (phaseEvent before frame) }
            ).events.pending := by
          intro before
          split
          · exact hquiet
          · exact quiet_append.mpr ⟨hquiet, quiet_phaseEvent before frame⟩
        exact hphase _
  release a := sameVerdict_adapter _ _

end Adapters

/-! ### The opening of clicker -/

theorem Clicker.two_le_target_of_ofConfig {options : GameConfig} {c : Clicker}
    (h : Clicker.ofConfig options = .ok c) : 2 ≤ c.target := by
  have htarget : ∀ n : Nat, 2 ≤ n → 2 ≤ (ofTarget n).target := by
    intro n hn
    simp only [ofTarget, Words.maxInt64]
    omega
  unfold ofConfig at h
  split at h
  · obtain rfl := Except.ok.inj h
    exact htarget standardTarget (by decide)
  · split at h
    · split at h
      next n _ hn =>
        obtain rfl := Except.ok.inj h
        exact htarget n hn
      · cases h
    · cases h

/-- No call changes the rules of clicker. -/
theorem Clicker.keptByRules (P : Clicker → Prop) : Session.KeptByRules P where
  prepare h hP := by
    cases h
    exact hP
  resume h hP := by
    cases h
    exact hP
  act {rules state player action multiplier stage answer rules' stage'} h hP := by
    have hrules : (GameRules.act rules state player action multiplier stage).rules = rules := by
      simp only [GameRules.act]
      cases Clicker.apply state player action multiplier <;> rfl
    rw [h] at hrules
    obtain rfl : rules' = rules := hrules
    exact hP
  tick h hP := by
    cases h
    exact hP
  release h hP := by
    cases h
    exact hP

theorem two_le_target {s : Session Clicker BuiltIn} (h : HostedGame.Reached (.clicker s)) :
    2 ≤ s.rules.target :=
  HostedGame.Reached.clicker_invariant (fun s => 2 ≤ s.rules.target)
    (fun hrules _ _ _ => Clicker.two_le_target_of_ofConfig hrules)
    (fun _ c hs => Session.rules_perform (Clicker.keptByRules (2 ≤ ·.target)) hs c) h

/-- The data of a fresh game, under any name that neither the host nor an injector uses. -/
theorem get?_openingData {γ : Type} [GameRules γ] {s : Session γ BuiltIn} {players : List PlayerId}
    (data : Data) {fragment : Data} {injectors : List BuiltIn}
    (h : Pipeline.prepare players s.injectors = (fragment, injectors)) {key : String}
    (hconfig : key ≠ configKey) (henergy : key ≠ Energy.key) :
    Dict.get? (s.openingData data fragment) key = Dict.get? data key := by
  have hfragment : ∀ e ∈ fragment, e.1 ≠ key := by
    intro e he
    have hmem : e ∈ (Pipeline.prepare players s.injectors).1 := by
      rw [h]
      exact he
    rw [key_of_mem_prepare hmem]
    exact henergy.symm
  rw [Session.openingData, Dict.get?_insert_of_ne _ _ hconfig.symm,
    Dict.get?_insertAll_of_forall_ne data hfragment]

theorem Clicker.get?_scores_freshData (c : Clicker) (players : List PlayerId)
    (lucky : List (String × Json)) : Dict.get? (c.freshData players lucky) "scores"
      = some (.obj (Dict.ofList (players.map fun p => (p, .int 0)))) := by
  show Dict.get? (Dict.insertAll (Dict.insert [] "scores" _) _) "scores" = _
  rw [Dict.get?_insertAll_of_forall_ne _ (by simp), Dict.get?_insert_self]

theorem Clicker.opensUndecided {s : Session Clicker BuiltIn} (htarget : 2 ≤ s.rules.target)
    (players : List PlayerId) : s.OpensUndecided players := by
  intro stage stage' data fragment rules injectors hprepare hinjectors
  obtain rfl : s.rules.freshData players (s.rules.drawLucky players stage).1 = data :=
    Except.ok.inj (congrArg Ran.answer hprepare)
  obtain rfl : s.rules = rules := congrArg Ran.rules hprepare
  have hscores := get?_openingData
    (s.rules.freshData players (s.rules.drawLucky players stage).1) hinjectors
    (show "scores" ≠ configKey by decide) (show "scores" ≠ Energy.key by decide)
  rw [Clicker.get?_scores_freshData] at hscores
  show Clicker.isOver s.rules _ = false
  rw [isOver, GameState.playing, scoreTable, hscores, List.any_eq_false]
  intro score hscore
  -- every player begins at zero, and no target is that low
  obtain ⟨entry, hentry, rfl⟩ := List.mem_map.mp hscore
  obtain ⟨p, -, rfl⟩ := List.mem_map.mp (Dict.mem_ofList hentry)
  have hzero : (Json.int 0).asInt64?.getD 0 = 0 := rfl
  simp only [hzero, decide_eq_true_eq]
  omega

/-! ### The opening of a duel -/

theorem Duel.frameOf_begin (config : Duel.Config) (left right : String) (seed : UInt64) :
    (Duel.DuelEngine.frameOf (Duel.Match.begin config left right seed)).info.phase = .waiting ∧
      Dict.Sorted
        (Duel.DuelEngine.frameOf (Duel.Match.begin config left right seed)).info.roundWins :=
  ⟨rfl, Dict.sorted_ofList _⟩

/-- The first frame of a duel shows a countdown. -/
theorem Duel.prepare_eq_storeFrame {a a' : Duel.Game} {players : List PlayerId}
    {stage stage' : Stage} {data : Data} (h : a.prepare players stage = ⟨.ok data, a', stage'⟩) :
    ∃ frame : Frame, data = storeFrame [] frame [] ∧ frame.info.phase = .waiting ∧
      Dict.Sorted frame.info.roundWins := by
  unfold Adapter.prepare at h
  obtain ⟨descriptor, slot, _, _, _⟩ := a
  cases slot with
  | disposed => cases h
  | detached =>
      obtain rfl := Except.ok.inj (congrArg Ran.answer h)
      exact ⟨_, rfl, rfl, Dict.sorted_ofList _⟩
  | attached engine =>
      rcases players with _ | ⟨left, _ | ⟨right, _ | ⟨third, rest⟩⟩⟩
      · cases h
      · cases h
      · obtain rfl := Except.ok.inj (congrArg Ran.answer h)
        obtain ⟨hphase, hwins⟩ := Duel.frameOf_begin engine.config left right stage.draw.1
        exact ⟨_, rfl, hphase, hwins⟩
      · cases h

theorem Duel.opensUndecided (s : Session Duel.Game BuiltIn) (players : List PlayerId) :
    s.OpensUndecided players := by
  intro stage stage' data fragment rules injectors hprepare hinjectors
  obtain ⟨frame, rfl, hphase, hwins⟩ := Duel.prepare_eq_storeFrame hprepare
  have hframe := get?_openingData (storeFrame [] frame []) hinjectors
    (show frameKey ≠ configKey by decide) (show frameKey ≠ Energy.key by decide)
  rw [get?_storeFrame] at hframe
  have hstored : storedFrame? (.playing (s.openingData (storeFrame [] frame []) fragment))
      = some frame := storedFrame?_of_get? hframe hwins
  show (storedFrame? _).any _ = false
  rw [hstored, Option.any_some, hphase]
  rfl

/-! ### Whole runs -/

namespace HostedGame

variable {g₀ g : HostedGame BuiltIn}

/-- How a call goes in a game under way, and what is true of it ever after. -/
def GoesOn (g : HostedGame BuiltIn) (c : Call) (later : List Call) : Prop :=
  g.ask fun s => s.GoesOn c later

def phase (g : HostedGame BuiltIn) : Phase :=
  g.ask fun s => s.phase

def turn (g : HostedGame BuiltIn) : UInt64 :=
  g.ask fun s => s.turn

/-- **A game takes its course.** Once it was started, and as long as it is neither reset nor restored,
every call goes on from the calls before it as `Session.GoesOn` says. There are no more turns than calls, so
their count, a word, does not wrap around as long as it can count the calls; and the end of the game is told
at most once. -/
theorem game_takes_its_course (hreached : g₀.Reached) {players : List PlayerId}
    {seed : Option UInt64} {events : List Event}
    (hstart : g₀.perform (.start players seed) = (.started (.ok events), g))
    {before later : List Call} {c : Call} (hbefore : ∀ c ∈ before, c.isPlay = true)
    (hc : c.isPlay = true) (hlater : ∀ c ∈ later, c.isPlay = true) :
    (g.after before).GoesOn c later ∧ (g.after before).turn.toNat ≤ before.length ∧
      (events ++ (g.answers (before ++ c :: later)).flatMap Answer.events).countP Event.tellsEnd
        ≤ 1 := by
  have hall : ∀ d ∈ before ++ c :: later, d.isPlay = true := by
    intro d hd
    rcases List.mem_append.mp hd with hd | hd
    · exact hbefore d hd
    · rcases List.mem_cons.mp hd with rfl | hd
      · exact hc
      · exact hlater d hd
  cases g₀ with
  | clicker s₀ =>
      rw [perform_clicker, Prod.mk.injEq] at hstart
      obtain ⟨hanswer, rfl⟩ := hstart
      rw [after_clicker, answers_clicker]
      exact Session.takes_course orderly_clicker discreet
        (Clicker.opensUndecided (two_le_target hreached) players)
        (Prod.ext (Answer.started.inj hanswer) rfl) hall
  | duel s₀ =>
      rw [perform_duel, Prod.mk.injEq] at hstart
      obtain ⟨hanswer, rfl⟩ := hstart
      rw [after_duel, answers_duel]
      exact Session.takes_course orderly_adapter discreet (Duel.opensUndecided s₀ players)
        (Prod.ext (Answer.started.inj hanswer) rfl) hall

/-- Clicker between two players: a pass of either, two clicks that reach the target, and what is called after
the end. -/
theorem game_takes_its_course_of_clicker :
    let fresh : HostedGame BuiltIn := .clicker (.create "g" (Clicker.ofTarget 2) {} [.energy {}])
    let g := (fresh.perform (.start ["a", "b"] (some 7))).2
    let pass (player : PlayerId) : Call := .act player { kind := "pass" }
    let twice : Call := .act "a" { kind := "click", payload := [("count", .int 2)] }
    let before := [pass "a", pass "b"]
    let later := [pass "b", .tick 0.1, .dispose]
    (g.after before).GoesOn twice later ∧ (g.after before).turn.toNat ≤ 2 ∧
      ((g.after before).perform twice).2.phase = .ended ∧
      ((g.after before).perform twice).1.events.any Event.tellsEnd = true ∧
      ([Event.started ["a", "b"]] ++
        (g.answers (before ++ twice :: later)).flatMap Answer.events).countP Event.tellsEnd ≤ 1 := by
  intro fresh g pass twice before later
  have hrules : Clicker.ofConfig { options := .obj [("target", .nat 2)] } = .ok (Clicker.ofTarget 2) := rfl
  have hfresh : fresh.Reached := .clicker hrules _ _ _
  have hstart : fresh.perform (.start ["a", "b"] (some 7))
      = (.started (.ok [Event.started ["a", "b"]]), g) := rfl
  have hbefore : ∀ c ∈ before, c.isPlay = true := by simp [before, pass, Call.isPlay]
  have hlater : ∀ c ∈ later, c.isPlay = true := by simp [later, pass, Call.isPlay]
  have htold : ((g.after before).perform twice).1.events.any Event.tellsEnd = true := by decide +kernel
  have hended : ((g.after before).perform twice).2.phase = .ended := by decide +kernel
  have hplay : twice.isPlay = true := rfl
  obtain ⟨hgoes, hturns, hcount⟩ := game_takes_its_course hfresh hstart hbefore hplay hlater
  exact ⟨hgoes, hturns, hended, htold, hcount⟩

end HostedGame

end Arcade
