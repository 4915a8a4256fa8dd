import Arcade.Proofs.Clicker.FairPlay
/-!
# Clicks that add up to too much

A reward may be any finite number above zero, and the points of a click are held at the largest word. The
sum of a score and such points is not: where it is no word, a build that checks its sums stops. As long as a
game goes on no score has reached the target, so a click whose points leave room for the target and the bonus
is added exactly, and the program stops at a click exactly if the score with all that the click gains is too
large (`clicks_stop_iff_too_large`). Nothing else that is called on a game under way stops it, as long as the
turns can be counted.
-/

namespace Arcade

open Play Mechanics Checked

namespace Clicker

/-- Where a game is not decided, no score has reached the target. -/
theorem score_lt_of_undecided {c : Clicker} {state : GameState} (hpositive : 0 < c.target)
    (h : c.isOver state = false) (player : PlayerId) : score state.data player < c.target := by
  rw [isOver, List.any_eq_false] at h
  rw [score]
  cases hstored : Dict.get? (scoreTable state.data) player with
  | none => exact hpositive
  | some j =>
      have hentry : j ∈ Dict.values (scoreTable state.data) :=
        List.mem_map_of_mem (Dict.mem_of_get? hstored)
      have hbelow := h j hentry
      simpa using hbelow

end Clicker

namespace Play.Session

open Clicker

variable {s s₀ s₁ : Session Clicker BuiltIn} {players : List PlayerId} {calls : List Call}
  {player : PlayerId} {action : Action} {points : Int64}

/-- What the points of a processed click are, and what a build that checks its sums makes of them, in a game
with a target. -/
structure Adds (s : Session Clicker BuiltIn) (player : PlayerId) (action : Action) (points : Int64)
    (target : Int) : Prop where
  /-- the points are the clicks times the factor, rounded and held at the largest word -/
  scaled : ∃ count multiplier, 1 ≤ count ∧ count ≤ maxClicks ∧
    s.multiplier? player action = some multiplier ∧
    points.toInt = Real.round Words.minInt64 Words.maxInt64 (Float.ofInt count * multiplier)
  nonneg : 0 ≤ points.toInt
  below : score s.data player < target
  /-- the program stops where the score and the gain are too large together -/
  stops_iff : s.handleAction? player action = none ↔
    Words.maxInt64 < score s.data player + gain s.data player points.toInt ∨
      UInt64.size ≤ s.turn.toNat + 1
  /-- where it goes on, the new score is the exact sum, and no less than the score before -/
  exact : ∀ result s', s.handleAction? player action = some (result, s') →
    score s'.data player = score s.data player + gain s.data player points.toInt ∧
      score s.data player ≤ score s'.data player
  /-- points that leave room for the target and the bonus are not too large -/
  spared : points.toInt + target + luckyBonus.toInt ≤ Words.maxInt64 + 1 →
    score s.data player + gain s.data player points.toInt ≤ Words.maxInt64

/-- The score after a processed click is that which the click makes. -/
theorem score_of_clickPoints? (h : s.Seated players)
    (hpoints : s.clickPoints? player action = some points) :
    score (s.handleAction player action).2.data player = score (click s.data player points).1 player := by
  obtain ⟨forwarded, -, -, hprocessed, hclick, -⟩ := clickPoints?_cases hpoints
  cases played_act h.queue player action with
  | idle hmover _ _ _ =>
      rw [mover?_of_processed? hprocessed] at hmover
      cases hmover
  | passed hcall _ _ hpassed hpass _ _ _ =>
      cases hcall
      obtain rfl := Option.some.inj (hprocessed.symm.trans hpassed)
      rw [hclick] at hpass
      exact absurd hpass (by decide)
  | clicked hcall _ _ _ _ hmade _ hsame _ _ =>
      cases hcall
      obtain rfl := Option.some.inj (hpoints.symm.trans hmade)
      rw [hsame.score]

/-- The program stops at clicks whose sums do not fit, and where the turns cannot be counted. -/
theorem handleAction?_of_clicks : s.handleAction? player action = none ↔
    (∃ points, s.clickPoints? player action = some points ∧ ¬ Clicker.AddsUp s.data player points) ∨
      (∃ forwarded, s.processed? player action = some forwarded) ∧ UInt64.size ≤ s.turn.toNat + 1 := by
  rw [handleAction?_eq_none_iff addsAccepted]
  constructor
  · intro hstops
    obtain ⟨state, forwarded, multiplier, hstate, hprocessed, hmultiplier, hlarge⟩ := hstops
    rcases hlarge with hlarge | hturns
    · have hstops : applied? state player forwarded multiplier = none := by
        simpa [GameRules.actFits] using hlarge
      obtain ⟨-, hclick, count, hcount, hlarge⟩ := applied?_eq_none_iff.mp hstops
      refine Or.inl ⟨Clicker.points count multiplier, ?_, by rwa [data_of_holds hstate]⟩
      simp [clickPoints?, hprocessed, hmultiplier, hclick, hcount, Except.toOption]
    · exact Or.inr ⟨⟨forwarded, hprocessed⟩, by rwa [turn_of_holds hstate]⟩
  · intro hlarge
    rcases hlarge with ⟨points, hpoints, hlarge⟩ | ⟨⟨forwarded, hprocessed⟩, hturns⟩
    · obtain ⟨forwarded, multiplier, count, hprocessed, hclick, hcount, hmultiplier, rfl⟩ :=
        clickPoints?_cases hpoints
      obtain ⟨state, multiplier', replacement, rules, stage, hstate, hmultiplier', hact⟩ :=
        act_of_processed? hprocessed
      obtain rfl := Option.some.inj (hmultiplier.symm.trans hmultiplier')
      obtain ⟨data, events, happly, -⟩ := Clicker.apply_of_act hact
      obtain ⟨hturn, -⟩ := Clicker.apply_cases happly
      rw [data_of_holds hstate] at hlarge
      have hstops : applied? state player forwarded multiplier = none :=
        applied?_eq_none_iff.mpr ⟨hturn, hclick, count, hcount, hlarge⟩
      exact ⟨state, forwarded, multiplier, hstate, hprocessed, hmultiplier,
        Or.inl (by simp [GameRules.actFits, hstops])⟩
    · obtain ⟨state, multiplier, -, -, -, hstate, hmultiplier, -⟩ := act_of_processed? hprocessed
      rw [turn_of_holds hstate] at hturns
      exact ⟨state, forwarded, multiplier, hstate, hprocessed, hmultiplier, Or.inr hturns⟩

/-- What is true of every processed click of a game that has not reached its target. -/
theorem adds_of_clicked (h : s.Seated players) {target : Int} (hbelow : score s.data player < target)
    (hpoints : s.clickPoints? player action = some points) : s.Adds player action points target := by
  have hnonneg := clickPoints?_nonneg h.rewarding hpoints
  have hlater := score_of_clickPoints? h hpoints
  obtain ⟨hgain, hgain'⟩ := gain_bounds s.data player points.toInt
  obtain ⟨forwarded, multiplier, count, hprocessed, -, hcount, hmultiplier, hscaled⟩ :=
    clickPoints?_cases hpoints
  obtain ⟨hlow, hhigh⟩ := clickCount_bounds hcount
  have hfits : Fits64 (Real.round Words.minInt64 Words.maxInt64 (Float.ofInt count * multiplier)) :=
    ⟨Real.le_clampInt, Real.clampInt_le (by decide)⟩
  have hstops : s.handleAction? player action = none ↔
      ¬ Clicker.AddsUp s.data player points ∨ UInt64.size ≤ s.turn.toNat + 1 := by
    simp [handleAction?_of_clicks, hpoints, hprocessed]
  refine ⟨⟨count, multiplier, hlow, hhigh, hmultiplier, ?_⟩, hnonneg, hbelow, ?_, ?_, ?_⟩
  · rw [hscaled, Clicker.points, Real.roundToInt64, toInt_ofInt_of_fits64 hfits]
  · rw [hstops, addsUp_iff hnonneg, Int.not_le]
  · intro result s' hgoes
    have hadds : Clicker.AddsUp s.data player points := by
      refine Classical.not_not.mp fun hlarge => ?_
      rw [hstops.mpr (Or.inl hlarge)] at hgoes
      cases hgoes
    obtain ⟨-, hnext⟩ := handleAction?_eq_some_iff.mp hgoes
    have hscore : score s'.data player = score s.data player + gain s.data player points.toInt := by
      rw [← score_of_clicked (clicked_of_addsUp hadds), ← hlater, hnext]
    exact ⟨hscore, by omega⟩
  · omega

/-- A game is played by the rules that its session was created with. -/
theorem rules_after_start {seed : Option UInt64} {events : List Event}
    (hstart : s₀.start players seed = (.ok events, s)) (calls : List Call) :
    (s.after calls).rules = s₀.rules := by
  have hstep : ∀ (t : Session Clicker BuiltIn) (c : Call), True → t.rules = s₀.rules →
      (t.perform c).2.rules = s₀.rules :=
    fun _ c _ ht => rules_perform (Clicker.keptByRules (· = s₀.rules)) ht c
  have hfirst := hstep s₀ (.start players seed) trivial rfl
  simp only [perform, hstart] at hfirst
  exact Run.after_invariant _ _ hstep (fun _ _ => trivial) hfirst

/-- An action is processed only while the game goes on, so no score has reached the target then. -/
theorem score_lt_target (htarget : 2 ≤ s₀.rules.target) {seed : Option UInt64} {events : List Event}
    (hstart : s₀.start players seed = (.ok events, s)) (hcalls : ∀ c ∈ calls, c.isMove = true)
    {forwarded : Action} (hprocessed : (s.after calls).processed? player action = some forwarded) :
    score (s.after calls).data player < s₀.rules.target := by
  obtain ⟨⟨state₀, hunderway₀, -⟩, -⟩ :=
    underway_of_start orderly_clicker (Clicker.opensUndecided htarget players) hstart
  have hplay : ∀ c ∈ calls, c.isPlay = true := fun c hc => Call.isPlay_of_isMove (hcalls c hc)
  obtain ⟨state, hunderway⟩ := underway_after orderly_clicker discreet hunderway₀ hplay
  have hkept := rules_after_start hstart calls
  have hundecided : Clicker.isOver s₀.rules state = false := by
    rw [← Bool.not_eq_true]
    intro hover
    obtain ⟨refusal, hrefusal⟩ := refusal?_of_settled hunderway.holds
      (.inl (hunderway.decided (hkept ▸ hover))) player
    rw [processed?_of_refused hrefusal] at hprocessed
    cases hprocessed
  rw [data_of_holds hunderway.holds]
  exact score_lt_of_undecided (by omega) hundecided player

/-- **Clicks stop the program exactly if they are too many.** Take any game of clicker that a host creates with
its built-in injectors, and play it from its start by any run of actions and frames that a build which checks
its sums comes through. Whatever clicks are processed then, their points are the number of clicks times the
factor, rounded and held at the largest word; they are not negative, and the score has not reached the target.
The program stops at them exactly if the score with all that they gain is too large for a word, or the turns
cannot be counted; where it goes on, the new score is that sum, and no less than the score before. Points that
leave room for the target and the bonus are not too large. Other actions do not stop it as long as the turns
can be counted, and frames never do. -/
theorem clicks_stop_iff_too_large {id : String} {config : GameConfig} {fresh : Session Clicker BuiltIn}
    (hcreate : Host.create BuiltIn.catalog id config = .ok (.clicker fresh))
    {seed : Option UInt64} {events : List Event}
    (hstart : fresh.start players seed = (.ok events, s₁)) (hcalls : ∀ c ∈ calls, c.isMove = true)
    (hruns : s₁.after? calls = some s) (player : PlayerId) :
    (∀ action points, s.clickPoints? player action = some points →
        s.Adds player action points fresh.rules.target) ∧
      (∀ action, s.clickPoints? player action = none → s.turn.toNat + 1 < UInt64.size →
        s.handleAction? player action = some (s.handleAction player action)) ∧
      ∀ seconds, s.tick? seconds = some (s.tick seconds) := by
  obtain rfl := after_of_after? hruns
  obtain ⟨htarget, hopens⟩ := opens_of_create hcreate hstart
  refine ⟨fun action points hpoints => ?_, fun action hnone hturns => ?_, fun seconds => ?_⟩
  · obtain ⟨forwarded, -, -, hprocessed, -⟩ := clickPoints?_cases hpoints
    exact adds_of_clicked (seated_after hopens.toSeated hcalls)
      (score_lt_target htarget hstart hcalls hprocessed) hpoints
  · have hgoes : (s₁.after calls).handleAction? player action ≠ none := by
      rw [ne_eq, handleAction?_of_clicks]
      simp [hnone, hturns]
    obtain ⟨r, hr⟩ := Option.ne_none_iff_exists'.mp hgoes
    rw [hr, (handleAction?_eq_some_iff.mp hr).2]
  · refine tick?_eq_some_iff.mpr ⟨?_, rfl⟩
    unfold frameFits
    split
    · exact Bool.or_true _
    · rfl

/-- The first click of a game, with a large reward, stops the program. -/
theorem clicks_stop_iff_too_large_of_reward :
    let config : GameConfig :=
      { gameType := "clicker"
        injectors := [⟨"challenge",
          .obj [("every", .nat 1), ("max_operand", .nat 1), ("reward", .num (.real 1e19))]⟩] }
    let fresh : Session Clicker BuiltIn :=
      .create "g" (Clicker.ofTarget 50) config
        [.challenge { options := { every := 1, reward := 1e19, maxOperand := 1 } }]
    let answer : Action := { kind := "answer_challenge", payload := [("answer", .int 2)] }
    ∃ s, (fresh.start ["p1"] (some 7)).2.after? [.act "p1" { kind := "click" }] = some s ∧
      s.handleAction? "p1" answer = none ∧ ∀ seconds, s.tick? seconds = some (s.tick seconds) := by
  intro config fresh answer
  have hcreate : Host.create BuiltIn.catalog "g" config = .ok (.clicker fresh) := rfl
  have hstart : fresh.start ["p1"] (some 7)
      = (.ok [Event.started ["p1"]], (fresh.start ["p1"] (some 7)).2) := rfl
  have hcalls : ∀ c ∈ [Call.act "p1" { kind := "click" }], c.isMove = true := by simp [Call.isMove]
  have hgoes : ((fresh.start ["p1"] (some 7)).2.after? [.act "p1" { kind := "click" }]).isSome = true := by
    decide +kernel
  obtain ⟨s, hruns⟩ := Option.isSome_iff_exists.mp hgoes
  obtain ⟨hclicks, -, hframes⟩ := clicks_stop_iff_too_large hcreate hstart hcalls hruns "p1"
  obtain rfl := after_of_after? hruns
  have hpoints : ((fresh.start ["p1"] (some 7)).2.after [.act "p1" { kind := "click" }]).clickPoints? "p1"
      answer = some 9223372036854775807 := by decide +kernel
  exact ⟨_, hruns, (hclicks answer _ hpoints).stops_iff.mpr (Or.inl (by decide +kernel)), hframes⟩

end Play.Session

end Arcade
