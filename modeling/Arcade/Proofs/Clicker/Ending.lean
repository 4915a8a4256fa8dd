import Arcade.Proofs.Clicker.Overflow
/-!
# How a game of clicker ends

Whether a game is decided is asked of the table of scores, after the injectors have had their hooks; who
has won is asked of the seats, one after the other, and a tie would go to the earlier one. No tie comes
to pass: as long as a game goes on all scores are below the target, and an action raises one of them at
most (`wonBy_of_isOver`). So the player of the action that ends a game is the only one who has reached the
target, and the scan of the seats finds him (`leader_eq_some`), as it found nobody before
(`leader_eq_none`). Once decided, a game does not move any more (`still_of_ended`).

None of this asks that sums fit 64 bits.
-/

namespace Arcade

open Play Mechanics

namespace Clicker

variable {c : Clicker} {data : Data} {player p : PlayerId} {points : Int64} {seats : List PlayerId}

/-! ### The scan of the seats -/

/-- Who is ahead stays ahead of seats that have not reached the target, or are his own. -/
theorem leader_of_ahead {best : Option (PlayerId × Int)}
    (h : ∀ q ∈ seats, c.target ≤ score data q → ∃ b ∈ best, score data q ≤ b.2) :
    c.leader data seats best = best.map Prod.fst := by
  induction seats with
  | nil => rfl
  | cons q rest ih =>
      obtain ⟨hq, hrest⟩ := List.forall_mem_cons.mp h
      have hpassed : (decide (c.target ≤ score data q) && best.all fun b => b.2 < score data q) = false := by
        rw [Bool.and_eq_false_iff]
        by_cases htarget : c.target ≤ score data q
        · obtain ⟨b, rfl, hb⟩ := hq htarget
          exact .inr (by simp [hb])
        · exact .inl (by simp [htarget])
      rw [leader]
      simp only [hpassed, Bool.false_eq_true, if_false]
      exact ih hrest

theorem leader_eq_none (h : ∀ q ∈ seats, score data q < c.target) : c.leader data seats none = none := by
  refine leader_of_ahead fun q hq htarget => ?_
  have hbelow := h q hq
  omega

/-- The only player who has reached the target is found. -/
theorem leader_eq_some (hp : p ∈ seats) (hreached : c.target ≤ score data p)
    (hothers : ∀ q, q ≠ p → score data q < c.target) : c.leader data seats none = some p := by
  induction seats with
  | nil => cases hp
  | cons q rest ih =>
      by_cases hq : q = p
      · subst hq
        rw [leader]
        simp only [hreached, Option.all_none, decide_true, Bool.and_true, if_true]
        refine leader_of_ahead fun other _ htarget => ⟨_, rfl, ?_⟩
        by_cases hother : other = q
        · exact Int.le_of_eq (by rw [hother])
        · have hbelow := hothers other hother
          omega
      · have hbelow := hothers q hq
        have hpassed : ¬ c.target ≤ score data q := by omega
        rw [leader]
        simp only [hpassed, decide_false, Bool.false_and, Bool.false_eq_true, if_false]
        exact ih ((List.mem_cons.mp hp).resolve_left (Ne.symm hq))

/-! ### The table of scores -/

theorem isOver_congr {state state' : GameState}
    (h : Dict.get? state'.data "scores" = Dict.get? state.data "scores") :
    c.isOver state' = c.isOver state := by
  rw [isOver, scoreTable, h, ← scoreTable, ← isOver]

/-- A click writes one entry of the table of scores, that of its player. -/
theorem scoreTable_click (data : Data) (player : PlayerId) (points : Int64) :
    ∃ total : Int64, score (click data player points).1 player = total.toInt ∧
      scoreTable (click data player points).1
        = Dict.insert (scoreTable data) player (.int total.toInt) := by
  have hset : ∀ (d : Data) (total : Int64), scoreTable (setScore d player total)
      = Dict.insert (scoreTable d) player (.int total.toInt) := by
    intro d total
    rw [scoreTable, setScore, Dict.get?_insert_self]
    rfl
  rcases click_cases data player points with ⟨-, hclick⟩ | ⟨n, -, hclick⟩
  · exact ⟨_, by rw [hclick, score_setScore], by rw [hclick, hset]⟩
  · refine ⟨_, by rw [hclick, score_setScore], ?_⟩
    rw [hclick, hset, scoreTable, get?_claim _ _ (by decide), ← scoreTable]

/-- If a click decides a game, its player has reached the target. -/
theorem target_le_score_of_click {state state' : GameState} (hopen : c.isOver state = false)
    (hover : c.isOver state' = true) (hsame : SameGame (click state.data player points).1 state'.data) :
    c.target ≤ score state'.data player := by
  obtain ⟨total, hscore, htable⟩ := scoreTable_click state.data player points
  rw [isOver, List.any_eq_false] at hopen
  rw [isOver, scoreTable, hsame "scores" (by decide) (by decide), ← scoreTable, htable,
    List.any_eq_true] at hover
  obtain ⟨j, hj, htarget⟩ := hover
  obtain ⟨entry, hentry, rfl⟩ := List.mem_map.mp hj
  rcases Dict.mem_insert hentry with rfl | hold
  · rw [hsame.score, hscore]
    simpa [asInt64?_int] using htarget
  · exact absurd htarget (hopen entry.2 (List.mem_map_of_mem hold))

end Clicker

namespace Play.Session

open Clicker

variable {s s₀ : Session Clicker BuiltIn} {state : GameState} {players : List PlayerId}
  {calls : List Call} {c : Call} {p : PlayerId}

/-! ### One call -/

/-- A player at the table has reached the target, and nobody else has. -/
structure WonBy (s : Session Clicker BuiltIn) (players : List PlayerId) (p : PlayerId) : Prop where
  seat : p ∈ players
  reached : s.rules.target ≤ score s.data p
  others : ∀ q, q ≠ p → score s.data q < s.rules.target

theorem underway_undecided (hs : s.Underway state) (hplaying : state.phase ≠ .ended) :
    s.rules.isOver state = false := by
  rw [← Bool.not_eq_true]
  exact fun hover => hplaying (hs.decided hover)

/-- The call that decides a game is an action of the player who has won it. -/
theorem wonBy_of_isOver (hseated : s.Seated players) (hs : s.Underway state)
    (htarget : 0 < s.rules.target) (hplaying : state.phase ≠ .ended) (hc : c.isMove = true)
    {state' : GameState} (hover : s.rules.isOver state' = true)
    (hdata : (s.perform c).2.data = state'.data) :
    ∃ p, s.mover? c = some p ∧ (s.perform c).2.WonBy players p := by
  have hopen := underway_undecided hs hplaying
  have hrules : (s.perform c).2.rules = s.rules :=
    rules_perform (Clicker.keptByRules (· = s.rules)) rfl c
  -- a call that writes no score decides nothing
  have hwritten : ¬ SameGame s.data (s.perform c).2.data := by
    intro hsame
    rw [hdata, data_of_holds hs.holds] at hsame
    rw [isOver_congr (hsame "scores" (by decide) (by decide)), hopen] at hover
    cases hover
  cases played hseated.queue hc with
  | idle _ _ hsame _ => exact absurd hsame hwritten
  | passed _ _ _ _ _ _ hsame _ => exact absurd hsame hwritten
  | @clicked player _ _ points _ _ hmover hseat _ _ _ _ hsame _ _ =>
      refine ⟨player, hmover, ?_, ?_, ?_⟩
      · rw [hseated.order] at hseat
        exact List.mem_of_getElem? hseat
      · rw [hdata, data_of_holds hs.holds] at hsame
        rw [hrules, hdata]
        exact target_le_score_of_click hopen hover hsame
      · intro q hq
        rw [hrules, hsame.score, score_click_of_ne _ _ _ hq, data_of_holds hs.holds]
        exact score_lt_of_undecided htarget hopen q

theorem filter_of_quiet {events : List Event} (h : Quiet events) :
    events.filter Event.tellsEnd = [] :=
  List.filter_eq_nil_iff.mpr fun e he => by simp [h e he]

/-- A call leaves a game undecided, or an action of the winner decides it. -/
theorem goesOn_or_wonBy (hseated : s.Seated players) (hs : s.Underway state)
    (htarget : 0 < s.rules.target) (hplaying : state.phase ≠ .ended) (hc : c.isMove = true) :
    ((s.perform c).2.phase ≠ .ended ∧ Quiet (s.perform c).1.events) ∨
      ((s.perform c).2.phase = .ended ∧
        (s.perform c).1.events.filter Event.tellsEnd
          = [.ended (s.perform c).2.winner (s.perform c).2.scores] ∧
        ∃ p, s.mover? c = some p ∧ (s.perform c).2.WonBy players p) := by
  have hcourse := course orderly_clicker discreet hs (Call.isPlay_of_isMove hc)
  have hrules : (s.perform c).2.rules = s.rules :=
    rules_perform (Clicker.keptByRules (· = s.rules)) rfl c
  have hwon := @wonBy_of_isOver s state players c hseated hs htarget hplaying hc
  generalize (s.perform c).1.events = events at hcourse ⊢
  generalize (s.perform c).2 = s' at hcourse hrules hwon ⊢
  cases hcourse with
  | still hstate _ _ _ =>
      rw [phase_of_holds hstate]
      exact .inl ⟨hplaying, quiet_nil⟩
  | moved _ _ hnext _ hnews hsettle hstate =>
      rw [phase_of_holds hstate]
      rcases settle_cases hsettle with ⟨-, rfl, rfl⟩ | ⟨hover, rfl, hqueue⟩
      · exact .inl ⟨hnext ▸ hplaying, hnews⟩
      · rw [hrules] at hover
        refine .inr ⟨rfl, ?_, hwon hover ((data_of_holds hstate).trans rfl)⟩
        rw [hqueue, List.filter_append, filter_of_quiet hnews, winner, scores, hstate]
        rfl

/-! ### A run of calls -/

theorem told_cons (s : Session Clicker BuiltIn) (c : Call) (rest : List Call) :
    s.told (c :: rest) = (s.perform c).1.events ++ (s.perform c).2.told rest := rfl

theorem mover?_of_same (h : (s.perform c).2 = s) : s.mover? c = none := by
  cases c with
  | act player action =>
      have hturn : (s.handleAction player action).2.turn = s.turn := congrArg turn h
      simp only [mover?, hturn, if_true]
  | _ => rfl

/-- A decided game does not move any more. -/
theorem still_of_ended (hs : s.Underway state) (hended : state.phase = .ended)
    (hcalls : ∀ c ∈ calls, c.isMove = true) :
    s.after calls = s ∧ s.movers calls = [] ∧ s.told calls = [] := by
  induction calls with
  | nil => exact ⟨rfl, rfl, rfl⟩
  | cons c rest ih =>
      obtain ⟨hc, hrest⟩ := List.forall_mem_cons.mp hcalls
      have hgoes : s.GoesOn c [] :=
        goesOn orderly_clicker discreet hs (Call.isPlay_of_isMove hc) nofun
      obtain ⟨hsame, hevents⟩ := hgoes.settled (.inl ((phase_of_holds hs.holds).trans hended)) hc
      obtain ⟨hafter, hmovers, htold⟩ := ih hrest
      refine ⟨?_, ?_, ?_⟩
      · rw [after, Run.after_cons, hsame]
        exact hafter
      · rw [movers_cons, mover?_of_same hsame, hsame, hmovers]
        rfl
      · rw [told_cons, hevents, hsame, htold]
        rfl

/-- A run leaves a game undecided, or the last action that it processes is the one of the winner. -/
theorem undecided_or_wonBy (hseated : s.Seated players) (hs : s.Underway state)
    (htarget : 0 < s.rules.target) (hplaying : state.phase ≠ .ended)
    (hcalls : ∀ c ∈ calls, c.isMove = true) :
    ((s.after calls).phase ≠ .ended ∧ Quiet (s.told calls)) ∨
      ((s.after calls).phase = .ended ∧
        (s.told calls).filter Event.tellsEnd
          = [.ended (s.after calls).winner (s.after calls).scores] ∧
        ∃ p, (s.movers calls).getLast? = some p ∧ (s.after calls).WonBy players p) := by
  induction calls generalizing s state with
  | nil => exact .inl ⟨(phase_of_holds hs.holds).symm ▸ hplaying, quiet_nil⟩
  | cons c rest ih =>
      obtain ⟨hc, hrest⟩ := List.forall_mem_cons.mp hcalls
      obtain ⟨state', hnext⟩ :=
        underway_perform orderly_clicker discreet hs (Call.isPlay_of_isMove hc)
      have hrules : (s.perform c).2.rules = s.rules :=
        rules_perform (Clicker.keptByRules (· = s.rules)) rfl c
      rw [told_cons, movers_cons, after, Run.after_cons, ← after]
      rcases goesOn_or_wonBy hseated hs htarget hplaying hc with ⟨hopen, hquiet⟩ | hdecided
      · rcases ih (seated_perform hseated hc) hnext (hrules ▸ htarget)
          (phase_of_holds hnext.holds ▸ hopen) hrest with ⟨hlater, hrestQuiet⟩ | hlater
        · exact .inl ⟨hlater, quiet_append.mpr ⟨hquiet, hrestQuiet⟩⟩
        · obtain ⟨hended, htold, p, hlast, hwon⟩ := hlater
          refine .inr ⟨hended, ?_, p, ?_, hwon⟩
          · rw [List.filter_append, filter_of_quiet hquiet, htold]
            rfl
          · rw [List.getLast?_append, hlast]
            rfl
      · obtain ⟨hended, htold, p, hmover, hwon⟩ := hdecided
        obtain ⟨hafter, hmovers, hnothing⟩ :=
          still_of_ended hnext ((phase_of_holds hnext.holds).symm.trans hended) hrest
        rw [hafter, hmovers, hnothing, hmover]
        refine .inr ⟨hended, ?_, p, rfl, hwon⟩
        rw [List.append_nil, htold]

/-! ### Who has won -/

theorem winner_of_holds (hseated : s.Seated players) (hs : s.Underway state) :
    s.winner = s.rules.leader s.data players none := by
  rw [← hseated.order, data_of_holds hs.holds, winner, hs.holds]
  rfl

theorem get?_scores (hseated : s.Seated players) (hs : s.Underway state) (p : PlayerId) :
    Dict.get? s.scores p = if p ∈ players then some (score s.data p) else none := by
  rw [← hseated.order, data_of_holds hs.holds, scores, hs.holds]
  exact Dict.get?_ofList_map _ _ p

/-- Whether the score of a player, as the session gives it, has reached the target. -/
def HasReached (s : Session Clicker BuiltIn) (target : Int) (p : PlayerId) : Prop :=
  ∃ n, Dict.get? s.scores p = some n ∧ target ≤ n

theorem hasReached_iff (hseated : s.Seated players) (hs : s.Underway state) {target : Int} :
    s.HasReached target p ↔ p ∈ players ∧ target ≤ score s.data p := by
  rw [HasReached, get?_scores hseated hs]
  constructor
  · intro h
    obtain ⟨n, hn, htarget⟩ := h
    split at hn
    next hp =>
      obtain rfl := Option.some.inj hn
      exact ⟨hp, htarget⟩
    · cases hn
  · intro h
    exact ⟨_, if_pos h.1, h.2⟩

/-- **The end of clicker is unambiguous.** Take any game of clicker that a host creates with its built-in
injectors, from its start with any players and seed through any run of actions and frames. It is decided
exactly when a score has reached the target. Then one player has reached it and nobody else; his was the
last action that was processed, and he is the winner, by the session and by the data of the one event that
tells the end. Until then there is no winner, and no event tells an end. -/
theorem end_is_unambiguous {id : String} {config : GameConfig} {fresh : Session Clicker BuiltIn}
    {seed : Option UInt64} {events : List Event}
    (hcreate : Host.create BuiltIn.catalog id config = .ok (.clicker fresh))
    (hstart : fresh.start players seed = (.ok events, s)) (hcalls : ∀ c ∈ calls, c.isMove = true) :
    ((s.after calls).phase = .ended ↔ ∃ p, (s.after calls).HasReached fresh.rules.target p) ∧
    ((s.after calls).phase = .ended → ∃ p ∈ players,
      (∀ q, (s.after calls).HasReached fresh.rules.target q ↔ q = p) ∧
      (s.movers calls).getLast? = some p ∧ (s.after calls).winner = some p ∧
      (events ++ s.told calls).filter Event.tellsEnd = [.ended (some p) (s.after calls).scores] ∧
      (Event.ended (some p) (s.after calls).scores).Tells ⟨some p, (s.after calls).scores⟩) ∧
    ((s.after calls).phase ≠ .ended →
      (s.after calls).winner = none ∧ (events ++ s.told calls).filter Event.tellsEnd = []) := by
  obtain ⟨htarget, hopens⟩ := opens_of_create hcreate hstart
  obtain ⟨⟨first, hs, hplaying⟩, hquiet⟩ :=
    underway_of_start orderly_clicker (Clicker.opensUndecided htarget players) hstart
  have hplay : ∀ c ∈ calls, c.isPlay = true := fun c hc => Call.isPlay_of_isMove (hcalls c hc)
  obtain ⟨last, hlast⟩ := underway_after orderly_clicker discreet hs hplay
  have hseated := seated_after hopens.toSeated hcalls
  have hrules : s.rules = fresh.rules := rules_after_start hstart []
  have hkept : (s.after calls).rules = fresh.rules := rules_after_start hstart calls
  have hpositive : 0 < s.rules.target := by
    rw [hrules]
    omega
  have hrun := undecided_or_wonBy hopens.toSeated hs hpositive (by rw [hplaying]; decide) hcalls
  rw [List.filter_append, filter_of_quiet hquiet, List.nil_append, winner_of_holds hseated hlast, hkept]
  rcases hrun with ⟨hopen, hnothing⟩ | ⟨hended, htold, p, hmover, hwon⟩
  · have hbelow : ∀ q, score (s.after calls).data q < fresh.rules.target := by
      intro q
      have hundecided := underway_undecided hlast ((phase_of_holds hlast.holds) ▸ hopen)
      rw [hkept] at hundecided
      rw [data_of_holds hlast.holds]
      exact score_lt_of_undecided (by omega) hundecided q
    refine ⟨⟨fun hended => absurd hended hopen, fun hreached => ?_⟩, fun hended => absurd hended hopen,
      fun _ => ⟨leader_eq_none fun q _ => hbelow q, filter_of_quiet hnothing⟩⟩
    obtain ⟨q, hq⟩ := hreached
    have hle := ((hasReached_iff hseated hlast).mp hq).2
    have hlt := hbelow q
    omega
  · obtain ⟨hseat, hreached, hothers⟩ := hwon
    rw [hkept] at hreached hothers
    have hleader := leader_eq_some hseat hreached hothers
    have hp := (hasReached_iff hseated hlast).mpr ⟨hseat, hreached⟩
    refine ⟨⟨fun _ => ⟨p, hp⟩, fun _ => hended⟩, fun _ => ⟨p, hseat, fun q => ?_, hmover, hleader, ?_,
      tells_ended _ _⟩, fun hopen => absurd hended hopen⟩
    · refine ⟨fun hq => Classical.byContradiction fun hne => ?_, fun hq => hq ▸ hp⟩
      have hle := ((hasReached_iff hseated hlast).mp hq).2
      have hlt := hothers q hne
      omega
    · rw [htold, winner_of_holds hseated hlast, hkept, hleader]

/-- A click out of turn, and two clicks that reach a target of two. -/
theorem end_is_unambiguous_of_two_clicks :
    let config : GameConfig := { gameType := "clicker", options := .obj [("target", .nat 2)] }
    let fresh : Session Clicker BuiltIn := .create "g" (Clicker.ofTarget 2) config []
    let twice : Action := { kind := "click", payload := [("count", .int 2)] }
    let s := (fresh.start ["a", "b"] (some 7)).2.after [.act "b" twice, .act "a" twice]
    s.phase = .ended ∧ s.winner = some "a" := by
  intro config fresh twice s
  have hcreate : Host.create BuiltIn.catalog "g" config = .ok (.clicker fresh) := rfl
  have hstart : fresh.start ["a", "b"] (some 7)
      = (.ok [Event.started ["a", "b"]], (fresh.start ["a", "b"] (some 7)).2) := rfl
  have hcalls : ∀ c ∈ [Call.act "b" twice, .act "a" twice], c.isMove = true := by simp [Call.isMove]
  have hended : s.phase = .ended := by decide +kernel
  obtain ⟨-, hwon, -⟩ := end_is_unambiguous hcreate hstart hcalls
  obtain ⟨p, -, -, hlast, hwinner, -⟩ := hwon hended
  have hmovers : ((fresh.start ["a", "b"] (some 7)).2.movers [.act "b" twice, .act "a" twice]).getLast?
      = some "a" := by decide +kernel
  obtain rfl : "a" = p := Option.some.inj (hmovers.symm.trans hlast)
  exact ⟨hended, hwinner⟩

end Play.Session

end Arcade
