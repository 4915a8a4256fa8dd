import Arcade.Proofs.Clicker.Played
/-!
# The accounts of clicks

Scores, claims and the list of events are three records of the same clicks. `Accounts` says how the first
two change with the third; it is closed under one call after the other, and a click whose sums fit keeps
it (`accounts_of_clicked`). Who has reached his lucky number stands in the list of claims once, and nobody
else stands there: this is the invariant `Fair`, by which the bonus is not won a second time.
-/

namespace Arcade

open Play Mechanics Checked

namespace Clicker

variable {data data' data'' : Data} {player p : PlayerId} {points : Int64}
  {events first second : List Event}

/-! ### Accounts -/

/-- Scores and claims have changed by what events tell. -/
structure Accounts (data data' : Data) (events : List Event) : Prop where
  scores : ∀ p, score data' p
    = score data p + pointsTold p events + luckyBonus.toInt * bonusesTold p events
  grows : ∀ p, score data p ≤ score data' p
  claims : ∀ p, claimCount data' p = claimCount data p + bonusesTold p events

theorem accounts_of_sameGame (h : SameGame data data') (haside : ∀ e ∈ events, Aside e) :
    Accounts data data' events := by
  constructor
  · intro p
    simp only [h.score, pointsTold_of_aside haside, bonusesTold_of_aside haside, Int.natCast_zero,
      Int.mul_zero, Int.add_zero]
  · intro p
    exact Int.le_of_eq (congrFun h.score p).symm
  · intro p
    rw [h.claimCount, bonusesTold_of_aside haside, Nat.add_zero]

theorem Accounts.trans (h : Accounts data data' first) (h' : Accounts data' data'' second) :
    Accounts data data'' (first ++ second) := by
  constructor
  · intro p
    have hfirst := h.scores p
    have hsecond := h'.scores p
    rw [pointsTold_append, bonusesTold_append]
    rw [luckyBonus_toInt] at *
    omega
  · intro p
    exact Int.le_trans (h.grows p) (h'.grows p)
  · intro p
    rw [h'.claims, h.claims, bonusesTold_append, Nat.add_assoc]

/-! ### Claims -/

/-- The list of claims holds those whose scores have reached their lucky numbers, each once. -/
structure Fair (data : Data) : Prop where
  listed : ∃ claimed, Dict.get? data "luckyClaimed" = some (.arr claimed)
  claimed : ∀ p, claimCount data p = if reached data p then 1 else 0

theorem SameGame.reached (h : SameGame data data') : reached data' = reached data := by
  funext p
  rw [Clicker.reached, h.lucky?, h.score, ← Clicker.reached]

theorem fair_of_sameGame (hfair : Fair data) (h : SameGame data data') : Fair data' := by
  constructor
  · obtain ⟨claimed, hclaimed⟩ := hfair.listed
    exact ⟨claimed, (h "luckyClaimed" (by decide) (by decide)).trans hclaimed⟩
  · intro p
    rw [h.claimCount, h.reached]
    exact hfair.claimed p

/-- The bonus is open to a player who has not reached his lucky number. -/
theorem Fair.hasClaimed (h : Fair data) (player : PlayerId) :
    hasClaimed data player = reached data player := by
  have hcount := h.claimed player
  cases hreached : reached data player with
  | true =>
      rw [hreached, if_pos rfl] at hcount
      rw [hasClaimed_iff, hcount]
      exact Nat.one_pos
  | false =>
      rw [hreached] at hcount
      exact hasClaimed_of_count hcount

/-! ### Clicks -/

theorem pointsTold_clicked (h : Clicked data player points data' events) (p : PlayerId) :
    pointsTold p events = if player = p then points.toInt else 0 := by
  cases h with
  | plain _ _ => rw [pointsTold, pointsTold, pointsOf_clickEvent, Int.add_zero]
  | lucky _ _ =>
      rw [pointsTold, pointsTold, pointsTold, pointsOf_bonusEvent, pointsOf_clickEvent, Int.add_zero,
        Int.zero_add]

/-- A click tells of a bonus exactly if it crosses the lucky number of its player. -/
theorem bonusesTold_clicked (h : Clicked data player points data' events) (p : PlayerId) :
    bonusesTold p events = if player = p ∧
      (crosses? data player (score data player) (score data player + points.toInt)).isSome
        then 1 else 0 := by
  cases h with
  | plain hnone _ =>
      rw [hnone, bonusesTold, List.countP_singleton, isBonusOf_clickEvent]
      simp
  | lucky hsome _ =>
      rw [hsome, bonusesTold, List.countP_cons, List.countP_singleton, isBonusOf_clickEvent,
        isBonusOf_bonusEvent]
      simp

theorem score_clicked (h : Clicked data player points data' events) :
    score data' player = score data player + points.toInt + luckyBonus.toInt * bonusesTold player events ∧
      ∀ p, p ≠ player → score data' p = score data p := by
  constructor
  · rw [score_of_clicked h, bonusesTold_clicked h, gain, Int.add_assoc]
    cases crosses? data player (score data player) (score data player + points.toInt) <;> simp
  · intro p hp
    cases h with
    | plain _ _ => exact score_setScore_of_ne _ hp
    | lucky _ _ => rw [score_setScore_of_ne _ hp, score_claim]

theorem lucky?_clicked (h : Clicked data player points data' events) : lucky? data' = lucky? data := by
  cases h with
  | plain _ _ => exact lucky?_congr (Dict.get?_insert_of_ne _ _ (by decide))
  | lucky _ _ =>
      refine lucky?_congr ((Dict.get?_insert_of_ne _ _ (by decide)).trans ?_)
      exact get?_claim data player (by decide)

/-- Whoever wins the bonus is added to the list of claims. -/
theorem claims_clicked (h : Clicked data player points data' events) (hfair : Fair data) :
    (∃ claimed, Dict.get? data' "luckyClaimed" = some (.arr claimed)) ∧
      ∀ p, claimCount data' p = claimCount data p + bonusesTold p events := by
  obtain ⟨claimed, hlist⟩ := hfair.listed
  have hbonuses := bonusesTold_clicked h
  cases h with
  | @plain total hnone _ =>
      have hkept : Dict.get? (setScore data player total) "luckyClaimed" = Dict.get? data "luckyClaimed" :=
        Dict.get?_insert_of_ne _ _ (by decide)
      refine ⟨⟨claimed, hkept.trans hlist⟩, fun p => ?_⟩
      rw [hbonuses p, hnone, claimCount_setScore]
      simp
  | lucky hsome _ =>
      obtain ⟨hclaimed, hcount⟩ := claims_claim hlist player
      refine ⟨⟨_, (Dict.get?_insert_of_ne _ _ (by decide)).trans hclaimed⟩, fun p => ?_⟩
      rw [hbonuses p, hsome, claimCount_setScore, hcount p]
      simp

/-- A click keeps the accounts. -/
theorem accounts_of_clicked (h : Clicked data player points data' events) (hfair : Fair data)
    (hpoints : 0 ≤ points.toInt) : Accounts data data' events := by
  obtain ⟨hself, hothers⟩ := score_clicked h
  have htold := pointsTold_clicked h
  have hbonuses := bonusesTold_clicked h
  have hscores : ∀ p, score data' p
      = score data p + pointsTold p events + luckyBonus.toInt * bonusesTold p events := by
    intro p
    by_cases hp : player = p
    · subst hp
      rw [hself, htold, if_pos rfl]
    · rw [hothers p (Ne.symm hp), htold, hbonuses, if_neg hp, if_neg fun hboth => hp hboth.1]
      simp
  refine ⟨hscores, fun p => ?_, (claims_clicked h hfair).2⟩
  have hp : 0 ≤ pointsTold p events := by
    rw [htold]
    split
    · exact hpoints
    · exact Int.le_refl 0
  have hscore := hscores p
  rw [luckyBonus_toInt] at hscore
  omega

/-- The bonus is open to exactly those who have not reached their lucky numbers. -/
theorem isSome_crosses?_of_fair (hfair : Fair data) {n : Int} (hn : lucky? data player = some n)
    (total : Int) : (crosses? data player (score data player) total).isSome
      = decide (score data player < n ∧ n ≤ total) := by
  have hclaimed : hasClaimed data player = decide (n ≤ score data player) := by
    rw [hfair.hasClaimed, reached, hn, Option.any_some]
  rw [crosses?, hn, Option.filter_some, hclaimed]
  by_cases hbefore : score data player < n
  · by_cases htotal : n ≤ total <;> simp [hbefore, htotal]
  · simp [hbefore]

/-- The bonus is won when the score reaches the lucky number, and not again. -/
theorem reached_clicked (h : Clicked data player points data' events) (hfair : Fair data)
    (hpoints : 0 ≤ points.toInt) (p : PlayerId) :
    (if reached data' p then 1 else 0) = (if reached data p then 1 else 0) + bonusesTold p events := by
  obtain ⟨hself, hothers⟩ := score_clicked h
  have hbonuses := bonusesTold_clicked h p
  have hlucky := congrFun (lucky?_clicked h) p
  by_cases hp : player = p
  · subst hp
    cases hn : lucky? data player with
    | none =>
        have hcrosses : crosses? data player (score data player) (score data player + points.toInt)
            = none := by rw [crosses?, hn, Option.filter_none]
        rw [hcrosses] at hbonuses
        rw [hbonuses, reached, reached, hlucky, hn]
        simp
    | some n =>
        rw [isSome_crosses?_of_fair hfair hn] at hbonuses
        rw [reached, reached, hlucky, hn, hself, luckyBonus_toInt]
        simp only [Option.any_some, decide_eq_true_eq, true_and] at hbonuses ⊢
        by_cases hcrosses : score data player < n ∧ n ≤ score data player + points.toInt
        · rw [if_pos hcrosses] at hbonuses
          rw [hbonuses]
          split <;> split <;> omega
        · -- he stays below the number, or was not below it before
          rw [if_neg hcrosses] at hbonuses
          rw [hbonuses]
          split <;> split <;> omega
  · rw [if_neg fun hboth => hp hboth.1] at hbonuses
    rw [hbonuses, reached, reached, hlucky, hothers p (Ne.symm hp)]
    rfl

theorem fair_of_clicked (h : Clicked data player points data' events) (hfair : Fair data)
    (hpoints : 0 ≤ points.toInt) : Fair data' := by
  obtain ⟨hlisted, hcount⟩ := claims_clicked h hfair
  refine ⟨hlisted, fun p => ?_⟩
  rw [hcount p, hfair.claimed p, reached_clicked h hfair hpoints p]

end Clicker

end Arcade
