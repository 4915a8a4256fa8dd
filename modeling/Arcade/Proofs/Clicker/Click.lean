import Arcade.Proofs.Host.Lifecycle
import Arcade.Proofs.Number.Sign
import Arcade.Proofs.Play.Checked
/-!
# What a click does

A click adds its points to a score, and the bonus when it crosses the lucky number of its player: in
exact integers, it `gain`s the one or both. The rules add 64-bit words, so the score is exact as long as
neither sum is too large (`AddsUp`, `clicked_of_addsUp`), and a build that checks its sums stops at a click
exactly if one is (`click?_eq_some_iff`, `applied?_eq_none_iff`). Points are never negative (`points_nonneg`), so
it is the score and the gain that have to fit together (`addsUp_iff`).

What a game holds is read under a few names of its data. Data that agree under all names but those of the
host and its injectors hold the same game (`SameGame`).
-/

namespace Arcade.Clicker

open Play Mechanics Checked

variable {data data' : Data} {player p : PlayerId} {points : Int64}

/-! ### Data that hold the same game -/

/-- Data that agree under all names but those of the energy balances and the last multiplier. -/
def SameGame (data data' : Data) : Prop :=
  ∀ key, key ≠ Energy.key → key ≠ multiplierKey → Dict.get? data' key = Dict.get? data key

theorem SameGame.refl (data : Data) : SameGame data data := fun _ _ _ => rfl

/-- The entries of the list of claims. -/
def claims (data : Data) : List Json :=
  ((Dict.get? data "luckyClaimed").bind Json.asArr?).getD []

/-- How often a player stands in the list of claims. -/
def claimCount (data : Data) (player : PlayerId) : Nat :=
  (claims data).countP (isText player)

/-- Whether a player's score has reached his lucky number. -/
def reached (data : Data) (player : PlayerId) : Bool :=
  (lucky? data player).any (· ≤ score data player)

theorem score_congr (h : Dict.get? data' "scores" = Dict.get? data "scores") :
    score data' = score data := by
  funext player
  rw [score, scoreTable, h, ← scoreTable, ← score]

theorem lucky?_congr (h : Dict.get? data' "lucky" = Dict.get? data "lucky") :
    lucky? data' = lucky? data := by
  funext player
  rw [lucky?, h, ← lucky?]

theorem claims_congr (h : Dict.get? data' "luckyClaimed" = Dict.get? data "luckyClaimed") :
    claims data' = claims data := by
  rw [claims, h, ← claims]

theorem claimCount_congr (h : Dict.get? data' "luckyClaimed" = Dict.get? data "luckyClaimed") :
    claimCount data' = claimCount data := by
  funext player
  rw [claimCount, claims_congr h, ← claimCount]

theorem SameGame.score (h : SameGame data data') : score data' = score data :=
  score_congr (h "scores" (by decide) (by decide))

theorem SameGame.lucky? (h : SameGame data data') : lucky? data' = lucky? data :=
  lucky?_congr (h "lucky" (by decide) (by decide))

theorem SameGame.claimCount (h : SameGame data data') : claimCount data' = claimCount data :=
  claimCount_congr (h "luckyClaimed" (by decide) (by decide))

/-- A player has claimed the bonus if he stands in the list of claims. -/
theorem hasClaimed_iff : hasClaimed data player = true ↔ 0 < claimCount data player := by
  rw [claimCount, List.countP_pos_iff]
  exact List.any_eq_true

theorem hasClaimed_of_count (h : claimCount data player = 0) : hasClaimed data player = false := by
  rw [← Bool.not_eq_true, hasClaimed_iff, h]
  exact Nat.lt_irrefl 0

/-! ### Scores and claims that are written -/

theorem asInt64?_int (w : Int64) : (Json.int w.toInt).asInt64? = some w.toInt :=
  if_pos (fits64_toInt w)

/-- A score is read as a 64-bit integer. -/
theorem fits64_score (data : Data) (player : PlayerId) : Fits64 (score data player) := by
  have hzero : Fits64 0 := by decide
  unfold score
  cases hread : (Dict.get? (scoreTable data) player).bind Json.asInt64? with
  | none => exact hzero
  | some n =>
      obtain ⟨j, -, hj⟩ := Option.bind_eq_some_iff.mp hread
      cases j with
      | num number =>
          cases number with
          | int m =>
              simp only [Json.asInt64?, Number.asInt64?] at hj
              split at hj
              next hfits =>
                obtain rfl := Option.some.inj hj
                exact hfits
              · cases hj
          | real x => cases hj
      | _ => cases hj

theorem score_setScore (total : Int64) : score (setScore data player total) player = total.toInt := by
  rw [score, scoreTable, setScore, Dict.get?_insert_self]
  simp only [Option.bind_some, Json.asObj?, Option.getD_some, Dict.get?_insert_self, asInt64?_int]

theorem score_setScore_of_ne (total : Int64) (hp : p ≠ player) :
    score (setScore data player total) p = score data p := by
  rw [score, scoreTable, setScore, Dict.get?_insert_self]
  simp only [Option.bind_some, Json.asObj?, Option.getD_some]
  rw [Dict.get?_insert_of_ne _ _ hp.symm, ← score]

theorem claimCount_setScore (total : Int64) :
    claimCount (setScore data player total) = claimCount data :=
  claimCount_congr (Dict.get?_insert_of_ne _ _ (by decide))

/-- A claim touches the list of claims only. -/
theorem get?_claim (data : Data) (player : PlayerId) {key : String} (hkey : key ≠ "luckyClaimed") :
    Dict.get? (claim data player) key = Dict.get? data key := by
  unfold claim
  split
  · exact Dict.get?_insert_of_ne _ _ hkey.symm
  · rfl

theorem score_claim : score (claim data player) = score data :=
  score_congr (get?_claim data player (by decide))

/-- A claim adds its player to the list, if there is one. -/
theorem claims_claim {claimed : List Json} (hlist : Dict.get? data "luckyClaimed" = some (.arr claimed))
    (player : PlayerId) :
    Dict.get? (claim data player) "luckyClaimed" = some (.arr (claimed ++ [.str player])) ∧
      ∀ p, claimCount (claim data player) p = claimCount data p + if player = p then 1 else 0 := by
  have hclaimed : Dict.get? (claim data player) "luckyClaimed"
      = some (.arr (claimed ++ [.str player])) := by
    rw [claim, hlist]
    exact Dict.get?_insert_self _ _ _
  refine ⟨hclaimed, fun p => ?_⟩
  rw [claimCount, claimCount, claims, claims, hclaimed, hlist]
  simp [Json.asArr?, isText, List.countP_append, List.countP_cons]

/-! ### Points -/

theorem clickCount_bounds {action : Action} {count : Int} (h : clickCount action = .ok count) :
    1 ≤ count ∧ count ≤ maxClicks := by
  unfold clickCount at h
  split at h
  · obtain rfl := Except.ok.inj h
    decide
  · split at h
    · split at h
      next hbounds =>
        obtain rfl := Except.ok.inj h
        exact hbounds
      · cases h
    · cases h

/-- No factor without a minus sign makes the points of clicks negative. -/
theorem points_nonneg {action : Action} {count : Int} (hcount : clickCount action = .ok count)
    {multiplier : Float} (hmultiplier : Real.Unsigned multiplier) :
    0 ≤ (Clicker.points count multiplier).toInt := by
  obtain ⟨hlow, hhigh⟩ := clickCount_bounds hcount
  simp only [maxClicks] at hhigh
  have hunsigned : Real.Unsigned (Float.ofInt count) := by
    obtain rfl | rfl | rfl | rfl | rfl :
        count = 1 ∨ count = 2 ∨ count = 3 ∨ count = 4 ∨ count = 5 := by omega
    all_goals decide +kernel
  exact Real.roundToInt64_nonneg (hunsigned.mul hmultiplier)

/-! ### The gain of a click -/

/-- The lucky number that lies between two scores of a player, if his bonus is still open. -/
def crosses? (data : Data) (player : PlayerId) (before total : Int) : Option Int :=
  (lucky? data player).filter fun n => !hasClaimed data player && before < n && n ≤ total

/-- What a click adds to the score of its player, in exact integers. -/
def gain (data : Data) (player : PlayerId) (points : Int) : Int :=
  match crosses? data player (score data player) (score data player + points) with
  | some _ => points + luckyBonus.toInt
  | none => points

/-- Whether the sums that a click makes are 64-bit integers. -/
def AddsUp (data : Data) (player : PlayerId) (points : Int64) : Prop :=
  Fits64 (score data player + points.toInt) ∧
    Fits64 (score data player + gain data player points.toInt)

theorem luckyBonus_toInt : luckyBonus.toInt = 5 := rfl

/-- The two ways of a click, with the sums that the rules make. -/
theorem click_cases (data : Data) (player : PlayerId) (points : Int64) :
    let total := Int64.ofInt (score data player) + points
    (crosses? data player (score data player) total.toInt = none ∧
        click data player points = (setScore data player total, [clickEvent player points total])) ∨
      ∃ n, crosses? data player (score data player) total.toInt = some n ∧
        click data player points = (setScore (claim data player) player (total + luckyBonus),
          [bonusEvent player n, clickEvent player points (total + luckyBonus)]) := by
  intro total
  have hbefore : (Int64.ofInt (score data player)).toInt = score data player :=
    toInt_ofInt_of_fits64 (fits64_score data player)
  have hcrossed : crossed? data player (Int64.ofInt (score data player)) total
      = crosses? data player (score data player) total.toInt := by
    rw [crossed?, hbefore, ← crosses?]
  cases hcrosses : crosses? data player (score data player) total.toInt with
  | none =>
      rw [hcrosses] at hcrossed
      exact Or.inl ⟨rfl, by rw [click, hcrossed]⟩
  | some n =>
      rw [hcrosses] at hcrossed
      exact Or.inr ⟨n, rfl, by rw [click, hcrossed]⟩

/-- What a click does whose sums fit. -/
inductive Clicked (data : Data) (player : PlayerId) (points : Int64) : Data → List Event → Prop
  /-- the bonus stays open, or is gone -/
  | plain {total : Int64}
      (hnone : crosses? data player (score data player) (score data player + points.toInt) = none)
      (htotal : total.toInt = score data player + points.toInt) :
      Clicked data player points (setScore data player total) [clickEvent player points total]
  /-- the click crosses the lucky number -/
  | lucky {n : Int} {total : Int64}
      (hsome : crosses? data player (score data player) (score data player + points.toInt) = some n)
      (htotal : total.toInt = score data player + points.toInt + luckyBonus.toInt) :
      Clicked data player points (setScore (claim data player) player total)
        [bonusEvent player n, clickEvent player points total]

theorem clicked_of_addsUp (h : AddsUp data player points) :
    Clicked data player points (click data player points).1 (click data player points).2 := by
  obtain ⟨hsum, hgain⟩ := h
  have hbefore : (Int64.ofInt (score data player)).toInt = score data player :=
    toInt_ofInt_of_fits64 (fits64_score data player)
  have htotal : (Int64.ofInt (score data player) + points).toInt
      = score data player + points.toInt := by
    rw [toInt_add_of_fits64 (by rwa [hbefore]), hbefore]
  rcases click_cases data player points with ⟨hcrosses, hclick⟩ | ⟨n, hcrosses, hclick⟩
  · rw [hclick]
    rw [htotal] at hcrosses
    exact .plain hcrosses htotal
  · rw [hclick]
    rw [htotal] at hcrosses
    have hbonus : Fits64 ((Int64.ofInt (score data player) + points).toInt + luckyBonus.toInt) := by
      rw [htotal]
      simpa only [gain, hcrosses, Int.add_assoc] using hgain
    exact .lucky hcrosses (by rw [toInt_add_of_fits64 hbonus, htotal])

/-- The new score is the old one and what the click gains. -/
theorem score_of_clicked {data' : Data} {events : List Event}
    (h : Clicked data player points data' events) :
    score data' player = score data player + gain data player points.toInt := by
  cases h with
  | plain hnone htotal => rw [score_setScore, htotal, gain, hnone]
  | lucky hsome htotal => rw [score_setScore, htotal, gain, hsome, Int.add_assoc]

/-! ### Sums that are too large -/

theorem gain_bounds (data : Data) (player : PlayerId) (points : Int) :
    points ≤ gain data player points ∧ gain data player points ≤ points + luckyBonus.toInt := by
  rw [gain, luckyBonus_toInt]
  split <;> omega

/-- Points are not negative, so it is one sum that has to fit: that of the score and the gain. -/
theorem addsUp_iff (hpoints : 0 ≤ points.toInt) : AddsUp data player points ↔
    score data player + gain data player points.toInt ≤ Words.maxInt64 := by
  obtain ⟨hgain, -⟩ := gain_bounds data player points.toInt
  obtain ⟨hlow, -⟩ := fits64_score data player
  simp only [AddsUp, Fits64]
  omega

/-- A click in a build that checks its sums has the effect of any click, if its sums fit, and none if they do
not. -/
theorem click?_eq_some_iff {r : Data × List Event} : click? data player points = some r ↔
    AddsUp data player points ∧ click data player points = r := by
  have hbefore : (Int64.ofInt (score data player)).toInt = score data player :=
    toInt_ofInt_of_fits64 (fits64_score data player)
  simp only [click?, click, bind, pure, Option.bind_eq_some_iff, plus64?_eq_some_iff, hbefore, AddsUp,
    and_assoc, exists_and_left, exists_eq_left']
  refine and_congr_right fun hsum => ?_
  -- the first sum fits, so the lucky number is looked for where it is in exact integers
  have htotal : (Int64.ofInt (score data player) + points).toInt = score data player + points.toInt := by
    rw [toInt_add_of_fits64 (by rwa [hbefore]), hbefore]
  have hcrossed : crossed? data player (Int64.ofInt (score data player))
        (Int64.ofInt (score data player) + points)
      = crosses? data player (score data player) (score data player + points.toInt) := by
    rw [crossed?, hbefore, htotal, ← crosses?]
  rw [hcrossed, gain]
  cases crosses? data player (score data player) (score data player + points.toInt) with
  | none => simp [hsum]
  | some n => simp [Option.bind_eq_some_iff, plus64?_eq_some_iff, htotal, Int.add_assoc, and_assoc]

/-- Only clicks make sums. -/
theorem applied?_eq_none_iff {state : GameState} {action : Action} {multiplier : Float} :
    applied? state player action multiplier = none ↔ checkTurn state player = .ok () ∧
      action.kind = "click" ∧ ∃ count, clickCount action = .ok count ∧
        ¬ AddsUp state.data player (Clicker.points count multiplier) := by
  have hclick : ∀ points, click? state.data player points = none ↔ ¬ AddsUp state.data player points := by
    intro points
    simp [Option.eq_none_iff_forall_ne_some, click?_eq_some_iff]
  unfold applied?
  split
  next count hturn hkind hcount => simp [hturn, hkind, hcount, hclick]
  next hother =>
    simp only [reduceCtorEq, false_iff, not_and, not_exists, Classical.not_not]
    exact fun hturn hkind count hcount => absurd hcount (hother count hturn hkind)

/-- Clicker makes sums only for clicks that it accepts. -/
theorem addsAccepted : AddsAccepted Clicker := by
  intro rules state player action multiplier stage refusal hrefused
  show (applied? state player action multiplier).isSome = true
  rw [Option.isSome_iff_ne_none, ne_eq, applied?_eq_none_iff]
  rintro ⟨hturn, hclick, count, hcount, -⟩
  have happly : apply state player action multiplier
      = .ok (click state.data player (Clicker.points count multiplier)) := by
    simp [apply, hturn, hclick, hcount, bind, Except.bind]
  simp only [GameRules.act, happly] at hrefused
  cases hrefused

end Arcade.Clicker
