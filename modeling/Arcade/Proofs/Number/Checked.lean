import Arcade.Generator
import Arcade.Number.Checked
import Arcade.Number.Fixed
/-!
# Words that do not overflow

An operation with a check has a result exactly if the operation on words does not wrap, and it is the same
then (`plus?_of_fits` and its companions, `plus64?_eq_some_iff`, `next64?_eq_some_iff`).

Also here: what `Fixed.abs` and `Fixed.clamp` are as integers, and between which bounds a number is
drawn.
-/

namespace Arcade

namespace Checked

/-- An integer has a word exactly if it is the value of one. -/
theorem word?_eq_some_iff {n : Int} {w : Int32} : word? n = some w ↔ w.toInt = n := by
  constructor
  · intro h
    unfold word? at h
    split at h
    · next hfits =>
      obtain rfl := Option.some.inj h
      exact Int32.toInt_ofInt_of_le hfits.1 hfits.2
    · cases h
  · rintro rfl
    have hfits : Fits w.toInt := ⟨w.le_toInt, w.toInt_lt⟩
    rw [word?, if_pos hfits, Int32.ofInt_toInt]

theorem fits_of_word? {n : Int} {w : Int32} (h : word? n = some w) : Fits n := by
  rw [← word?_eq_some_iff.mp h]
  exact ⟨w.le_toInt, w.toInt_lt⟩

variable {a b : Int32}

/-! ### Operations that do not wrap -/

theorem toInt_add_of_fits (h : Fits (a.toInt + b.toInt)) : (a + b).toInt = a.toInt + b.toInt := by
  obtain ⟨hlow, hhigh⟩ := h
  rw [Int32.toInt_add]
  exact Int.bmod_eq_of_le (by omega) (by omega)

theorem toInt_sub_of_fits (h : Fits (a.toInt - b.toInt)) : (a - b).toInt = a.toInt - b.toInt := by
  obtain ⟨hlow, hhigh⟩ := h
  rw [Int32.toInt_sub]
  exact Int.bmod_eq_of_le (by omega) (by omega)

theorem toInt_neg_of_fits (h : Fits (-a.toInt)) : (-a).toInt = -a.toInt := by
  obtain ⟨hlow, hhigh⟩ := h
  rw [Int32.toInt_neg]
  exact Int.bmod_eq_of_le (by omega) (by omega)

theorem plus?_of_fits (h : Fits (a.toInt + b.toInt)) : plus? a b = some (a + b) :=
  word?_eq_some_iff.mpr (toInt_add_of_fits h)

theorem minus?_of_fits (h : Fits (a.toInt - b.toInt)) : minus? a b = some (a - b) :=
  word?_eq_some_iff.mpr (toInt_sub_of_fits h)

theorem negated?_of_fits (h : Fits (-a.toInt)) : negated? a = some (-a) :=
  word?_eq_some_iff.mpr (toInt_neg_of_fits h)

/-! ### Counters -/

theorem next32?_eq_some_iff {n next : UInt32} :
    next32? n = some next ↔ n.toNat + 1 < UInt32.size ∧ n + 1 = next := by
  simp only [next32?, Option.ite_none_right_eq_some, Option.some.injEq]

theorem next64?_eq_some_iff {n next : UInt64} :
    next64? n = some next ↔ n.toNat + 1 < UInt64.size ∧ n + 1 = next := by
  simp only [next64?, Option.ite_none_right_eq_some, Option.some.injEq]

theorem toNat_next64 {n : UInt64} (h : n.toNat + 1 < UInt64.size) : (n + 1).toNat = n.toNat + 1 := by
  rw [UInt64.toNat_add]
  exact Nat.mod_eq_of_lt h

/-! ### Words of 64 bits -/

theorem fits64_toInt (w : Int64) : Fits64 w.toInt := by
  have hlow := w.le_toInt
  have hhigh := w.toInt_lt
  simp only [Fits64, Words.minInt64, Words.maxInt64]
  omega

theorem toInt_ofInt_of_fits64 {n : Int} (h : Fits64 n) : (Int64.ofInt n).toInt = n :=
  Int64.toInt_ofInt_of_le h.1 (Int.lt_add_one_iff.mpr h.2)

theorem toInt_add_of_fits64 {v w : Int64} (h : Fits64 (v.toInt + w.toInt)) :
    (v + w).toInt = v.toInt + w.toInt := by
  simp only [Fits64, Words.minInt64, Words.maxInt64] at h
  rw [Int64.toInt_add]
  exact Int.bmod_eq_of_le (by omega) (by omega)

theorem plus64?_eq_some_iff {v w sum : Int64} :
    plus64? v w = some sum ↔ Fits64 (v.toInt + w.toInt) ∧ v + w = sum := by
  simp only [plus64?, word64?, Option.ite_none_right_eq_some, Option.some.injEq]
  refine and_congr_right fun hfits => ?_
  have hsum : Int64.ofInt (v.toInt + w.toInt) = v + w := by
    rw [← Int64.toInt_inj, toInt_ofInt_of_fits64 hfits, toInt_add_of_fits64 hfits]
  rw [hsum]

end Checked

open Checked

/-! ### Magnitudes and bounds -/

namespace Fixed

/-- The lowest word apart, the magnitude is exact. -/
theorem toInt_abs {x : Fixed} (h : Fits (-x.toInt)) : (abs x).toInt = max x.toInt (-x.toInt) := by
  have hmin : x ≠ Int32.minValue := by
    rintro rfl
    exact absurd h (by decide)
  unfold abs
  rw [if_neg hmin]
  split
  · next hneg =>
    have hneg' : x.toInt < 0 := by simpa [Int32.lt_iff_toInt_lt] using hneg
    rw [toInt_neg_of_fits h]
    omega
  · next hpos =>
    have hpos' : 0 ≤ x.toInt := by simpa [Int32.lt_iff_toInt_lt] using hpos
    omega

/-- Clamping is exact. -/
theorem toInt_clamp (x lo hi : Fixed) :
    (clamp x lo hi).toInt = min (max x.toInt lo.toInt) hi.toInt := by
  unfold clamp
  dsimp only
  split <;> split <;> simp only [Int32.lt_iff_toInt_lt] at * <;> omega

end Fixed

/-! ### Numbers that are drawn -/

/-- A number is drawn between its bounds. -/
theorem Generator.between_bounds (g : Generator) {lo hi : Int32} (h : lo ≤ hi) :
    lo.toInt ≤ (g.between lo hi).1.toInt ∧ (g.between lo hi).1.toInt ≤ hi.toInt := by
  rw [Int32.le_iff_toInt_le] at h
  unfold between
  split
  · exact ⟨Int.le_refl _, h⟩
  · next hlt =>
    rw [Int32.le_iff_toInt_le] at hlt
    have hlow := lo.le_toInt
    have hhigh := hi.toInt_lt
    have hspan : g.next.1.toNat % ((hi.toInt - lo.toInt).toNat + 1)
        < (hi.toInt - lo.toInt).toNat + 1 := Nat.mod_lt _ (Nat.succ_pos _)
    dsimp only
    rw [Int32.toInt_ofInt_of_le (by omega) (by omega)]
    omega

end Arcade
