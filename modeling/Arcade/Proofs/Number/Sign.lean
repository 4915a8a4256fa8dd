import Arcade.Number.Real
/-!
# Numbers without a minus sign

The product of two doubles without a minus sign has none either (`Unsigned.mul`), whatever is rounded,
runs out of range or is no number at all. Such a number is never below zero, so the integer that it is
rounded to is not negative (`round_nonneg`).

The sign of a product is decided on unpacked numbers. It gets lost neither when they are packed into
their 64 bits (`unpackSign_pack`) nor when they are unpacked again (`noMinus_unpack`).
-/

namespace Arcade.Real

open Float.Model Float.Model.UnpackedFloat

/-! ### Unpacked numbers -/

/-- Whether an unpacked number has no minus sign; what is not a number has none. -/
def NoMinus : UnpackedFloat → Prop
  | .notANumber => True
  | .infinity sign => sign = .positive
  | .zero sign => sign = .positive
  | .finite sign _ _ _ => sign = .positive

theorem sign_beq_iff {sign : Sign} : (sign == .positive) = true ↔ sign = .positive := by
  constructor
  · intro h
    cases sign with
    | negative => cases h
    | positive => rfl
  · rintro rfl
    rfl

instance : DecidablePred NoMinus
  | .notANumber => inferInstanceAs (Decidable True)
  | .infinity _ => decidable_of_iff _ sign_beq_iff
  | .zero _ => decidable_of_iff _ sign_beq_iff
  | .finite _ _ _ _ => decidable_of_iff _ sign_beq_iff

variable {spec : Format} {x y : UnpackedFloat}

theorem noMinus_dite {c : Prop} [Decidable c] {a : c → UnpackedFloat} {b : ¬c → UnpackedFloat}
    (ha : ∀ h, NoMinus (a h)) (hb : ∀ h, NoMinus (b h)) : NoMinus (dite c a b) := by
  split
  next h => exact ha h
  next h => exact hb h

theorem noMinus_roundWithAccuracy (mantissa : Nat) (exponent : Int) (accuracy : Accuracy) :
    NoMinus (roundWithAccuracy spec .positive mantissa exponent accuracy) := by
  unfold roundWithAccuracy
  exact noMinus_dite (fun _ => rfl) fun _ => rfl

theorem noMinus_mul (hx : NoMinus x) (hy : NoMinus y) : NoMinus (UnpackedFloat.mul spec x y) := by
  -- one case for each pair of kinds; only two finite numbers are rounded
  cases x <;> cases y <;> dsimp only [NoMinus] at hx hy <;> subst_vars <;> unfold UnpackedFloat.mul <;>
    first | trivial | rfl | exact noMinus_roundWithAccuracy _ _ _

theorem unpackSign_packComponents (sign : Sign) (exponent : BitVec spec.exponentBits)
    (mantissa : BitVec spec.mantissaBitsWithoutImplicit) :
    unpackSign (packComponents spec sign exponent mantissa) = sign.toBitVec := by
  ext i hi
  obtain rfl : i = 0 := by omega
  unfold unpackSign packComponents
  simp [BitVec.getLsbD_append, BitVec.getElem_append]

/-- Packing keeps the sign. -/
theorem unpackSign_pack (hx : NoMinus x) : unpackSign (UnpackedFloat.pack spec x) = 0#1 := by
  cases x with
  | notANumber => exact unpackSign_packComponents .positive _ _
  | infinity sign =>
      obtain rfl : sign = .positive := hx
      exact unpackSign_packComponents .positive _ _
  | zero sign =>
      obtain rfl : sign = .positive := hx
      exact unpackSign_packComponents .positive _ _
  | finite sign mantissa exponent hpos =>
      obtain rfl : sign = .positive := hx
      unfold UnpackedFloat.pack
      dsimp only
      -- out of range, normal or subnormal
      split
      · exact unpackSign_packComponents .positive _ _
      · split
        · exact unpackSign_packComponents .positive _ _
        · exact unpackSign_packComponents .positive _ _

/-- Unpacking keeps the sign. -/
theorem noMinus_unpack {b : BitVec spec.numBits} (h : unpackSign b = 0#1) :
    NoMinus (UnpackedFloat.unpack spec b) := by
  have hsign : Sign.ofBitVec (unpackSign b) = .positive := by
    rw [h]
    rfl
  unfold UnpackedFloat.unpack
  dsimp only
  rw [hsign]
  -- infinite or no number, zero or subnormal, normal
  refine iteInduction (motive := NoMinus) (fun _ => ?_) fun _ => ?_
  · exact iteInduction (motive := NoMinus) (fun _ => rfl) fun _ => trivial
  · refine iteInduction (motive := NoMinus) (fun _ => ?_) fun _ => rfl
    exact noMinus_dite (fun _ => rfl) fun _ => rfl

/-- What has no minus sign is not below zero. -/
theorem lt_zero_of_noMinus (hx : NoMinus x) (sign : Sign) : x.lt (.zero sign) = false := by
  cases x with
  | notANumber => rfl
  | infinity s =>
      obtain rfl : s = .positive := hx
      rfl
  | zero s => rfl
  | finite s m e hm =>
      obtain rfl : s = .positive := hx
      rfl

/-- What is not at most zero has no minus sign. -/
theorem noMinus_of_not_le_zero {sign : Sign} (h : x.le (.zero sign) = false) : NoMinus x := by
  cases x with
  | notANumber => trivial
  | infinity s =>
      cases s with
      | positive => rfl
      | negative => cases h
  | zero s => cases h
  | finite s m e hm =>
      cases s with
      | positive => rfl
      | negative => cases h

/-! ### Doubles -/

/-- Whether a double has no minus sign. -/
def Unsigned (x : Float) : Prop := NoMinus x.toModel.unpack

instance : DecidablePred Unsigned := fun _ => inferInstanceAs (Decidable (NoMinus _))

theorem unpack_zero : (0.0 : Float).toModel.unpack = .zero .positive := rfl

theorem lt_zero_iff (x : Float) : x < 0.0 ↔ x.toModel.unpack.lt (.zero .positive) = true := by
  rw [← unpack_zero]
  exact decide_eq_true_iff

theorem le_zero_iff (x : Float) : x ≤ 0.0 ↔ x.toModel.unpack.le (.zero .positive) = true := by
  rw [← unpack_zero]
  exact decide_eq_true_iff

variable {a b : Float}

theorem Unsigned.mul (ha : Unsigned a) (hb : Unsigned b) : Unsigned (a * b) := by
  have hproduct : NoMinus (UnpackedFloat.mul .binary64 a.toModel.unpack b.toModel.unpack) :=
    noMinus_mul ha hb
  exact noMinus_unpack (unpackSign_pack hproduct)

theorem Unsigned.not_lt_zero (ha : Unsigned a) : ¬ a < 0.0 := by
  rw [lt_zero_iff, lt_zero_of_noMinus ha]
  exact Bool.false_ne_true

theorem unsigned_of_not_le_zero (h : ¬ a ≤ 0.0) : Unsigned a := by
  rw [le_zero_iff, Bool.not_eq_true] at h
  exact noMinus_of_not_le_zero h

/-- What has no minus sign is rounded to an integer that is not negative. -/
theorem round_nonneg (ha : Unsigned a) {lo hi : Int} (hhi : 0 ≤ hi) : 0 ≤ round lo hi a := by
  have hmagnitude : withSignOf a (roundedMagnitude a) = roundedMagnitude a := if_neg ha.not_lt_zero
  rw [round, hmagnitude]
  unfold clampInt
  omega

/-- The nearest 64-bit integer to a number without a minus sign is not negative. -/
theorem roundToInt64_nonneg (ha : Unsigned a) : 0 ≤ (roundToInt64 a).toInt := by
  have hnonneg : 0 ≤ round Words.minInt64 Words.maxInt64 a := round_nonneg ha (by decide)
  have hlow : Words.minInt64 ≤ round Words.minInt64 Words.maxInt64 a := le_clampInt
  have hhigh : round Words.minInt64 Words.maxInt64 a ≤ Words.maxInt64 := clampInt_le (by decide)
  rw [roundToInt64, Int64.toInt_ofInt_of_le hlow (Int.lt_add_one_iff.mpr hhigh)]
  exact hnonneg

end Arcade.Real
