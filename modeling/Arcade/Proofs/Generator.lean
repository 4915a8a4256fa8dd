import Arcade.Generator
import Mathlib.Algebra.Group.Nat.Defs
import Mathlib.Logic.Function.Iterate
/-!
# Generators stay apart

Nothing is lost when a seed is mixed, and nothing when a generator is advanced. Each operation on
words that is made of a shift can be undone (`injective_xor_shiftRight`, `turnLeft_turnLeft`), as can
multiplying by an odd word. So `mix` tells seeds apart (`injective_mix`), and `retreat` finds the
generator before a draw.

A draw takes one word or none (`after_eq`), so that after some draws a generator has been advanced as
often as they have taken words (`afterAll_eq`). Generators of different seeds therefore never meet as
long as they have drawn equally many words, and the generator of two zero words, which would stay as
it is for ever, comes from no seed (`seeds_stay_apart`).
-/

namespace Arcade.Generator

/-! ### Operations on words that lose nothing -/

/-- A word is known from what it gives with its own higher bits: if two words gave the same, their
difference would be what a shift leaves of it. -/
theorem injective_xor_shiftRight {n : UInt64} (hpos : 0 < n.toNat % 64) :
    Function.Injective fun x : UInt64 => x ^^^ (x >>> n) := by
  intro x y h
  have hzero : (x ^^^ y) ^^^ ((x ^^^ y) >>> n) = 0 := by
    calc (x ^^^ y) ^^^ ((x ^^^ y) >>> n) = (x ^^^ (x >>> n)) ^^^ (y ^^^ (y >>> n)) := by
          rw [UInt64.shiftRight_xor]
          ac_rfl
      _ = 0 := UInt64.xor_eq_zero_iff.mpr h
  have hshifted : (x ^^^ y).toNat = (x ^^^ y).toNat / 2 ^ (n.toNat % 64) := by
    rw [← Nat.shiftRight_eq_div_pow, ← UInt64.toNat_shiftRight]
    exact congrArg UInt64.toNat (UInt64.xor_eq_zero_iff.mp hzero)
  -- a shift makes every word smaller but zero
  have hnone : (x ^^^ y).toNat = 0 := by
    by_contra hne
    have hless := Nat.div_lt_self (Nat.pos_of_ne_zero hne) (Nat.one_lt_two_pow (Nat.ne_of_gt hpos))
    omega
  exact UInt64.xor_eq_zero_iff.mp (UInt64.toNat_inj.mp hnone)

/-- A word is known from its product with one that has an inverse. -/
theorem injective_mul_right {c d : UInt64} (hunit : c * d = 1) :
    Function.Injective fun x : UInt64 => x * c := by
  intro x y h
  have hback : x * c * d = y * c * d := congrArg (· * d) h
  simpa only [UInt64.mul_assoc, hunit, UInt64.mul_one] using hback

theorem toBitVec_turnLeft (x : UInt64) {n : UInt64} (hpos : 0 < n.toNat) (hlt : n.toNat < 64) :
    (turnLeft x n).toBitVec = x.toBitVec.rotateLeft n.toNat := by
  have hleft : (n.toBitVec % 64).toNat = n.toNat % 64 := rfl
  have hright : ((64 - n).toBitVec % 64).toNat = 64 - n.toNat % 64 := by
    have hrest : (64 - n).toNat = 64 - n.toNat :=
      UInt64.toNat_sub_of_le _ _ (UInt64.le_iff_toNat_le.mpr (Nat.le_of_lt hlt))
    calc ((64 - n).toBitVec % 64).toNat = (64 - n).toNat % 64 := rfl
      _ = 64 - n.toNat % 64 := by omega
  rw [turnLeft, UInt64.toBitVec_or, UInt64.toBitVec_shiftLeft, UInt64.toBitVec_shiftRight,
    BitVec.shiftLeft_eq', BitVec.ushiftRight_eq', hleft, hright, BitVec.rotateLeft_def]

theorem rotateLeft_rotateLeft {width m n : Nat} (x : BitVec width) (hwhole : m + n = width) :
    (x.rotateLeft m).rotateLeft n = x := by
  apply BitVec.eq_of_getMsbD_eq
  intro i hi
  have hround : (m + (n + i) % width) % width = i := by
    rw [Nat.add_mod_mod, ← Nat.add_assoc, hwhole, Nat.add_mod_left, Nat.mod_eq_of_lt hi]
  have hwithin : (n + i) % width < width := Nat.mod_lt _ (Nat.zero_lt_of_lt hi)
  simp [BitVec.getMsbD_rotateLeft, hround, hwithin, hi]

/-- Two turns that make a whole one leave a word as it is. -/
theorem turnLeft_turnLeft (x : UInt64) {m n : UInt64} (hm : 0 < m.toNat) (hn : 0 < n.toNat)
    (hwhole : m.toNat + n.toNat = 64) : turnLeft (turnLeft x m) n = x := by
  apply UInt64.toBitVec_inj.mp
  rw [toBitVec_turnLeft _ hn (by omega), toBitVec_turnLeft _ hm (by omega),
    rotateLeft_rotateLeft _ hwhole]

/-- What is added twice is taken away. -/
theorem xor_twice (x y : UInt64) : x ^^^ y ^^^ y = x := by
  rw [UInt64.xor_assoc, UInt64.xor_self, UInt64.xor_zero]

theorem xor_xor_twice (x y z : UInt64) : x ^^^ y ^^^ z ^^^ y ^^^ z = x := by
  calc x ^^^ y ^^^ z ^^^ y ^^^ z = x ^^^ y ^^^ y ^^^ z ^^^ z := by ac_rfl
    _ = x := by rw [xor_twice, xor_twice]

/-! ### Mixing -/

/-- Mixing tells words apart. The two factors are odd, so that they have inverses. -/
theorem injective_mix : Function.Injective mix := by
  have h30 : Function.Injective fun x : UInt64 => x ^^^ (x >>> 30) :=
    injective_xor_shiftRight (by decide)
  have h27 : Function.Injective fun x : UInt64 => x ^^^ (x >>> 27) :=
    injective_xor_shiftRight (by decide)
  have h31 : Function.Injective fun x : UInt64 => x ^^^ (x >>> 31) :=
    injective_xor_shiftRight (by decide)
  have hfirst : Function.Injective fun x : UInt64 => x * 0xBF58476D1CE4E5B9 :=
    injective_mul_right (d := 0x96DE1B173F119089) (by decide)
  have hsecond : Function.Injective fun x : UInt64 => x * 0x94D049BB133111EB :=
    injective_mul_right (d := 0x319642B2D24D8EC3) (by decide)
  exact h31.comp (hsecond.comp (h27.comp (hfirst.comp h30)))

/-- The two words of a seed differ. -/
theorem words_ne (seed : UInt64) : mix (seed + gamma) ≠ mix (seed + gamma + gamma) := by
  intro h
  have hstill : seed + gamma = seed + gamma + gamma := injective_mix h
  have hzero : gamma = 0 := by simpa using hstill
  exact absurd hzero (by decide)

/-- A generator begins with the two words of its seed; they are not both zero. -/
theorem ofSeed_eq (seed : UInt64) :
    ofSeed seed = ⟨mix (seed + gamma), mix (seed + gamma + gamma)⟩ := by
  refine if_neg ?_
  rintro ⟨hfirst, hsecond⟩
  exact words_ne seed (hfirst.trans hsecond.symm)

theorem ofSeed_ne_zero (seed : UInt64) : ofSeed seed ≠ ⟨0, 0⟩ := by
  rw [ofSeed_eq]
  intro h
  obtain ⟨hfirst, hsecond⟩ := mk.inj h
  exact words_ne seed (hfirst.trans hsecond.symm)

/-- The first word alone tells seeds apart. -/
theorem injective_ofSeed : Function.Injective ofSeed := by
  intro s t h
  rw [ofSeed_eq, ofSeed_eq] at h
  exact (UInt64.add_left_inj gamma).mp (injective_mix (mk.inj h).1)

/-! ### Going back -/

/-- The generator before a draw. The second word is the sum of the two, turned; taken away from the first,
it leaves that alone. -/
def retreat (g : Generator) : Generator :=
  let t := turnLeft g.s1 27
  let s0 := turnLeft (g.s0 ^^^ t ^^^ (t <<< 16)) 40
  ⟨s0, t ^^^ s0⟩

theorem retreat_advance (g : Generator) : g.advance.retreat = g := by
  have hback : ∀ x, turnLeft (turnLeft x 24) 40 = x :=
    fun x => turnLeft_turnLeft x (by decide) (by decide) (by decide)
  have hback' : ∀ x, turnLeft (turnLeft x 37) 27 = x :=
    fun x => turnLeft_turnLeft x (by decide) (by decide) (by decide)
  simp only [retreat, advance, hback', xor_xor_twice, hback, xor_twice]

theorem advance_retreat (g : Generator) : g.retreat.advance = g := by
  have hback : ∀ x, turnLeft (turnLeft x 40) 24 = x :=
    fun x => turnLeft_turnLeft x (by decide) (by decide) (by decide)
  have hback' : ∀ x, turnLeft (turnLeft x 27) 37 = x :=
    fun x => turnLeft_turnLeft x (by decide) (by decide) (by decide)
  simp only [retreat, advance, xor_twice, hback, hback', xor_xor_twice]

theorem bijective_advance : Function.Bijective advance :=
  Function.bijective_iff_has_inverse.mpr ⟨retreat, retreat_advance, advance_retreat⟩

/-- Two zero words stay zero. -/
theorem advance_zero : advance ⟨0, 0⟩ = ⟨0, 0⟩ := by decide

/-! ### Draws -/

/-- What a generator may be asked for. -/
inductive Draw where
  | word
  | below (bound : UInt32)
  | between (lo hi : Int32)

/-- Whether a word is taken for a draw. None is below zero, and none between bounds of which the lower is
not less than the upper. -/
def Draw.takesWord : Draw → Bool
  | .word => true
  | .below bound => bound ≠ 0
  | .between lo hi => lo < hi

/-- The generator after a draw. -/
def after (g : Generator) : Draw → Generator
  | .word => g.next.2
  | .below bound => (g.below bound).2
  | .between lo hi => (g.between lo hi).2

/-- The generator after some draws. -/
def afterAll (g : Generator) (draws : List Draw) : Generator :=
  draws.foldl after g

theorem after_eq (g : Generator) (d : Draw) :
    g.after d = if d.takesWord then g.advance else g := by
  cases d with
  | word => rfl
  | below bound =>
      by_cases hbound : bound = 0 <;> simp [after, below, next, Draw.takesWord, hbound]
  | between lo hi =>
      by_cases hle : hi ≤ lo
      · simp [after, between, Draw.takesWord, hle, Int32.not_lt.mpr hle]
      · simp [after, between, next, Draw.takesWord, hle, Int32.not_le.mp hle]

/-- A generator is advanced as often as a word is taken. -/
theorem afterAll_eq (g : Generator) (draws : List Draw) :
    g.afterAll draws = advance^[draws.countP Draw.takesWord] g := by
  induction draws generalizing g with
  | nil => rfl
  | cons d draws ih =>
      have hstep : g.afterAll (d :: draws) = (g.after d).afterAll draws := rfl
      rw [hstep, ih, after_eq, List.countP_cons]
      cases d.takesWord <;> rfl

/-- **Seeds stay apart.** The two words of a seed differ, so that a generator begins with them and
never with the ones that stand for zeros. Generators of different seeds are different after draws that
have taken equally many words, whichever draws these are. A step of the generator is a bijection that
leaves two zero words as they are, and no draws bring the generator of a seed there. -/
theorem seeds_stay_apart :
    (∀ seed, mix (seed + gamma) ≠ mix (seed + gamma + gamma) ∧
      ofSeed seed = ⟨mix (seed + gamma), mix (seed + gamma + gamma)⟩) ∧
    (∀ s t, s ≠ t → ∀ ds es : List Draw, ds.countP Draw.takesWord = es.countP Draw.takesWord →
      (ofSeed s).afterAll ds ≠ (ofSeed t).afterAll es) ∧
    (∀ seed ds, (ofSeed seed).afterAll ds ≠ ⟨0, 0⟩) ∧
    Function.Bijective (fun g : Generator => g.next.2) ∧ (⟨0, 0⟩ : Generator).next.2 = ⟨0, 0⟩ := by
  have hiterate : ∀ n, Function.Injective advance^[n] := bijective_advance.injective.iterate
  refine ⟨fun seed => ⟨words_ne seed, ofSeed_eq seed⟩, fun s t hne ds es hsame => ?_,
    fun seed ds => ?_, bijective_advance, advance_zero⟩
  · rw [afterAll_eq, afterAll_eq, hsame]
    exact fun hmeet => hne (injective_ofSeed (hiterate _ hmeet))
  · -- zeros come from zeros, however many words have been taken
    rw [afterAll_eq, ← Function.iterate_fixed advance_zero (ds.countP Draw.takesWord)]
    exact fun hmeet => ofSeed_ne_zero seed (hiterate _ hmeet)

/-- Two neighbouring seeds after two words each, taken in different ways. -/
theorem seeds_stay_apart_of_neighbours :
    let ds : List Draw := [.word, .between (-3) 3]
    let es : List Draw := [.below 7, .below 0, .between 9 3, .word]
    (0 : UInt64) ≠ 1 ∧ ds.countP Draw.takesWord = es.countP Draw.takesWord ∧
      (ofSeed 0).afterAll ds ≠ (ofSeed 1).afterAll es := by
  intro ds es
  have hne : (0 : UInt64) ≠ 1 := by decide
  have hsame : ds.countP Draw.takesWord = es.countP Draw.takesWord := by decide
  exact ⟨hne, hsame, seeds_stay_apart.2.1 0 1 hne ds es hsame⟩

end Arcade.Generator
