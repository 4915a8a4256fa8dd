import Arcade.Digest.ContentHash
import Arcade.Text.Word
/-!
# Hash strings are accepted

Bytes written in hexadecimal are read back as they were (`Hex.decode?_encode`), and there is no white
space in the text to be trimmed. So the hash string that some bytes are given is one that is
accepted for them (`ContentHash.verify_ofBytes`). Digits can be in either case and stand for the bytes
of their lower-case text (`Hex.decode?_eq_some_iff`), and what is gathered from two digests of one length
is zero only where they are the same. So nothing else is accepted (`ContentHash.accepted_exactly`).
-/

namespace Arcade

/-! ### Hexadecimal texts -/

namespace Hex

theorem value?_digit {n : Nat} (h : n < 16) : value? (digit n) = some n :=
  (by decide : ∀ n < 16, value? (digit n) = some n) n h

theorem digit_not_blank {n : Nat} (h : n < 16) : Text.isBlank (digit n) = false :=
  (by decide : ∀ n < 16, Text.isBlank (digit n) = false) n h

theorem value?_asciiLower (c : Char) : value? (Text.asciiLower c) = value? c := by
  unfold value?
  grind [Text.toNat_asciiLower]

/-- The digit of a value is the character it was read from, unless that is in upper case. -/
theorem digit_of_value? {c : Char} {n : Nat} (h : value? c = some n)
    (hcase : ¬(65 ≤ c.toNat ∧ c.toNat ≤ 90)) : n < 16 ∧ c = digit n := by
  unfold value? at h
  dsimp only at h
  split at h
  next hdigit =>
    obtain rfl := Option.some.inj h
    refine ⟨by omega, ?_⟩
    rw [digit, if_pos (by omega), Nat.add_sub_cancel' hdigit.1, Char.ofNat_toNat]
  split at h
  next hletter =>
    obtain rfl := Option.some.inj h
    refine ⟨by omega, ?_⟩
    rw [digit, if_neg (by omega), Nat.add_sub_cancel' (by omega), Char.ofNat_toNat]
  split at h
  next hupper => omega
  · cases h

/-- A digit has its value in either case. -/
theorem value?_eq_some_iff {c : Char} {n : Nat} :
    value? c = some n ↔ n < 16 ∧ Text.asciiLower c = digit n := by
  constructor
  · intro h
    rw [← value?_asciiLower] at h
    refine digit_of_value? h ?_
    rw [Text.toNat_asciiLower]
    split <;> omega
  · rintro ⟨hn, hc⟩
    rw [← value?_asciiLower, hc, value?_digit hn]

theorem high_lt (b : UInt8) : b.toNat / 16 < 16 := by
  have hbyte := b.toNat_lt
  omega

theorem low_lt (b : UInt8) : b.toNat % 16 < 16 := Nat.mod_lt _ (by decide)

theorem decodeChars?_encodeChars (b : Bytes) : decodeChars? (encodeChars b) = some b := by
  induction b with
  | nil => rfl
  | cons byte rest ih =>
      have hbyte : UInt8.ofNat (16 * (byte.toNat / 16) + byte.toNat % 16) = byte := by
        rw [Nat.div_add_mod, UInt8.ofNat_toNat]
      simp only [encodeChars, decodeChars?, value?_digit (high_lt byte), value?_digit (low_lt byte), ih,
        Option.bind_eq_bind, Option.bind_some, hbyte]

/-- Bytes are what their digits stand for. -/
theorem decode?_encode (b : Bytes) : decode? (encode b) = some b := by
  rw [decode?, encode, String.toList_ofList, decodeChars?_encodeChars]

theorem decodeChars?_eq_some_iff {cs : List Char} {b : Bytes} :
    decodeChars? cs = some b ↔ cs.map Text.asciiLower = encodeChars b := by
  induction cs using decodeChars?.induct generalizing b with
  | case1 =>
      cases b with
      | nil => simp [decodeChars?, encodeChars]
      | cons byte b => simp [decodeChars?, encodeChars]
  | case2 hi lo rest ih =>
      cases b with
      | nil => simp [decodeChars?, encodeChars, Option.bind_eq_some_iff]
      | cons byte b =>
          simp only [decodeChars?, encodeChars, Option.bind_eq_bind, Option.bind_eq_some_iff, ih,
            value?_eq_some_iff, List.map_cons, List.cons.injEq, Option.some.injEq]
          constructor
          · rintro ⟨high, ⟨hhigh, hhi⟩, low, ⟨hlow, hlo⟩, _, hrest, hbyte, rfl⟩
            have hvalue : byte.toNat = 16 * high + low := by
              rw [← hbyte, UInt8.toNat_ofNat']
              omega
            rw [hhi, hlo, show byte.toNat / 16 = high by omega, show byte.toNat % 16 = low by omega]
            exact ⟨rfl, rfl, hrest⟩
          · rintro ⟨hhi, hlo, hrest⟩
            refine ⟨_, ⟨high_lt byte, hhi⟩, _, ⟨low_lt byte, hlo⟩, _, hrest, ?_, rfl⟩
            rw [Nat.div_add_mod, UInt8.ofNat_toNat]
  | case3 c =>
      cases b <;> simp [decodeChars?, encodeChars]

/-- Digits stand for some bytes if they are those of the bytes, in either case. -/
theorem decode?_eq_some_iff {s : String} {b : Bytes} :
    decode? s = some b ↔ Text.asciiLowerText s = encode b := by
  rw [decode?, decodeChars?_eq_some_iff, Text.asciiLowerText, encode, String.ofList_inj]

/-- Whether a character is a digit, of either case. -/
def isDigit (c : Char) : Bool :=
  ('0' ≤ c && c ≤ '9') || ('a' ≤ c && c ≤ 'f') || ('A' ≤ c && c ≤ 'F')

/-- The digits are the characters that have a value. -/
theorem isDigit_of_value? {c : Char} {n : Nat} (h : value? c = some n) : isDigit c = true := by
  unfold value? at h
  dsimp only at h
  simp only [isDigit, Bool.or_eq_true, Bool.and_eq_true, decide_eq_true_eq]
  split at h
  next hdigit => exact Or.inl (Or.inl hdigit)
  split at h
  next hlower => exact Or.inl (Or.inr hlower)
  split at h
  next hupper => exact Or.inr hupper
  next => cases h

theorem length_encodeChars (b : Bytes) : (encodeChars b).length = 2 * b.length := by
  induction b with
  | nil => rfl
  | cons byte rest ih =>
      rw [encodeChars, List.length_cons, List.length_cons, ih, List.length_cons]
      omega

theorem exists_digit_of_mem {b : Bytes} {c : Char} (h : c ∈ encodeChars b) :
    ∃ n < 16, c = digit n := by
  induction b with
  | nil => cases h
  | cons byte rest ih =>
      rcases List.mem_cons.mp h with rfl | h
      · exact ⟨_, high_lt byte, rfl⟩
      · rcases List.mem_cons.mp h with rfl | h
        · exact ⟨_, low_lt byte, rfl⟩
        · exact ih h

theorem encode_not_blank (b : Bytes) : ∀ c ∈ (encode b).toList, Text.isBlank c = false := by
  intro c hc
  rw [encode, String.toList_ofList] at hc
  obtain ⟨n, hn, rfl⟩ := exists_digit_of_mem hc
  exact digit_not_blank hn

/-- A text that stands for some bytes has two digits for each of them, and nothing else. -/
theorem digits_of_asciiLowerText {s : String} {b : Bytes} (h : Text.asciiLowerText s = encode b) :
    s.toList.length = 2 * b.length ∧ ∀ c ∈ s.toList, isDigit c = true := by
  rw [Text.asciiLowerText, encode, String.ofList_inj] at h
  constructor
  · rw [← List.length_map Text.asciiLower, h, length_encodeChars]
  · intro c hc
    have hlower : Text.asciiLower c ∈ encodeChars b := h ▸ List.mem_map_of_mem hc
    obtain ⟨n, hn, hdigit⟩ := exists_digit_of_mem hlower
    exact isDigit_of_value? (value?_eq_some_iff.mpr ⟨hn, hdigit⟩)

theorem encode_inj {a b : Bytes} : encode a = encode b ↔ a = b := by
  constructor
  · intro h
    have hread := decode?_encode a
    rw [h, decode?_encode] at hread
    exact (Option.some.inj hread).symm
  · rintro rfl
    rfl

end Hex

namespace ContentHash

theorem difference_self (b : Bytes) : difference b b = 0 := by
  unfold difference
  induction b with
  | nil => rfl
  | cons byte rest ih =>
      rw [List.zip_cons_cons, List.foldl_cons, UInt8.xor_self, UInt8.or_zero]
      exact ih

/-- The hash string of some bytes is accepted for them. -/
theorem verify_ofBytes (b : Bytes) : verify b (ofBytes b) = true := by
  have htrim : Text.trim (ofBytes b) = ofBytes b := Text.trim_of_not_blank (Hex.encode_not_blank _)
  have hread : Hex.decode? (ofBytes b) = some (Sha256.digest b) := Hex.decode?_encode _
  unfold verify
  rw [htrim, hread]
  simp [difference_self]

/-- What is gathered stays zero only as long as the bytes are the same. -/
theorem foldl_difference_eq_zero_iff {a b : Bytes} (h : a.length = b.length) (acc : UInt8) :
    (a.zip b).foldl (fun acc p => acc ||| (p.1 ^^^ p.2)) acc = 0 ↔ acc = 0 ∧ a = b := by
  induction a generalizing b acc with
  | nil =>
      obtain rfl := List.length_eq_zero_iff.mp h.symm
      simp
  | cons x a ih =>
      cases b with
      | nil => cases h
      | cons y b =>
          rw [List.zip_cons_cons, List.foldl_cons, ih (Nat.succ.inj h)]
          simp [UInt8.or_eq_zero_iff, and_assoc]

theorem difference_eq_zero_iff {a b : Bytes} (h : a.length = b.length) :
    difference a b = 0 ↔ a = b := by
  simpa [difference] using foldl_difference_eq_zero_iff h 0

/-- A hash string is accepted for some bytes if it is theirs, in either case and with white space
around it. -/
theorem verify_iff {b : Bytes} {hash : String} :
    verify b hash = true ↔ Text.asciiLowerText (Text.trim hash) = ofBytes b := by
  rw [ofBytes, ← Hex.decode?_eq_some_iff, verify]
  cases hread : Hex.decode? (Text.trim hash) with
  | none => simp
  | some expected =>
      rw [Bool.and_eq_true, beq_iff_eq, beq_iff_eq, Option.some.injEq]
      constructor
      · rintro ⟨hlength, hsame⟩
        exact ((difference_eq_zero_iff (by simp [hlength])).mp hsame).symm
      · rintro rfl
        exact ⟨Sha256.length_digest b, difference_self _⟩

/-- **A hash string is accepted for the bytes it belongs to, and for no others.** White space around it aside,
it consists of the 64 digits of their hash, each in either case. The hash string that some bytes are given is
accepted for them, and one that is accepted for some bytes is so for just those with the same hash. -/
theorem accepted_exactly (b : Bytes) (hash : String) :
    (verify b hash = true ↔ (Text.trim hash).toList.length = 64 ∧
      (∀ c ∈ (Text.trim hash).toList, Hex.isDigit c = true) ∧
      Text.asciiLowerText (Text.trim hash) = ofBytes b) ∧
    verify b (ofBytes b) = true ∧
    (verify b hash = true →
      ∀ b', verify b' hash = true ↔ Sha256.digest b' = Sha256.digest b) := by
  refine ⟨?_, verify_ofBytes b, fun haccepted b' => ?_⟩
  · rw [verify_iff]
    constructor
    · intro hlower
      obtain ⟨hlength, hdigits⟩ := Hex.digits_of_asciiLowerText hlower
      rw [Sha256.length_digest] at hlength
      exact ⟨hlength, hdigits, hlower⟩
    · exact fun h => h.2.2
  · rw [verify_iff, verify_iff.mp haccepted, ofBytes, ofBytes, Hex.encode_inj, eq_comm]

/-- The hash string of three letters in upper case, between blanks, is not that of two of them. -/
theorem accepted_exactly_of_abc :
    let hash := "\tBA7816BF8F01CFEA414140DE5DAE2223B00361A396177A9CB410FF61F20015AD\u00a0"
    verify [97, 98, 99] hash = true ∧
      (verify [97, 98] hash = true ↔ Sha256.digest [97, 98] = Sha256.digest [97, 98, 99]) := by
  intro hash
  have haccepted : verify [97, 98, 99] hash = true := by decide +kernel
  exact ⟨haccepted, (accepted_exactly [97, 98, 99] hash).2.2 haccepted [97, 98]⟩

end ContentHash

end Arcade
