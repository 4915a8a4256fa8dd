import Arcade.Json.Printer
import Arcade.Proofs.Json.Decoding
/-!
# Documents that read back as they were written

A document without doubles, whose integers fit 64 bits and whose nesting is not too deep (`Plain`), is
read back from its own text: `readsBack_of_plain`. Doubles are left out, for their texts are the
shortest ones that a reader of full precision needs, and this reader rounds twice.

The proof follows the reader. Numbers and texts are tokens that end where the writer ends them
(`readNumber_int`, `readString_quoted`); lists and objects are by induction on the document, with two
units of the reader's counter for every character (`reads`).
-/

namespace Arcade.Json

/-- The text of a document is read as that document, and nothing follows it. -/
def ReadsBack (j : Json) : Prop := read j.text = ⟨.ofJson j, true⟩

/-- What may follow a value inside a document that is written without blanks. -/
def Ended (rest : List Char) : Prop :=
  rest = [] ∨ ∃ c more, rest = c :: more ∧ (c = ',' ∨ c = ']' ∨ c = '\x7d')

/-! ### Numbers -/

theorem digitValue?_of_isDigit {c : Char} (h : c.isDigit = true) :
    digitValue? c = some (c.toNat - 48) := by
  have hbounds : '0' ≤ c ∧ c ≤ '9' := by
    simpa [Char.isDigit, Char.le_def] using h
  rw [digitValue?, if_pos hbounds]

theorem digitValue?_of_ended {c : Char} {more : List Char} (h : Ended (c :: more)) :
    digitValue? c = none := by
  rcases h with h | ⟨d, more', h, hd⟩
  · cases h
  · obtain ⟨rfl, rfl⟩ := List.cons.inj h
    rcases hd with rfl | rfl | rfl <;> decide

theorem le_ofDigitChars (digits : List Char) (word : Nat) :
    word ≤ Nat.ofDigitChars 10 digits word := by
  induction digits generalizing word with
  | nil => exact Nat.le_refl word
  | cons d rest ih => exact Nat.le_trans (by omega) (ih (10 * word + (d.toNat - '0'.toNat)))

/-- Digits are gathered to their end, as long as their number fits. -/
theorem takeDigits_append {digits rest : List Char} (hdigits : ∀ c ∈ digits, c.isDigit = true)
    (hrest : Ended rest) {word : Nat} (hfits : Nat.ofDigitChars 10 digits word ≤ Words.max64)
    (count : Nat) : takeDigits word count (digits ++ rest)
      = (Nat.ofDigitChars 10 digits word, count + digits.length, rest) := by
  induction digits generalizing word count with
  | nil =>
      cases rest with
      | nil => rfl
      | cons c more => simp [takeDigits, digitValue?_of_ended hrest, Nat.ofDigitChars]
  | cons d ds ih =>
      have hd : digitValue? d = some (d.toNat - 48) :=
        digitValue?_of_isDigit (hdigits d List.mem_cons_self)
      have hvalue : Nat.ofDigitChars 10 (d :: ds) word
          = Nat.ofDigitChars 10 ds (word * 10 + (d.toNat - 48)) := by
        rw [Nat.mul_comm]
        rfl
      rw [hvalue] at hfits ⊢
      have hroom : word * 10 + (d.toNat - 48) ≤ Words.max64 :=
        Nat.le_trans (le_ofDigitChars ds _) hfits
      rw [List.cons_append, takeDigits]
      simp only [hd, if_pos hroom]
      rw [ih (fun c hc => hdigits c (List.mem_cons_of_mem d hc)) hfits, List.length_cons]
      simp only [Nat.add_assoc, Nat.add_comm 1]

theorem skipDigits_of_ended {rest : List Char} (h : Ended rest) : skipDigits rest = (0, rest) := by
  cases rest with
  | nil => rfl
  | cons c more => simp [skipDigits, digitValue?_of_ended h]

/-- The digits of a positive number do not begin with a zero. -/
theorem toDigits_of_pos {n : Nat} (h : 0 < n) :
    ∃ d ds, Nat.toDigits 10 n = d :: ds ∧ d ≠ '0' := by
  induction n using Nat.strongRecOn with
  | _ n ih =>
      by_cases hn : n < 10
      · refine ⟨n.digitChar, [], Nat.toDigits_of_lt_base hn, ?_⟩
        have hsmall : ∀ m < 10, 0 < m → Nat.digitChar m ≠ '0' := by decide
        exact hsmall n hn h
      · obtain ⟨d, ds, hd, hne⟩ := ih (n / 10) (by omega) (by omega)
        have hsplit : Nat.toDigits 10 n = Nat.toDigits 10 (n / 10) ++ Nat.toDigits 10 (n % 10) := by
          rw [Nat.toDigits_append_toDigits (by omega) (by omega) (Nat.mod_lt n (by omega)),
            Nat.div_add_mod]
        exact ⟨d, ds ++ Nat.toDigits 10 (n % 10), by rw [hsplit, hd]; rfl, hne⟩

theorem readMagnitude_toDigits {n : Nat} (hn : n ≤ Words.max64) {rest : List Char}
    (hrest : Ended rest) (negative : Bool) :
    readMagnitude negative (Nat.toDigits 10 n ++ rest)
      = some (some (plainNumber negative n), rest) := by
  rcases Nat.eq_zero_or_pos n with rfl | hpos
  · rcases hrest with rfl | ⟨c, more, rfl, rfl | rfl | rfl⟩ <;> rfl
  · obtain ⟨d, ds, hd, hne⟩ := toDigits_of_pos hpos
    have hvalue : Nat.ofDigitChars 10 (Nat.toDigits 10 n) 0 = n :=
      Nat.ofDigitChars_toDigits (by omega) (by omega)
    have hdigits : ∀ c ∈ Nat.toDigits 10 n, c.isDigit = true := fun c hc =>
      Nat.isDigit_of_mem_toDigits (by omega) (by omega) hc
    have hfits : Nat.ofDigitChars 10 (Nat.toDigits 10 n) 0 ≤ Words.max64 := by rwa [hvalue]
    have htaken := takeDigits_append hdigits hrest hfits 0
    rw [hvalue, hd, List.length_cons] at htaken
    rw [hd]
    unfold readMagnitude
    split
    · next heq => exact absurd (List.cons.inj heq).1 hne
    · rw [htaken]
      simp only [skipDigits_of_ended hrest]
      rcases hrest with rfl | ⟨c, more, rfl, rfl | rfl | rfl⟩ <;> simp

theorem toList_int (n : Int) : (numberText (.int n)).toList =
    if n < 0 then '-' :: Nat.toDigits 10 n.natAbs else Nat.toDigits 10 n.natAbs := by
  cases n with
  | ofNat m =>
      have hnot : ¬ (Int.ofNat m < 0) := by simp
      rw [if_neg hnot]
      show (Nat.repr m).toList = _
      rw [Nat.repr_eq_ofList_toDigits, String.toList_ofList]
      rfl
  | negSucc m =>
      rw [if_pos (Int.negSucc_lt_zero m)]
      show ("-" ++ Nat.repr (m + 1)).toList = _
      rw [String.toList_append, Nat.repr_eq_ofList_toDigits]
      simp only [String.toList_ofList]
      rfl

/-- An integer of 64 bits, with a sign or without, is read as it was written. -/
theorem readNumber_int {n : Int} (hlo : Words.minInt64 ≤ n) (hhi : n ≤ Words.max64)
    {rest : List Char} (hrest : Ended rest) :
    readNumber ((numberText (.int n)).toList ++ rest) = some (some (.int n), rest) := by
  have hfits : n.natAbs ≤ Words.max64 := by
    simp only [Words.minInt64, Words.max64] at *
    omega
  rw [toList_int]
  by_cases hneg : n < 0
  · have hnonzero : n.natAbs ≠ 0 := by omega
    have hsigned : -(n.natAbs : Int) = n := by omega
    rw [if_pos hneg, List.cons_append, readNumber, readMagnitude_toDigits hfits hrest, plainNumber,
      hsigned]
    simp [hnonzero, Int.not_lt.mpr hlo]
  · have hunsigned : (n.natAbs : Int) = n := by omega
    rw [if_neg hneg]
    have hdigits := readMagnitude_toDigits hfits hrest false
    rw [plainNumber, hunsigned] at hdigits
    unfold readNumber
    split
    · next rest' heq =>
        -- no digit is a minus sign
        exfalso
        have hhead : '-' ∈ Nat.toDigits 10 n.natAbs := by
          have hne : Nat.toDigits 10 n.natAbs ≠ [] := by
            rcases Nat.eq_zero_or_pos n.natAbs with h0 | hpos
            · rw [h0]
              decide
            · obtain ⟨d, ds, hd, -⟩ := toDigits_of_pos hpos
              simp [hd]
          obtain ⟨d, ds, hd⟩ := List.exists_cons_of_ne_nil hne
          rw [hd] at heq ⊢
          rw [(List.cons.inj heq).1]
          exact List.mem_cons_self
        have hdigit := Nat.isDigit_of_mem_toDigits (by omega) (by omega) hhead
        exact absurd hdigit (by decide)
    · exact hdigits

/-! ### Texts -/

theorem readUnit?_unitDigits {n : Nat} (hn : n < 0x20) (rest : List Char) :
    readUnit? (unitDigits n ++ rest) = some (n, rest) := by
  have hdigits : ∀ m < 0x20, ∃ a b c d, unitDigits m = [a, b, c, d] ∧
      ∃ w x y z, hexValue? a = some w ∧ hexValue? b = some x ∧ hexValue? c = some y ∧
        hexValue? d = some z ∧ 4096 * w + 256 * x + 16 * y + z = m := by
    intro m hm
    refine ⟨_, _, _, _, rfl, 0, 0, m / 16, m % 16, ?_⟩
    revert m
    decide
  obtain ⟨a, b, c, d, hunit, w, x, y, z, hw, hx, hy, hz, hn⟩ := hdigits n hn
  simp [hunit, readUnit?, hw, hx, hy, hz, hn]

/-- A character is read from what is written for it, in one step. -/
theorem readText_escape (c : Char) (fuel : Nat) (done rest : List Char) :
    readText (fuel + 1) true done (escape c ++ rest) = readText fuel true (c :: done) rest := by
  unfold escape
  split
  · next h =>
    obtain rfl : c = '"' := by simpa using h
    rfl
  split
  · next h =>
    obtain rfl : c = '\\' := by simpa using h
    rfl
  split
  · next h =>
    obtain rfl : c = '\n' := by simpa using h
    rfl
  split
  · next h =>
    obtain rfl : c = '\r' := by simpa using h
    rfl
  split
  · next h =>
    obtain rfl : c = '\t' := by simpa using h
    rfl
  split
  · next h =>
    obtain rfl : c = Char.ofNat 8 := by rw [← h, Char.ofNat_toNat]
    rfl
  split
  · next h =>
    obtain rfl : c = Char.ofNat 12 := by rw [← h, Char.ofNat_toNat]
    rfl
  split
  · next h =>
    have hplain : ¬ (0xD800 ≤ c.toNat ∧ c.toNat ≤ 0xDBFF) ∧
        ¬ (0xDC00 ≤ c.toNat ∧ c.toNat ≤ 0xDFFF) := by omega
    simp only [List.cons_append, List.nil_append]
    rw [readText]
    simp [readUnit?_unitDigits h, hplain.1, hplain.2, Char.ofNat_toNat]
  · next hquote hslash _ _ _ _ _ hcontrol =>
    have hq : c ≠ '"' := by simpa using hquote
    have hs : c ≠ '\\' := by simpa using hslash
    rw [List.cons_append, List.nil_append, readText.eq_def]
    simp only [if_neg hq, if_neg hs, if_neg hcontrol]

theorem length_escape_pos (c : Char) : 0 < (escape c).length := by
  unfold escape
  repeat' split
  all_goals simp

theorem readText_flatMap (chars : List Char) {fuel : Nat} (done rest : List Char)
    (hfuel : chars.length < fuel) :
    readText fuel true done (chars.flatMap escape ++ '"' :: rest)
      = some (some (String.ofList (done.reverse ++ chars)), rest) := by
  induction chars generalizing fuel done with
  | nil =>
      cases fuel with
      | zero => cases hfuel
      | succ n => simp [readText]
  | cons c cs ih =>
      cases fuel with
      | zero => cases hfuel
      | succ n =>
          rw [List.flatMap_cons, List.append_assoc, readText_escape,
            ih (c :: done) (Nat.lt_of_succ_lt_succ hfuel)]
          simp

theorem toList_quoted (s : String) :
    (quoted s).toList = '"' :: (s.toList.flatMap escape ++ ['"']) := by
  rw [quoted, String.toList_ofList]
  rfl

theorem length_le_flatMap_escape (chars : List Char) :
    chars.length ≤ (chars.flatMap escape).length := by
  induction chars with
  | nil => exact Nat.le_refl 0
  | cons c cs ih =>
      have hpos := length_escape_pos c
      rw [List.flatMap_cons, List.length_append, List.length_cons]
      omega

/-- A text is read as it was written, after its opening quote. -/
theorem readString_quoted (s : String) (rest : List Char) :
    readString (s.toList.flatMap escape ++ '"' :: rest) = some (some s, rest) := by
  have hlength := length_le_flatMap_escape s.toList
  rw [readString, readText_flatMap s.toList [] rest (by rw [List.length_append]; omega)]
  simp [String.ofList_toList]

/-! ### Values -/

mutual

/-- A document without doubles, whose integers fit 64 bits and which is nested at most so deep. -/
def Plain (depth : Nat) : Json → Prop
  | .num (.int n) => Words.minInt64 ≤ n ∧ n ≤ Words.max64
  | .num (.real _) => False
  | .arr items => 0 < depth ∧ PlainItems (depth - 1) items
  | .obj fields => 0 < depth ∧ PlainFields (depth - 1) fields
  | _ => True

/-- `Plain` of every item. -/
def PlainItems (depth : Nat) : List Json → Prop
  | [] => True
  | j :: rest => Plain depth j ∧ PlainItems depth rest

/-- `Plain` of the value of every field. -/
def PlainFields (depth : Nat) : List (String × Json) → Prop
  | [] => True
  | (_, j) :: rest => Plain depth j ∧ PlainFields depth rest

end

mutual

instance decidablePlain (depth : Nat) : ∀ j : Json, Decidable (Plain depth j)
  | .null => .isTrue trivial
  | .bool _ => .isTrue trivial
  | .num (.int n) => inferInstanceAs (Decidable (Words.minInt64 ≤ n ∧ n ≤ Words.max64))
  | .num (.real _) => .isFalse id
  | .str _ => .isTrue trivial
  | .arr items =>
    have := decidablePlainItems (depth - 1) items
    inferInstanceAs (Decidable (0 < depth ∧ PlainItems (depth - 1) items))
  | .obj fields =>
    have := decidablePlainFields (depth - 1) fields
    inferInstanceAs (Decidable (0 < depth ∧ PlainFields (depth - 1) fields))

instance decidablePlainItems (depth : Nat) : ∀ items : List Json, Decidable (PlainItems depth items)
  | [] => .isTrue trivial
  | j :: rest =>
    have := decidablePlain depth j
    have := decidablePlainItems depth rest
    inferInstanceAs (Decidable (Plain depth j ∧ PlainItems depth rest))

instance decidablePlainFields (depth : Nat) :
    ∀ fields : List (String × Json), Decidable (PlainFields depth fields)
  | [] => .isTrue trivial
  | (_, j) :: rest =>
    have := decidablePlain depth j
    have := decidablePlainFields depth rest
    inferInstanceAs (Decidable (Plain depth j ∧ PlainFields depth rest))

end

/-- How a value may begin: with no blank, and with no closing bracket. -/
def Opens (c : Char) : Prop := isSpace c = false ∧ c ≠ ']'

theorem skipSpace_of_opens {c : Char} (h : Opens c) (cs : List Char) :
    skipSpace (c :: cs) = c :: cs := by
  rw [skipSpace, List.dropWhile_cons, h.1]
  rfl

theorem opens_of_isDigit {c : Char} (h : c.isDigit = true) : Opens c := by
  constructor
  · cases hspace : isSpace c with
    | false => rfl
    | true =>
        simp only [isSpace, Bool.or_eq_true, beq_iff_eq] at hspace
        rcases hspace with ((rfl | rfl) | rfl) | rfl <;> revert h <;> decide
  · rintro rfl
    revert h
    decide

/-- A number begins with a digit or a sign. -/
theorem numberText_cons (n : Int) : ∃ c cs, (numberText (.int n)).toList = c :: cs ∧
    (c.isDigit = true ∨ c = '-') := by
  rw [toList_int]
  have hdigits : ∃ d ds, Nat.toDigits 10 n.natAbs = d :: ds ∧ d.isDigit = true := by
    rcases Nat.eq_zero_or_pos n.natAbs with h0 | hpos
    · exact ⟨'0', [], by rw [h0]; rfl, by decide⟩
    · obtain ⟨d, ds, hd, -⟩ := toDigits_of_pos hpos
      have hmem : d ∈ Nat.toDigits 10 n.natAbs := by
        rw [hd]
        exact List.mem_cons_self
      exact ⟨d, ds, hd, Nat.isDigit_of_mem_toDigits (by omega) (by omega) hmem⟩
  obtain ⟨d, ds, hd, hdigit⟩ := hdigits
  split
  · exact ⟨'-', _, rfl, Or.inr rfl⟩
  · exact ⟨d, ds, hd, Or.inl hdigit⟩

theorem text_cons {depth : Nat} {j : Json} (h : Plain depth j) :
    ∃ c cs, j.text.toList = c :: cs ∧ Opens c := by
  cases j with
  | null => exact ⟨'n', _, rfl, by decide, by decide⟩
  | bool b => cases b <;> exact ⟨_, _, rfl, by decide, by decide⟩
  | num n =>
      cases n with
      | real x => exact absurd h (by simp [Plain])
      | int n =>
          obtain ⟨c, cs, hcs, hc | rfl⟩ := numberText_cons n
          · exact ⟨c, cs, hcs, opens_of_isDigit hc⟩
          · exact ⟨'-', cs, hcs, by decide, by decide⟩
  | str s => exact ⟨'"', _, toList_quoted s, by decide, by decide⟩
  | arr items => exact ⟨'[', _, by rw [text, String.toList_append, String.toList_append]; rfl,
      by decide, by decide⟩
  | obj fields => exact ⟨'\x7b', _, by rw [text, String.toList_append, String.toList_append]; rfl,
      by decide, by decide⟩

/-- A value that begins like a number is read as one. -/
theorem readValue_number {c : Char} (hc : c.isDigit = true ∨ c = '-') (fuel depth : Nat)
    (cs : List Char) :
    readValue (fuel + 1) depth (c :: cs) = ofToken .num (readNumber (c :: cs)) := by
  have hopens : Opens c := by
    rcases hc with hc | rfl
    · exact opens_of_isDigit hc
    · exact ⟨by decide, by decide⟩
  rw [readValue, skipSpace_of_opens hopens]
  split
  case h_8 => rfl
  case h_1 heq => cases heq
  all_goals
    next heq =>
      obtain ⟨rfl, -⟩ := List.cons.inj heq
      exact absurd hc (by decide)

theorem readValue_bracket (fuel depth : Nat) (cs : List Char) :
    readValue (fuel + 1) depth ('[' :: cs) =
      match skipSpace cs with
      | ']' :: after => (within depth (.arr [] .closed), some after)
      | _ =>
        let read := readItems fuel (depth - 1) cs
        (within depth (.arr read.1 read.2.1), read.2.2) := rfl

/-- A list with items is read item by item. -/
theorem readValue_arr {c : Char} (hc : Opens c) (fuel depth : Nat) (cs : List Char) :
    readValue (fuel + 1) depth ('[' :: c :: cs) =
      let read := readItems fuel (depth - 1) (c :: cs)
      (within depth (.arr read.1 read.2.1), read.2.2) := by
  rw [readValue_bracket, skipSpace_of_opens hc]
  split
  · next heq => exact absurd (List.cons.inj heq).1 hc.2
  · rfl

/-- An object with fields is read field by field. -/
theorem readValue_obj (fuel depth : Nat) (cs : List Char) :
    readValue (fuel + 1) depth ('\x7b' :: '"' :: cs) =
      let read := readFields fuel (depth - 1) ('"' :: cs)
      (within depth (.obj read.1 read.2.1), read.2.2) := rfl

theorem within_of_pos {depth : Nat} (h : 0 < depth) (r : Reading) : within depth r = r :=
  if_neg (Nat.pos_iff_ne_zero.mp h)

theorem toList_arr (items : List Json) (rest : List Char) : (Json.arr items).text.toList ++ rest
    = '[' :: ((itemsText items).toList ++ ']' :: rest) := by
  rw [text, String.toList_append, String.toList_append, List.append_assoc, List.append_assoc]
  rfl

theorem toList_obj (fields : List (String × Json)) (rest : List Char) :
    (Json.obj fields).text.toList ++ rest
      = '\x7b' :: ((fieldsText fields).toList ++ '\x7d' :: rest) := by
  rw [text, String.toList_append, String.toList_append, List.append_assoc, List.append_assoc]
  rfl

theorem toList_items (j k : Json) (more : List Json) : (itemsText (j :: k :: more)).toList
    = j.text.toList ++ ',' :: (itemsText (k :: more)).toList := by
  rw [itemsText, String.toList_append, String.toList_append, List.append_assoc]
  · rfl
  · exact fun h => nomatch h

theorem toList_field (key : String) (j : Json) (rest : List Char) :
    (fieldsText [(key, j)]).toList ++ rest
      = '"' :: (key.toList.flatMap escape ++ '"' :: ':' :: (j.text.toList ++ rest)) := by
  rw [fieldsText, String.toList_append, String.toList_append, toList_quoted]
  simp

theorem toList_fields (key : String) (j : Json) (e : String × Json) (more : List (String × Json))
    (rest : List Char) : (fieldsText ((key, j) :: e :: more)).toList ++ rest
      = '"' :: (key.toList.flatMap escape
          ++ '"' :: ':' :: (j.text.toList ++ ',' :: ((fieldsText (e :: more)).toList ++ rest))) := by
  rw [fieldsText, String.toList_append, String.toList_append, String.toList_append,
    String.toList_append, toList_quoted]
  · simp
  · exact fun h => nomatch h

/-- What follows an item or a field that is not the last. -/
theorem ended_comma (rest : List Char) : Ended (',' :: rest) :=
  Or.inr ⟨',', rest, rfl, Or.inl rfl⟩

theorem ended_bracket (rest : List Char) : Ended (']' :: rest) :=
  Or.inr ⟨']', rest, rfl, Or.inr (Or.inl rfl)⟩

theorem ended_brace (rest : List Char) : Ended ('\x7d' :: rest) :=
  Or.inr ⟨'\x7d', rest, rfl, Or.inr (Or.inr rfl)⟩

/-- Every value is read from its text with so much on the counter: two units for a character. -/
def ReadsValues (fuel : Nat) : Prop :=
  ∀ {j : Json} {depth : Nat} (rest : List Char), Plain depth j → Ended rest →
    2 * j.text.toList.length ≤ fuel →
    readValue fuel depth (j.text.toList ++ rest) = (.ofJson j, some rest)

/-- The items of every list are read from their texts, with one unit more. -/
def ReadsItems (fuel : Nat) : Prop :=
  ∀ {j : Json} {more : List Json} {depth : Nat} (rest : List Char), PlainItems depth (j :: more) →
    2 * (itemsText (j :: more)).toList.length + 1 ≤ fuel →
    readItems fuel depth ((itemsText (j :: more)).toList ++ ']' :: rest)
      = (Reading.ofItems (j :: more), .closed, some rest)

/-- The fields of every object are read from their texts, with one unit more. -/
def ReadsFields (fuel : Nat) : Prop :=
  ∀ {e : String × Json} {more : List (String × Json)} {depth : Nat} (rest : List Char),
    PlainFields depth (e :: more) → 2 * (fieldsText (e :: more)).toList.length + 1 ≤ fuel →
    readFields fuel depth ((fieldsText (e :: more)).toList ++ '\x7d' :: rest)
      = (Reading.ofFields (e :: more), .closed, some rest)

theorem itemsText_cons {depth : Nat} {j : Json} {more : List Json} (h : PlainItems depth (j :: more)) :
    ∃ c cs, (itemsText (j :: more)).toList = c :: cs ∧ Opens c := by
  obtain ⟨c, cs, hcs, hopens⟩ := text_cons h.1
  cases more with
  | nil => exact ⟨c, cs, hcs, hopens⟩
  | cons k rest => exact ⟨c, _, by rw [toList_items, hcs]; rfl, hopens⟩

theorem fieldsText_cons (e : String × Json) (more : List (String × Json)) :
    ∃ cs, (fieldsText (e :: more)).toList = '"' :: cs := by
  obtain ⟨key, j⟩ := e
  cases more with
  | nil => exact ⟨_, by simpa using toList_field key j []⟩
  | cons f rest => exact ⟨_, by simpa using toList_fields key j f rest []⟩

theorem readsValues_succ {fuel : Nat} (hitems : ReadsItems fuel) (hfields : ReadsFields fuel) :
    ReadsValues (fuel + 1) := by
  intro j depth rest hplain hrest hfuel
  cases j with
  | null => rfl
  | bool b => cases b <;> rfl
  | num number =>
      cases number with
      | real x => exact absurd hplain (by simp [Plain])
      | int n =>
          obtain ⟨hlo, hhi⟩ : Words.minInt64 ≤ n ∧ n ≤ Words.max64 := by simpa [Plain] using hplain
          obtain ⟨c, cs, hcs, hc⟩ := numberText_cons n
          have hnumber := readNumber_int hlo hhi hrest
          rw [text]
          rw [hcs, List.cons_append] at hnumber ⊢
          rw [readValue_number hc, hnumber]
          rfl
  | str s =>
      rw [text, toList_quoted, List.cons_append, List.append_assoc]
      show ofToken .str (readString (s.toList.flatMap escape ++ '"' :: rest)) = _
      rw [readString_quoted]
      rfl
  | arr items =>
      rw [Plain] at hplain
      have hwithin := within_of_pos hplain.1
      cases items with
      | nil =>
          show (within depth (.arr [] .closed), some rest) = _
          rw [hwithin]
          rfl
      | cons j more =>
          have hlength := congrArg List.length (toList_arr (j :: more) [])
          simp only [List.length_cons, List.length_append, List.append_nil, List.length_nil]
            at hlength
          have hread := hitems rest hplain.2 (by omega)
          obtain ⟨c, cs, hcs, hopens⟩ := itemsText_cons hplain.2
          rw [toList_arr, hcs, List.cons_append, readValue_arr hopens, ← List.cons_append, ← hcs,
            hread]
          simp only [hwithin]
          rw [Reading.ofJson]
  | obj fields =>
      rw [Plain] at hplain
      have hwithin := within_of_pos hplain.1
      cases fields with
      | nil =>
          show (within depth (.obj [] .closed), some rest) = _
          rw [hwithin]
          rfl
      | cons e more =>
          have hlength := congrArg List.length (toList_obj (e :: more) [])
          simp only [List.length_cons, List.length_append, List.append_nil, List.length_nil]
            at hlength
          have hread := hfields rest hplain.2 (by omega)
          obtain ⟨cs, hcs⟩ := fieldsText_cons e more
          rw [toList_obj, hcs, List.cons_append, readValue_obj, ← List.cons_append, ← hcs, hread]
          simp only [hwithin]
          rw [Reading.ofJson]

theorem readsItems_succ {fuel : Nat} (hvalues : ReadsValues fuel) (hitems : ReadsItems fuel) :
    ReadsItems (fuel + 1) := by
  intro j more depth rest hplain hfuel
  cases more with
  | nil =>
      have hread := hvalues (']' :: rest) hplain.1 (ended_bracket rest)
        (by rw [itemsText] at hfuel; omega)
      rw [itemsText, readItems, hread]
      rfl
  | cons k more =>
      have hlength := congrArg List.length (toList_items j k more)
      rw [List.length_append, List.length_cons] at hlength
      have hread := hvalues (',' :: ((itemsText (k :: more)).toList ++ ']' :: rest))
        hplain.1 (ended_comma _) (by omega)
      have hmore := hitems rest hplain.2 (by omega)
      rw [toList_items, List.append_assoc, List.cons_append, readItems, hread]
      show (_ :: (readItems fuel depth _).1, (readItems fuel depth _).2.1, _) = _
      rw [hmore]
      rfl

/-- A field is read as its name, a colon and its value. -/
theorem readFields_key (key : String) (fuel depth : Nat) (value : List Char) :
    readFields (fuel + 1) depth ('"' :: (key.toList.flatMap escape ++ '"' :: ':' :: value)) =
      match readValue fuel depth value with
      | (r, none) => named (some key) r ([], .broken, none)
      | (r, some rest) =>
        match skipSpace rest with
        | ',' :: more => named (some key) r (readFields fuel depth more)
        | '\x7d' :: last => named (some key) r ([], .closed, some last)
        | _ => named (some key) r ([], .broken, none) := by
  have hquote : ∀ cs, skipSpace ('"' :: cs) = '"' :: cs :=
    skipSpace_of_opens ⟨by decide, by decide⟩
  have hcolon : skipSpace (':' :: value) = ':' :: value :=
    skipSpace_of_opens ⟨by decide, by decide⟩ value
  simp only [readFields, hquote, readString_quoted]
  exact hcolon ▸ rfl

theorem readsFields_succ {fuel : Nat} (hvalues : ReadsValues fuel) (hfields : ReadsFields fuel) :
    ReadsFields (fuel + 1) := by
  rintro ⟨key, j⟩ more depth rest hplain hfuel
  cases more with
  | nil =>
      have hlength := congrArg List.length (toList_field key j [])
      simp only [List.length_append, List.length_cons, List.append_nil] at hlength
      have hread := hvalues ('\x7d' :: rest) hplain.1 (ended_brace rest) (by omega)
      rw [toList_field, readFields_key, hread]
      rfl
  | cons e more =>
      have hlength := congrArg List.length (toList_fields key j e more [])
      simp only [List.length_append, List.length_cons, List.append_nil] at hlength
      have hread := hvalues (',' :: ((fieldsText (e :: more)).toList ++ '\x7d' :: rest))
        hplain.1 (ended_comma _) (by omega)
      have hmore := hfields rest hplain.2 (by omega)
      rw [toList_fields, readFields_key, hread]
      show named (some key) _ (readFields fuel depth _) = _
      rw [hmore]
      rfl

/-! ### Whole documents -/

/-- By induction on the counter, as the reader goes. -/
theorem reads (fuel : Nat) : ReadsValues fuel ∧ ReadsItems fuel ∧ ReadsFields fuel := by
  induction fuel with
  | zero =>
      refine ⟨fun _ hplain _ hfuel => ?_, fun _ _ hfuel => by omega, fun _ _ hfuel => by omega⟩
      obtain ⟨c, cs, hcs, -⟩ := text_cons hplain
      rw [hcs, List.length_cons] at hfuel
      omega
  | succ n ih =>
      obtain ⟨hvalues, hitems, hfields⟩ := ih
      exact ⟨readsValues_succ hitems hfields, readsItems_succ hvalues hitems,
        readsFields_succ hvalues hfields⟩

/-- **Round trip.** A document without doubles, whose integers fit 64 bits and which is not nested
too deep, is read back from its text. -/
theorem readsBack_of_plain {j : Json} (h : Plain maxDepth j) : ReadsBack j := by
  have hread := (reads (2 * j.text.toList.length + 2)).1 [] h (Or.inl rfl) (by omega)
  rw [List.append_nil] at hread
  rw [ReadsBack, read, hread]
  rfl

end Arcade.Json
