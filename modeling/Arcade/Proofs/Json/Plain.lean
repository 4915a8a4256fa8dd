import Arcade.Proofs.Json.RoundTrip
/-!
# Plain documents

What is plain, part by part: lists and objects are if their members are, one level down. A document
stays plain in canonical order (`plain_canonical`), and if more nesting is allowed (`plain_mono`).

A document that was decoded as a record of integers alone is plain, for everything else in it would
have been refused (`plain_of_decode`).
-/

namespace Arcade.Json

variable {depth : Nat}

/-! ### Members -/

theorem plainItems_iff {items : List Json} :
    PlainItems depth items ↔ ∀ j ∈ items, Plain depth j := by
  induction items with
  | nil => simp [PlainItems]
  | cons j rest ih => simp [PlainItems, ih]

theorem plainFields_iff {fields : List (String × Json)} :
    PlainFields depth fields ↔ ∀ e ∈ fields, Plain depth e.2 := by
  induction fields with
  | nil => simp [PlainFields]
  | cons e rest ih => simp [PlainFields, ih]

theorem plain_arr_iff {items : List Json} :
    Plain (depth + 1) (.arr items) ↔ ∀ j ∈ items, Plain depth j := by
  simp [Plain, plainItems_iff]

theorem plain_obj_iff {fields : List (String × Json)} :
    Plain (depth + 1) (.obj fields) ↔ ∀ e ∈ fields, Plain depth e.2 := by
  simp [Plain, plainFields_iff]

theorem plain_str (s : String) : Plain depth (.str s) := by
  simp [Plain]

theorem plain_int {n : Int} (hlo : Words.minInt64 ≤ n) (hhi : n ≤ Words.max64) :
    Plain depth (.int n) := by
  simp only [Json.int, Plain]
  exact ⟨hlo, hhi⟩

theorem plain_nat {n : Nat} (h : n ≤ Words.max64) : Plain depth (.nat n) :=
  plain_int (by simp only [Words.minInt64]; omega) (by exact_mod_cast h)

theorem plain_int32 (n : Int32) : Plain depth (.int n.toInt) := by
  have hlo := n.minValue_le_toInt
  have hhi := n.toInt_le
  refine plain_int ?_ ?_
  · exact Int.le_trans (by decide) hlo
  · exact Int.le_trans hhi (by decide)

theorem plain_int8 (n : Int8) : Plain depth (.int n.toInt) := by
  have hlo := n.minValue_le_toInt
  have hhi := n.toInt_le
  refine plain_int ?_ ?_
  · exact Int.le_trans (by decide) hlo
  · exact Int.le_trans hhi (by decide)

theorem plain_uint32 (n : UInt32) : Plain depth (.nat n.toNat) :=
  plain_nat (Nat.le_trans (Nat.le_of_lt n.toNat_lt) (by decide))

theorem plain_uint64 (n : UInt64) : Plain depth (.nat n.toNat) :=
  plain_nat (Nat.le_of_lt_succ n.toNat_lt)

theorem plain_strs (items : List String) : Plain (depth + 1) (.strs items) := by
  rw [strs, plain_arr_iff]
  intro j hj
  obtain ⟨s, -, rfl⟩ := List.mem_map.mp hj
  exact plain_str s

/-! ### The same document elsewhere -/

mutual

theorem plain_mono {depth depth' : Nat} (h : depth ≤ depth') :
    ∀ j : Json, Plain depth j → Plain depth' j
  | .null, hj => by simp [Plain]
  | .bool _, hj => by simp [Plain]
  | .num (.int n), hj => by
      rw [Plain] at hj ⊢
      exact hj
  | .num (.real _), hj => by simp [Plain] at hj
  | .str s, hj => plain_str s
  | .arr items, hj => by
      rw [Plain] at hj ⊢
      exact ⟨by omega, plainItems_mono (by omega) items hj.2⟩
  | .obj fields, hj => by
      rw [Plain] at hj ⊢
      exact ⟨by omega, plainFields_mono (by omega) fields hj.2⟩

theorem plainItems_mono {depth depth' : Nat} (h : depth ≤ depth') :
    ∀ items : List Json, PlainItems depth items → PlainItems depth' items
  | [], _ => by simp [PlainItems]
  | j :: rest, hitems => by
      rw [PlainItems] at hitems ⊢
      exact ⟨plain_mono h j hitems.1, plainItems_mono h rest hitems.2⟩

theorem plainFields_mono {depth depth' : Nat} (h : depth ≤ depth') :
    ∀ fields : List (String × Json), PlainFields depth fields → PlainFields depth' fields
  | [], _ => by simp [PlainFields]
  | (_, j) :: rest, hfields => by
      rw [PlainFields] at hfields ⊢
      exact ⟨plain_mono h j hfields.1, plainFields_mono h rest hfields.2⟩

end

mutual

/-- Canonical order changes no member. -/
theorem plain_canonical : ∀ (depth : Nat) (j : Json), Plain depth j → Plain depth j.canonical
  | _, .null, hj => by simp [canonical, Plain]
  | _, .bool _, hj => by simp [canonical, Plain]
  | _, .num _, hj => by rwa [canonical]
  | _, .str s, hj => by rwa [canonical]
  | depth, .arr items, hj => by
      rw [Plain] at hj
      rw [canonical, Plain]
      exact ⟨hj.1, plainItems_canonical (depth - 1) items hj.2⟩
  | depth, .obj fields, hj => by
      rw [Plain] at hj
      rw [canonical, Plain, plainFields_iff]
      refine ⟨hj.1, fun e he => ?_⟩
      exact plainFields_iff.mp (plainFields_canonical (depth - 1) fields hj.2) e (Dict.mem_ofList he)

theorem plainItems_canonical : ∀ (depth : Nat) (items : List Json), PlainItems depth items →
    PlainItems depth (canonicalItems items)
  | _, [], _ => by simp [canonicalItems, PlainItems]
  | depth, j :: rest, h => by
      rw [PlainItems] at h
      rw [canonicalItems, PlainItems]
      exact ⟨plain_canonical depth j h.1, plainItems_canonical depth rest h.2⟩

theorem plainFields_canonical : ∀ (depth : Nat) (fields : List (String × Json)),
    PlainFields depth fields → PlainFields depth (canonicalFields fields)
  | _, [], _ => by simp [canonicalFields, PlainFields]
  | depth, (_, j) :: rest, h => by
      rw [PlainFields] at h
      rw [canonicalFields, PlainFields]
      exact ⟨plain_canonical depth j h.1, plainFields_canonical depth rest h.2⟩

end

/-! ### Records of integers -/

/-- A reading of an integer of 64 bits, with a sign or without. -/
def Reading.IsWord (r : Reading) : Prop :=
  ∃ n, r = .num (.int n) ∧ Words.minInt64 ≤ n ∧ n ≤ Words.max64

theorem plain_of_isWord {j : Json} (h : (Reading.ofJson j).IsWord) : Plain depth j := by
  obtain ⟨n, hn, hlo, hhi⟩ := h
  cases j with
  | num number =>
      rw [Reading.ofJson] at hn
      obtain rfl := Reading.num.inj hn
      exact plain_int hlo hhi
  | _ => simp [Reading.ofJson] at hn

theorem isWord_of_intWithin {lo hi : Int} {name : String} {r : Reading} {n : Int}
    (hlo : Words.minInt64 ≤ lo) (hhi : hi ≤ Words.max64)
    (h : Decode.intWithin lo hi name r = .ok n) : r.IsWord := by
  unfold Decode.intWithin at h
  split at h
  next m =>
    split at h
    next hwithin => exact ⟨m, rfl, Int.le_trans hlo hwithin.1, Int.le_trans hwithin.2 hhi⟩
    · cases h
  · cases h

theorem isWord_of_uint32 {r : Reading} {n : UInt32} (h : Decode.uint32 r = .ok n) : r.IsWord := by
  unfold Decode.uint32 Decode.word at h
  cases hread : Decode.intWithin 0 Words.max32 "u32" r with
  | error fault =>
      rw [hread] at h
      cases h
  | ok m => exact isWord_of_intWithin (by decide) (by decide) hread

theorem isWord_of_int32 {r : Reading} {n : Int32} (h : Decode.int32 r = .ok n) : r.IsWord := by
  unfold Decode.int32 at h
  cases hread : Decode.intWithin Words.minInt32 Words.maxInt32 "i32" r with
  | error fault =>
      rw [hread] at h
      cases h
  | ok m => exact isWord_of_intWithin (by decide) (by decide) hread

namespace Schema

variable {σ α : Type} {schema : Schema σ α} {Q : Reading → Prop}

/-- A strict record refuses every field that it does not know, so what all known fields ask of their
readings is true of every field that was stored. -/
theorem all_of_storeFields (hstrict : schema.strict = true)
    (hstore : ∀ f ∈ schema.fields, ∀ r s s', f.store r s = .ok s' → Q r) {ending : Ending}
    {fields : List (String × Reading)} {seen : List String} {s s' : σ}
    (h : schema.storeFields ending fields seen s = .ok s') : ∀ e ∈ fields, Q e.2 := by
  induction fields generalizing seen s with
  | nil => exact fun e he => absurd he List.not_mem_nil
  | cons field rest ih =>
      obtain ⟨key, r⟩ := field
      rw [storeFields] at h
      split at h
      · rw [hstrict, if_pos rfl] at h
        cases h
      next f hf =>
        split at h
        · cases h
        · cases hstored : f.store r s with
          | error fault =>
              rw [hstored] at h
              cases h
          | ok s₁ =>
              rw [hstored] at h
              intro e he
              rcases List.mem_cons.mp he with rfl | he
              · exact hstore f (List.mem_of_find?_eq_some hf) r s s₁ hstored
              · exact ih h e he

theorem all_of_storeItems {ending : Ending} {fields : List (Field σ)}
    (hstore : ∀ f ∈ fields, ∀ r s s', f.store r s = .ok s' → Q r) {items : List Reading}
    {count : Nat} {s s' : σ} (h : storeItems ending fields items count s = .ok s') :
    ∀ r ∈ items, Q r := by
  induction fields generalizing items count s with
  | nil =>
      cases items with
      | nil => exact fun r hr => absurd hr List.not_mem_nil
      | cons r rest => cases h
  | cons f fs ih =>
      cases items with
      | nil => exact fun r hr => absurd hr List.not_mem_nil
      | cons r rest =>
          rw [storeItems] at h
          cases hstored : f.store r s with
          | error fault =>
              rw [hstored] at h
              cases h
          | ok s₁ =>
              rw [hstored] at h
              intro r' hr'
              rcases List.mem_cons.mp hr' with rfl | hr'
              · exact hstore f List.mem_cons_self _ s s₁ hstored
              · exact ih (fun g hg => hstore g (List.mem_cons_of_mem f hg)) h r' hr'

/-- A document that is decoded as a strict record of integers alone is plain. -/
theorem plain_of_decode (hstrict : schema.strict = true)
    (hstore : ∀ f ∈ schema.fields, ∀ r s s', f.store r s = .ok s' → r.IsWord) {j : Json} {a : α}
    (h : schema.decode (.ofJson j) = .ok a) : Plain 1 j := by
  cases j with
  | obj fields =>
      rw [ofJson_obj, decode] at h
      cases hstored : schema.storeFields .closed (Reading.ofFields fields) [] schema.start with
      | error fault =>
          rw [hstored] at h
          cases h
      | ok s =>
          have hall := all_of_storeFields hstrict hstore hstored
          rw [plain_obj_iff]
          intro e he
          rw [ofFields_eq_map] at hall
          exact plain_of_isWord (hall _ (List.mem_map_of_mem he))
  | arr items =>
      rw [Reading.ofJson, decode] at h
      cases hstored : storeItems .closed schema.fields (Reading.ofItems items) 0 schema.start with
      | error fault =>
          rw [hstored] at h
          cases h
      | ok s =>
          have hall := all_of_storeItems hstore hstored
          rw [plain_arr_iff]
          intro i hi
          rw [ofItems_eq_map] at hall
          exact plain_of_isWord (hall _ (List.mem_map_of_mem hi))
  | _ => simp [Reading.ofJson, decode] at h

end Schema

end Arcade.Json
