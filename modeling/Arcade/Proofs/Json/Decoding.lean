import Arcade.Json.Decode
import Arcade.Proofs.Dict
/-!
# Decoding what was written

A decoder gets back the value from which a document value was made. Single words stand first, then
lists and dictionaries of anything that is got back itself. Records are put together from these, each
by unfolding its own schema.
-/

namespace Arcade.Json

/-! ### Readings of document values -/

theorem ofItems_eq_map (items : List Json) : Reading.ofItems items = items.map Reading.ofJson := by
  induction items with
  | nil => rfl
  | cons j rest ih => rw [Reading.ofItems, ih, List.map_cons]

theorem ofFields_eq_map (fields : List (String × Json)) :
    Reading.ofFields fields = fields.map fun e => (e.1, Reading.ofJson e.2) := by
  induction fields with
  | nil => rfl
  | cons e rest ih => rw [Reading.ofFields, ih, List.map_cons]

theorem ofJson_obj (fields : List (String × Json)) :
    Reading.ofJson (.obj fields) = .obj (Reading.ofFields fields) .closed := by
  rw [Reading.ofJson]

theorem canonical_obj (fields : List (String × Json)) :
    (Json.obj fields).canonical = .obj (Dict.ofList (canonicalFields fields)) := by
  rw [canonical]

theorem canonicalItems_eq_map (items : List Json) :
    canonicalItems items = items.map canonical := by
  induction items with
  | nil => rfl
  | cons j rest ih => rw [canonicalItems, ih, List.map_cons]

theorem canonical_arr (items : List Json) :
    (Json.arr items).canonical = .arr (items.map canonical) := by
  rw [canonical, canonicalItems_eq_map]

theorem canonicalFields_eq_map (fields : List (String × Json)) :
    canonicalFields fields = fields.map fun e => (e.1, canonical e.2) := by
  induction fields with
  | nil => rfl
  | cons e rest ih => rw [canonicalFields, ih, List.map_cons]

/-- A dictionary of values that are canonical themselves is canonical. -/
theorem canonical_obj_mapValues {α : Type} {d : Dict α} {f : α → Json}
    (hf : ∀ a, (f a).canonical = f a) (hd : Dict.Sorted d) :
    (Json.obj (Dict.mapValues f d)).canonical = .obj (Dict.mapValues f d) := by
  have hfields : canonicalFields (Dict.mapValues f d) = Dict.mapValues f d := by
    rw [canonicalFields_eq_map, Dict.mapValues, List.map_map]
    exact List.map_congr_left fun e _ => by simp only [Function.comp_apply, hf]
  rw [canonical_obj, hfields, Dict.ofList_of_sorted (Dict.sorted_mapValues hd)]

/-! ### Single values -/

namespace Decode

@[simp] theorem str_ofJson (s : String) : str (.ofJson (.str s)) = .ok s := rfl

@[simp] theorem int32_ofJson (x : Int32) : int32 (.ofJson (.int x.toInt)) = .ok x := by
  have hlo : -2147483648 ≤ x.toInt := Int32.le_toInt x
  have hhi : x.toInt < 2147483648 := Int32.toInt_lt x
  have hbounds : Words.minInt32 ≤ x.toInt ∧ x.toInt ≤ Words.maxInt32 := by
    simp only [Words.minInt32, Words.maxInt32]
    omega
  simp [int32, Json.int, Reading.ofJson, intWithin, hbounds, Except.map]

@[simp] theorem int8_ofJson (x : Int8) : int8 (.ofJson (.int x.toInt)) = .ok x := by
  have hlo : -128 ≤ x.toInt := Int8.le_toInt x
  have hhi : x.toInt < 128 := Int8.toInt_lt x
  have hbounds : -128 ≤ x.toInt ∧ x.toInt ≤ 127 := by omega
  simp [int8, Json.int, Reading.ofJson, intWithin, hbounds, Except.map]

@[simp] theorem uint32_ofJson (x : UInt32) : uint32 (.ofJson (.nat x.toNat)) = .ok x := by
  have hhi : x.toNat < 4294967296 := UInt32.toNat_lt x
  have hbound : (x.toNat : Int) ≤ Words.max32 := by
    simp only [Words.max32]
    omega
  simp [uint32, Json.nat, Reading.ofJson, word, intWithin, hbound, Except.map]

@[simp] theorem uint64_ofJson (x : UInt64) : uint64 (.ofJson (.nat x.toNat)) = .ok x := by
  have hhi : x.toNat < 18446744073709551616 := UInt64.toNat_lt x
  have hbound : (x.toNat : Int) ≤ Words.max64 := by
    simp only [Words.max64]
    omega
  simp [uint64, Json.nat, Reading.ofJson, word, intWithin, hbound, Except.map]

/-! ### Lists and dictionaries -/

theorem items_map {α : Type} {f : Reading → Decoded α} {g : α → Reading}
    (h : ∀ a, f (g a) = .ok a) (as : List α) : items f .closed (as.map g) = .ok as := by
  induction as with
  | nil => rfl
  | cons a rest ih => simp only [List.map_cons, items, h, ih, bind, Except.bind]

theorem entries_map {α : Type} {f : Reading → Decoded α} {g : α → Reading}
    (h : ∀ a, f (g a) = .ok a) (d : Dict α) :
    entries f .closed (d.map fun e => (e.1, g e.2)) = .ok d := by
  induction d with
  | nil => rfl
  | cons e rest ih => simp only [List.map_cons, entries, h, ih, bind, Except.bind]

theorem list_ofJson {α : Type} {f : Reading → Decoded α} {g : α → Json}
    (h : ∀ a, f (.ofJson (g a)) = .ok a) (as : List α) :
    list f (.ofJson (.arr (as.map g))) = .ok as := by
  rw [Reading.ofJson, list, ofItems_eq_map, List.map_map]
  exact items_map h as

theorem strs_ofJson (ss : List String) : list str (.ofJson (.strs ss)) = .ok ss :=
  list_ofJson str_ofJson ss

theorem dict_ofJson {α : Type} {f : Reading → Decoded α} {g : α → Json}
    (h : ∀ a, f (.ofJson (g a)) = .ok a) {d : Dict α} (hd : Dict.Sorted d) :
    dict f (.ofJson (.obj (Dict.mapValues g d))) = .ok d := by
  have hentries : entries f .closed (d.map fun e => (e.1, Reading.ofJson (g e.2))) = .ok d :=
    entries_map h d
  rw [ofJson_obj, dict, ofFields_eq_map, Dict.mapValues, List.map_map]
  show (entries f .closed (d.map fun e => (e.1, Reading.ofJson (g e.2)))).map Dict.ofList = .ok d
  rw [hentries, Except.map, Dict.ofList_of_sorted hd]

end Decode

/-! ### Records -/

/-- A record is read from a document value field by field. -/
theorem Schema.decode_ofJson_obj {σ α : Type} (schema : Schema σ α)
    (fields : List (String × Json)) : schema.decode (.ofJson (.obj fields)) =
      (schema.storeFields .closed (Reading.ofFields fields) [] schema.start).bind schema.finish := by
  rw [ofJson_obj]
  rfl

namespace Schema

variable {σ α : Type} {schema : Schema σ α} {P : σ → Prop}

/-- What every field keeps true of a record under construction is true of it when the fields of an
object are stored. -/
theorem invariant_of_storeFields
    (hstore : ∀ f ∈ schema.fields, ∀ r s s', f.store r s = .ok s' → P s → P s')
    {ending : Ending} {fields : List (String × Reading)} {seen : List String} {s s' : σ} (hs : P s)
    (h : schema.storeFields ending fields seen s = .ok s') : P s' := by
  induction fields generalizing seen s with
  | nil =>
      rw [storeFields] at h
      split at h
      · exact Except.ok.inj h ▸ hs
      · cases h
  | cons field rest ih =>
      obtain ⟨key, r⟩ := field
      rw [storeFields] at h
      split at h
      · split at h
        · cases h
        · split at h
          · exact ih hs h
          · cases h
      next f hf =>
        split at h
        · cases h
        · cases hstored : f.store r s with
          | error fault =>
              rw [hstored] at h
              cases h
          | ok s₁ =>
              rw [hstored] at h
              exact ih (hstore f (List.mem_of_find?_eq_some hf) r s s₁ hstored hs) h

theorem invariant_of_storeItems {ending : Ending} {fields : List (Field σ)}
    (hstore : ∀ f ∈ fields, ∀ r s s', f.store r s = .ok s' → P s → P s')
    {items : List Reading} {count : Nat} {s s' : σ} (hs : P s)
    (h : storeItems ending fields items count s = .ok s') : P s' := by
  induction fields generalizing items count s with
  | nil =>
      cases items with
      | nil =>
          rw [storeItems] at h
          split at h
          · exact Except.ok.inj h ▸ hs
          · cases h
      | cons r rest => cases h
  | cons f fs ih =>
      have hrest : ∀ g ∈ fs, ∀ r s s', g.store r s = .ok s' → P s → P s' := fun g hg =>
        hstore g (List.mem_cons_of_mem f hg)
      cases items with
      | nil =>
          rw [storeItems] at h
          split at h
          · cases h
          · split at h
            · exact ih hrest hs h
            · cases h
      | cons r rest =>
          rw [storeItems] at h
          cases hstored : f.store r s with
          | error fault =>
              rw [hstored] at h
              cases h
          | ok s₁ =>
              rw [hstored] at h
              exact ih hrest (hstore f List.mem_cons_self r s s₁ hstored hs) h

/-- What is true of a record under construction from its start is true of every one that is
finished, whatever was read. -/
theorem invariant_of_decode (hstart : P schema.start)
    (hstore : ∀ f ∈ schema.fields, ∀ r s s', f.store r s = .ok s' → P s → P s')
    {r : Reading} {a : α} (h : schema.decode r = .ok a) :
    ∃ s, P s ∧ schema.finish s = .ok a := by
  unfold decode at h
  split at h
  next fields ending =>
    cases hstored : schema.storeFields ending fields [] schema.start with
    | error fault =>
        rw [hstored] at h
        cases h
    | ok s =>
        rw [hstored] at h
        exact ⟨s, invariant_of_storeFields hstore hstart hstored, h⟩
  next items ending =>
    cases hstored : storeItems ending schema.fields items 0 schema.start with
    | error fault =>
        rw [hstored] at h
        cases h
    | ok s =>
        rw [hstored] at h
        exact ⟨s, invariant_of_storeItems hstore hstart hstored, h⟩
  · cases h

end Schema

/-- A field that sets a part of a record keeps true what its values may be. -/
theorem Field.store_of {σ α : Type} {name : String} {optional : Bool} {f : Reading → Decoded α}
    {set : α → σ → σ} {r : Reading} {s s' : σ} (h : (Field.of name optional f set).store r s = .ok s') :
    ∃ a, f r = .ok a ∧ s' = set a s := by
  have hmap : (f r).map (set · s) = .ok s' := h
  cases hread : f r with
  | error fault =>
      rw [hread] at hmap
      cases hmap
  | ok a =>
      rw [hread] at hmap
      exact ⟨a, rfl, (Except.ok.inj hmap).symm⟩

end Arcade.Json
