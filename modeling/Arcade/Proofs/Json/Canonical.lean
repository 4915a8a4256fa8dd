import Arcade.Proofs.Json.Decoding
/-!
# Documents in canonical order

What a decoder takes from a document is in canonical order (`canonical_of_toJson?`), and a document
that is in canonical order already is taken as it is (`Decode.json_ofJson`). So a dictionary of
documents that is `Ordered` comes back the same from a record that holds it.

Canonical order is kept by all that is done with dictionaries: by putting entries in and taking them
out, and by every look at a part.
-/

namespace Arcade.Json

/-- A dictionary in order, of documents in canonical order. -/
structure Ordered (d : Dict Json) : Prop where
  sorted : Dict.Sorted d
  values : ∀ e ∈ d, e.2.canonical = e.2

/-! ### The canonical order -/

/-- An object is in canonical order if its fields are, and their values. -/
theorem canonical_obj_iff {fields : List (String × Json)} :
    (Json.obj fields).canonical = .obj fields ↔ Ordered fields := by
  rw [canonical_obj, Json.obj.injEq]
  constructor
  · intro h
    have hsorted : Dict.Sorted fields := by
      rw [← h]
      exact Dict.sorted_ofList _
    have hnames : Dict.Sorted (canonicalFields fields) := by
      rw [canonicalFields_eq_map]
      exact Dict.sorted_mapValues hsorted
    rw [Dict.ofList_of_sorted hnames, canonicalFields_eq_map] at h
    refine ⟨hsorted, fun e he => ?_⟩
    have hsame : fields.map (fun e => (e.1, e.2.canonical)) = fields.map fun e => e := by
      rw [h, List.map_id']
    exact congrArg Prod.snd (List.map_inj_left.mp hsame e he)
  · intro h
    have hsame : canonicalFields fields = fields := by
      rw [canonicalFields_eq_map]
      refine (List.map_congr_left fun e he => ?_).trans (List.map_id fields)
      rw [h.values e he]
      rfl
    rw [hsame, Dict.ofList_of_sorted h.sorted]

theorem canonical_arr_iff {items : List Json} :
    (Json.arr items).canonical = .arr items ↔ ∀ j ∈ items, j.canonical = j := by
  rw [canonical_arr, Json.arr.injEq]
  constructor
  · intro h j hj
    have hsame : items.map canonical = items.map fun j => j := by rw [h, List.map_id']
    exact List.map_inj_left.mp hsame j hj
  · intro h
    exact (List.map_congr_left h).trans (List.map_id items)

theorem ordered_ofList {entries : List (String × Json)} (h : ∀ e ∈ entries, e.2.canonical = e.2) :
    Ordered (Dict.ofList entries) :=
  ⟨Dict.sorted_ofList entries, fun e he => h e (Dict.mem_ofList he)⟩

mutual

/-- Canonical order is found at once. -/
theorem canonical_canonical : ∀ j : Json, j.canonical.canonical = j.canonical
  | .null => rfl
  | .bool _ => rfl
  | .num _ => rfl
  | .str _ => rfl
  | .arr items => by
      rw [canonical, canonical_arr_iff]
      exact canonical_canonicalItems items
  | .obj fields => by
      rw [canonical, canonical_obj_iff]
      exact ordered_ofList (canonical_canonicalFields fields)

theorem canonical_canonicalItems : ∀ items : List Json, ∀ j ∈ canonicalItems items, j.canonical = j
  | [], j, hj => absurd hj List.not_mem_nil
  | first :: rest, j, hj => by
      rcases List.mem_cons.mp hj with rfl | hj
      · exact canonical_canonical first
      · exact canonical_canonicalItems rest j hj

theorem canonical_canonicalFields : ∀ fields : List (String × Json),
    ∀ e ∈ canonicalFields fields, e.2.canonical = e.2
  | [], e, he => absurd he List.not_mem_nil
  | (_, first) :: rest, e, he => by
      rcases List.mem_cons.mp he with rfl | he
      · exact canonical_canonical first
      · exact canonical_canonicalFields rest e he

end

theorem canonical_real (x : Float) : (real x).canonical = real x := by
  unfold real
  split <;> rfl

theorem canonical_strs (items : List String) : (strs items).canonical = strs items := by
  rw [strs, canonical_arr_iff]
  intro j hj
  obtain ⟨s, -, rfl⟩ := List.mem_map.mp hj
  rfl

/-! ### What is done with dictionaries -/

namespace Ordered

variable {d : Dict Json}

theorem nil : Ordered [] := ⟨List.Pairwise.nil, fun _ h => absurd h List.not_mem_nil⟩

theorem insert (h : Ordered d) (key : String) {j : Json} (hj : j.canonical = j) :
    Ordered (Dict.insert d key j) := by
  refine ⟨Dict.sorted_insert h.sorted key j, fun e he => ?_⟩
  rcases Dict.mem_insert he with rfl | he
  · exact hj
  · exact h.values e he

theorem insertAll (h : Ordered d) {entries : Dict Json} (hentries : Ordered entries) :
    Ordered (Dict.insertAll d entries) := by
  refine ⟨Dict.sorted_insertAll h.sorted entries, fun e he => ?_⟩
  rcases Dict.mem_insertAll he with he | he
  · exact h.values e he
  · exact hentries.values e he

theorem erase (h : Ordered d) (key : String) : Ordered (Dict.erase d key) := by
  have hsublist := Dict.erase_sublist d key
  exact ⟨h.sorted.sublist hsublist, fun e he => h.values e (hsublist.subset he)⟩

theorem get? (h : Ordered d) {key : String} {j : Json} (hj : Dict.get? d key = some j) :
    j.canonical = j :=
  h.values (key, j) (Dict.mem_of_get? hj)

/-- The dictionary under a name, if there is one. -/
theorem obj (h : Ordered d) (key : String) :
    Ordered (((Dict.get? d key).bind Json.asObj?).getD []) := by
  cases hj : Dict.get? d key with
  | none => exact nil
  | some j =>
      have hcanonical := h.get? hj
      cases j with
      | obj fields => exact canonical_obj_iff.mp hcanonical
      | _ => exact nil

theorem mapValues (hd : Dict.Sorted d) {f : Json → Json} (hf : ∀ j, (f j).canonical = f j) :
    Ordered (Dict.mapValues f d) := by
  refine ⟨Dict.sorted_mapValues hd, fun e he => ?_⟩
  obtain ⟨e', -, rfl⟩ := List.mem_map.mp he
  exact hf e'.2

end Ordered

/-! ### What a decoder takes -/

mutual

theorem toJson?_ofJson : ∀ j : Json, (Reading.ofJson j).toJson? = some j.canonical
  | .null => rfl
  | .bool _ => rfl
  | .num _ => rfl
  | .str _ => rfl
  | .arr items => by
      simp only [Reading.ofJson, Reading.toJson?, toItems?_ofItems items, canonical]
  | .obj fields => by
      simp only [Reading.ofJson, Reading.toJson?, toFields?_ofFields fields, canonical]

theorem toItems?_ofItems : ∀ items : List Json,
    Reading.toItems? (Reading.ofItems items) = some (canonicalItems items)
  | [] => rfl
  | j :: rest => by
      simp only [Reading.ofItems, Reading.toItems?, toJson?_ofJson j, toItems?_ofItems rest,
        canonicalItems]

theorem toFields?_ofFields : ∀ fields : List (String × Json),
    Reading.toFields? (Reading.ofFields fields) = some (canonicalFields fields)
  | [] => rfl
  | (key, j) :: rest => by
      simp only [Reading.ofFields, Reading.toFields?, toJson?_ofJson j, toFields?_ofFields rest,
        canonicalFields]

end

mutual

/-- Whatever is read has a value in canonical order, if it has one. -/
theorem canonical_of_toJson? : ∀ (r : Reading) {j : Json}, r.toJson? = some j → j.canonical = j
  | .null, _, h => by
      obtain rfl := Option.some.inj h
      rfl
  | .bool _, _, h => by
      obtain rfl := Option.some.inj h
      rfl
  | .num _, _, h => by
      obtain rfl := Option.some.inj h
      rfl
  | .str _, _, h => by
      obtain rfl := Option.some.inj h
      rfl
  | .arr items ending, j, h => by
      rw [Reading.toJson?.eq_def] at h
      dsimp only at h
      split at h
      · next js heq =>
        obtain rfl := Option.some.inj h
        exact canonical_arr_iff.mpr (canonical_of_toItems? items heq)
      · cases h
  | .obj fields ending, j, h => by
      rw [Reading.toJson?.eq_def] at h
      dsimp only at h
      split at h
      · next fs heq =>
        obtain rfl := Option.some.inj h
        exact canonical_obj_iff.mpr (ordered_ofList (canonical_of_toFields? fields heq))
      · cases h
  | .broken, _, h => nomatch h
  | .refused, _, h => nomatch h
  | .tooDeep _, _, h => nomatch h

theorem canonical_of_toItems? : ∀ (items : List Reading) {js : List Json},
    Reading.toItems? items = some js → ∀ j ∈ js, j.canonical = j
  | [], js, h, j, hj => by
      obtain rfl := Option.some.inj h
      exact absurd hj List.not_mem_nil
  | r :: rest, js, h, j, hj => by
      rw [Reading.toItems?] at h
      split at h
      · next first more hfirst hmore =>
        obtain rfl := Option.some.inj h
        rcases List.mem_cons.mp hj with rfl | hj
        · exact canonical_of_toJson? r hfirst
        · exact canonical_of_toItems? rest hmore j hj
      · cases h

theorem canonical_of_toFields? : ∀ (fields : List (String × Reading)) {fs : List (String × Json)},
    Reading.toFields? fields = some fs → ∀ e ∈ fs, e.2.canonical = e.2
  | [], fs, h, e, he => by
      obtain rfl := Option.some.inj h
      exact absurd he List.not_mem_nil
  | (key, r) :: rest, fs, h, e, he => by
      rw [Reading.toFields?] at h
      split at h
      · next first more hfirst hmore =>
        obtain rfl := Option.some.inj h
        rcases List.mem_cons.mp he with rfl | he
        · exact canonical_of_toJson? r hfirst
        · exact canonical_of_toFields? rest hmore e he
      · cases h

end

namespace Decode

/-- A document in canonical order is taken as it is. -/
theorem json_ofJson {j : Json} (h : j.canonical = j) : json (.ofJson j) = .ok j := by
  rw [json, toJson?_ofJson, h]

theorem canonical_of_json {r : Reading} {j : Json} (h : json r = .ok j) : j.canonical = j := by
  unfold json at h
  split at h
  · next j' hj =>
    obtain rfl := Except.ok.inj h
    exact canonical_of_toJson? r hj
  · cases h

theorem canonical_of_entries {ending : Ending} {fields : List (String × Reading)}
    {es : List (String × Json)} (h : entries json ending fields = .ok es) :
    ∀ e ∈ es, e.2.canonical = e.2 := by
  induction fields generalizing es with
  | nil =>
      rw [entries] at h
      split at h
      · obtain rfl := Except.ok.inj h
        exact fun e he => absurd he List.not_mem_nil
      · cases h
  | cons field rest ih =>
      obtain ⟨key, r⟩ := field
      rw [entries] at h
      cases hfirst : json r with
      | error fault =>
          rw [hfirst] at h
          cases h
      | ok j =>
          cases hmore : entries json ending rest with
          | error fault =>
              rw [hfirst, hmore] at h
              cases h
          | ok more =>
              rw [hfirst, hmore] at h
              obtain rfl := Except.ok.inj h
              intro e he
              rcases List.mem_cons.mp he with rfl | he
              · exact canonical_of_json hfirst
              · exact ih hmore e he

/-- A dictionary of documents is taken in order. -/
theorem ordered_of_dict {r : Reading} {d : Dict Json} (h : dict json r = .ok d) : Ordered d := by
  unfold dict at h
  split at h
  · next fields ending =>
    cases hentries : entries json ending fields with
    | error fault =>
        rw [hentries] at h
        cases h
    | ok es =>
        rw [hentries] at h
        obtain rfl := Except.ok.inj h
        exact ordered_ofList (canonical_of_entries hentries)
  · cases h

theorem entries_of_ordered {d : List (String × Json)} (h : ∀ e ∈ d, e.2.canonical = e.2) :
    entries json .closed (d.map fun e => (e.1, Reading.ofJson e.2)) = .ok d := by
  induction d with
  | nil => rfl
  | cons e rest ih =>
      have hfirst : json (.ofJson e.2) = .ok e.2 := json_ofJson (h e List.mem_cons_self)
      have hrest := ih fun e' he' => h e' (List.mem_cons_of_mem e he')
      simp only [List.map_cons, entries, hfirst, hrest, bind, Except.bind]

/-- An ordered dictionary is taken as it is. -/
theorem dict_ofJson_of_ordered {d : Dict Json} (h : Ordered d) :
    dict json (.ofJson (.obj d)) = .ok d := by
  rw [ofJson_obj, dict, ofFields_eq_map, entries_of_ordered h.values, Except.map,
    Dict.ofList_of_sorted h.sorted]

end Decode

end Arcade.Json
