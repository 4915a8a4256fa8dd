import Arcade.Dict
/-!
# Entries of dictionaries

Which entries a dictionary has after entries were put in, and in which order. Every dictionary that
the operations build is `Sorted`, and a sorted list of entries is the dictionary of itself
(`ofList_of_sorted`), so that a dictionary survives being written out and put together again.
-/

namespace Arcade.Dict

variable {α β : Type}

/-! ### Membership -/

theorem mem_insert {d : Dict α} {key : String} {value : α} {e : String × α}
    (h : e ∈ insert d key value) : e = (key, value) ∨ e ∈ d := by
  induction d with
  | nil => exact Or.inl (List.mem_singleton.mp h)
  | cons first rest ih =>
      obtain ⟨k, v⟩ := first
      rw [insert] at h
      by_cases hk : key = k
      · subst hk
        rw [if_pos rfl] at h
        rcases List.mem_cons.mp h with rfl | hrest
        · exact Or.inl rfl
        · exact Or.inr (List.mem_cons_of_mem _ hrest)
      · rw [if_neg hk] at h
        by_cases hlt : key < k
        · rw [if_pos hlt] at h
          exact List.mem_cons.mp h
        · rw [if_neg hlt] at h
          rcases List.mem_cons.mp h with rfl | hrest
          · exact Or.inr List.mem_cons_self
          · exact (ih hrest).imp_right (List.mem_cons_of_mem _)

theorem mem_insertAll {d : Dict α} {entries : List (String × α)} {e : String × α}
    (h : e ∈ insertAll d entries) : e ∈ d ∨ e ∈ entries := by
  induction entries generalizing d with
  | nil => exact Or.inl h
  | cons first rest ih =>
      rcases ih h with hinserted | hrest
      · rcases mem_insert hinserted with rfl | hd
        · exact Or.inr List.mem_cons_self
        · exact Or.inl hd
      · exact Or.inr (List.mem_cons_of_mem _ hrest)

theorem mem_ofList {entries : List (String × α)} {e : String × α} (h : e ∈ ofList entries) :
    e ∈ entries :=
  (mem_insertAll h).resolve_left List.not_mem_nil

theorem mem_of_get? {d : Dict α} {key : String} {value : α} (h : get? d key = some value) :
    (key, value) ∈ d := by
  induction d with
  | nil => cases h
  | cons first rest ih =>
      obtain ⟨k, v⟩ := first
      rw [get?] at h
      split at h
      next hk =>
        obtain rfl := Option.some.inj h
        exact hk ▸ List.mem_cons_self
      · exact List.mem_cons_of_mem _ (ih h)

theorem erase_sublist (d : Dict α) (key : String) : (erase d key).Sublist d := by
  induction d with
  | nil => exact List.Sublist.slnil
  | cons first rest ih =>
      obtain ⟨k, v⟩ := first
      rw [erase]
      split
      · exact ih.cons _
      · exact ih.cons_cons _

/-- Putting entries in leaves the other names alone. -/
theorem get?_insertAll_of_forall_ne (d : Dict α) {entries : List (String × α)} {key : String}
    (h : ∀ e ∈ entries, e.1 ≠ key) : get? (insertAll d entries) key = get? d key := by
  induction entries generalizing d with
  | nil => rfl
  | cons first rest ih =>
      have hfirst : first.1 ≠ key := h first List.mem_cons_self
      have hrest : ∀ e ∈ rest, e.1 ≠ key := fun e he => h e (List.mem_cons_of_mem _ he)
      calc get? (insertAll d (first :: rest)) key
          = get? (insert d first.1 first.2) key := ih (insert d first.1 first.2) hrest
        _ = get? d key := get?_insert_of_ne d first.2 hfirst

/-- Whatever name is put in has a value then. -/
theorem exists_get?_insertAll (d : Dict α) {entries : List (String × α)} {key : String}
    (h : key ∈ entries.map Prod.fst) : ∃ v, get? (insertAll d entries) key = some v := by
  induction entries generalizing d with
  | nil => exact absurd h List.not_mem_nil
  | cons first rest ih =>
      by_cases hrest : key ∈ rest.map Prod.fst
      · exact ih (insert d first.1 first.2) hrest
      · obtain rfl : key = first.1 := (List.mem_cons.mp h).resolve_right hrest
        have hne : ∀ e ∈ rest, e.1 ≠ first.1 := fun e he heq => hrest (heq ▸ List.mem_map_of_mem he)
        exact ⟨first.2, (get?_insertAll_of_forall_ne _ hne).trans (get?_insert_self _ _ _)⟩

/-! ### Order -/

theorem sorted_insert {d : Dict α} (h : Sorted d) (key : String) (value : α) :
    Sorted (insert d key value) := by
  induction d with
  | nil => exact List.pairwise_singleton _ _
  | cons first rest ih =>
      obtain ⟨k, v⟩ := first
      obtain ⟨hfirst, hrest⟩ := List.pairwise_cons.mp h
      rw [insert]
      by_cases hk : key = k
      · subst hk
        rw [if_pos rfl]
        exact List.pairwise_cons.mpr ⟨hfirst, hrest⟩
      · rw [if_neg hk]
        by_cases hlt : key < k
        · rw [if_pos hlt]
          refine List.pairwise_cons.mpr ⟨fun e he => ?_, h⟩
          rcases List.mem_cons.mp he with rfl | he
          · exact hlt
          · exact String.lt_trans hlt (hfirst e he)
        · rw [if_neg hlt]
          -- neither equal nor before, so the new name comes behind
          have hgt : k < key := Std.lt_of_le_of_ne (Std.not_lt.mp hlt) (Ne.symm hk)
          refine List.pairwise_cons.mpr ⟨fun e he => ?_, ih hrest⟩
          rcases mem_insert he with rfl | he
          · exact hgt
          · exact hfirst e he

theorem sorted_insertAll {d : Dict α} (h : Sorted d) (entries : List (String × α)) :
    Sorted (insertAll d entries) := by
  induction entries generalizing d with
  | nil => exact h
  | cons first rest ih => exact ih (sorted_insert h first.1 first.2)

theorem sorted_ofList (entries : List (String × α)) : Sorted (ofList entries) :=
  sorted_insertAll List.Pairwise.nil entries

theorem sorted_mapValues {f : α → β} {d : Dict α} (h : Sorted d) : Sorted (mapValues f d) :=
  List.Pairwise.map _ (fun _ _ hlt => hlt) h

/-- An entry behind all others is put at the end. -/
theorem insert_of_forall_lt {d : Dict α} {key : String} (value : α) (h : ∀ e ∈ d, e.1 < key) :
    insert d key value = d ++ [(key, value)] := by
  induction d with
  | nil => rfl
  | cons first rest ih =>
      obtain ⟨k, v⟩ := first
      have hlt : k < key := h (k, v) List.mem_cons_self
      have hne : key ≠ k := fun heq => String.lt_irrefl k (heq ▸ hlt)
      rw [insert, if_neg hne, if_neg (String.lt_asymm hlt),
        ih fun e he => h e (List.mem_cons_of_mem _ he), List.cons_append]

theorem insertAll_of_sorted {d : Dict α} {entries : List (String × α)}
    (h : Sorted (d ++ entries)) : insertAll d entries = d ++ entries := by
  induction entries generalizing d with
  | nil => exact (List.append_nil d).symm
  | cons first rest ih =>
      have hbehind : ∀ e ∈ d, e.1 < first.1 := fun e he =>
        (List.pairwise_append.mp h).2.2 e he first List.mem_cons_self
      have hstep : insert d first.1 first.2 = d ++ [first] := insert_of_forall_lt first.2 hbehind
      rw [List.append_cons] at h ⊢
      rw [← hstep] at h ⊢
      exact ih h

/-- A sorted list of entries is a dictionary already. -/
theorem ofList_of_sorted {d : Dict α} (h : Sorted d) : ofList d = d :=
  insertAll_of_sorted h

/-! ### The view determines the dictionary -/

theorem get?_eq_none_of_forall_ne {d : Dict α} {key : String} (h : ∀ e ∈ d, e.1 ≠ key) :
    get? d key = none := by
  induction d with
  | nil => rfl
  | cons first rest ih =>
      rw [get?, if_neg (h first List.mem_cons_self)]
      exact ih fun e he => h e (List.mem_cons_of_mem _ he)

/-- The first name of a sorted list of entries is not among the names behind it. -/
theorem get?_rest_of_sorted {k : String} {v : α} {rest : Dict α} (h : Sorted ((k, v) :: rest)) :
    get? rest k = none :=
  get?_eq_none_of_forall_ne fun e he heq =>
    String.lt_irrefl k (heq ▸ (List.pairwise_cons.mp h).1 e he)

/-- Dictionaries with the same entries are equal. -/
theorem ext_of_sorted {d d' : Dict α} (h : Sorted d) (h' : Sorted d')
    (hview : ∀ key, get? d key = get? d' key) : d = d' := by
  induction d generalizing d' with
  | nil =>
      cases d' with
      | nil => rfl
      | cons first rest =>
          have hfirst := hview first.1
          rw [get?, get?, if_pos rfl] at hfirst
          cases hfirst
  | cons first rest ih =>
      obtain ⟨k, v⟩ := first
      have hk := hview k
      rw [get?, if_pos rfl] at hk
      cases d' with
      | nil => cases hk
      | cons first' rest' =>
          obtain ⟨k', v'⟩ := first'
          have hk' := hview k'
          simp only [get?, if_true] at hk'
          -- each of the two first names is found behind the other, unless they are the same
          have hsame : k = k' := by
            apply Classical.byContradiction
            intro hne
            rw [get?, if_neg (Ne.symm hne)] at hk
            rw [if_neg hne] at hk'
            have hlt : k' < k := (List.pairwise_cons.mp h').1 _ (mem_of_get? hk.symm)
            have hgt : k < k' := (List.pairwise_cons.mp h).1 _ (mem_of_get? hk')
            exact String.lt_asymm hlt hgt
          subst hsame
          rw [get?, if_pos rfl] at hk
          have hrest : ∀ key, get? rest key = get? rest' key := by
            intro key
            by_cases hkey : k = key
            · rw [← hkey, get?_rest_of_sorted h, get?_rest_of_sorted h']
            · have hview' := hview key
              simp only [get?, if_neg hkey] at hview'
              exact hview'
          rw [Option.some.inj hk, ih (List.pairwise_cons.mp h).2 (List.pairwise_cons.mp h').2 hrest]

/-! ### Two changes, one after the other -/

/-- The value that is put in last stays. -/
theorem insert_insert_self (d : Dict α) (key : String) (v w : α) :
    insert (insert d key v) key w = insert d key w := by
  induction d with
  | nil => simp [insert]
  | cons first rest ih =>
      obtain ⟨k, u⟩ := first
      by_cases hk : key = k
      · simp [insert, hk]
      · by_cases hlt : key < k
        · simp [insert, hk, hlt]
        · simp [insert, hk, hlt, ih]

/-- An entry goes in front of what comes behind its name, also in front of one that is yet to come. -/
theorem insert_comm_of_lt (d : Dict α) {a b : String} (hlt : a < b) (v w : α) :
    insert (insert d a v) b w = insert (insert d b w) a v := by
  have hne : a ≠ b := fun h => String.lt_irrefl b (h ▸ hlt)
  have hback : ¬ b < a := String.lt_asymm hlt
  induction d with
  | nil => simp [insert, hne, hne.symm, hlt, hback]
  | cons first rest ih =>
      obtain ⟨k, u⟩ := first
      by_cases ha : a = k
      · subst ha
        simp [insert, hne.symm, hback]
      · by_cases hak : a < k
        · -- whatever stands in front once the later name is in, the earlier one goes before it
          have hfront : insert (insert ((k, u) :: rest) b w) a v
              = (a, v) :: insert ((k, u) :: rest) b w := by
            by_cases hb : b = k
            · simp [insert, hb, ha, hak]
            · by_cases hbk : b < k
              · simp [insert, hb, hbk, hne, hlt]
              · simp [insert, hb, hbk, ha, hak]
          rw [hfront, insert, if_neg ha, if_pos hak, insert, if_neg hne.symm, if_neg hback]
        · have hka : k < a := Std.lt_of_le_of_ne (Std.not_lt.mp hak) (Ne.symm ha)
          have hkb : k < b := String.lt_trans hka hlt
          have hb : b ≠ k := fun h => String.lt_irrefl k (h ▸ hkb)
          simp [insert, ha, hak, hb, String.lt_asymm hkb, ih]

/-- Entries under two names are put in in either order. -/
theorem insert_comm (d : Dict α) {a b : String} (hne : a ≠ b) (v w : α) :
    insert (insert d a v) b w = insert (insert d b w) a v := by
  by_cases hlt : a < b
  · exact insert_comm_of_lt d hlt v w
  · have hgt : b < a := Std.lt_of_le_of_ne (Std.not_lt.mp hlt) hne.symm
    exact (insert_comm_of_lt d hgt w v).symm

theorem erase_insert_self (d : Dict α) (key : String) (v : α) :
    erase (insert d key v) key = erase d key := by
  induction d with
  | nil => simp [insert, erase]
  | cons first rest ih =>
      obtain ⟨k, u⟩ := first
      by_cases hk : key = k
      · simp [insert, erase, hk]
      · by_cases hlt : key < k
        · simp [insert, erase, hk, hlt, Ne.symm hk]
        · simp [insert, erase, hk, hlt, Ne.symm hk, ih]

/-- A name that comes before another is not in its way. -/
theorem erase_insert_of_lt (d : Dict α) {a b : String} (hlt : a < b) (v : α) :
    erase (insert d b v) a = insert (erase d a) b v := by
  have hne : b ≠ a := fun h => String.lt_irrefl a (h ▸ hlt)
  induction d with
  | nil => simp [insert, erase, hne]
  | cons first rest ih =>
      obtain ⟨k, u⟩ := first
      by_cases hk : k = a
      · subst hk
        simp [insert, erase, hne, String.lt_asymm hlt, ih]
      · by_cases hb : b = k
        · subst hb
          simp [insert, erase, hne]
        · by_cases hbk : b < k
          · simp [insert, erase, hk, hb, hbk, hne]
          · simp [insert, erase, hk, hb, hbk, ih]

theorem filter_erase_of_ne (d : Dict α) {key other : String} (hne : other ≠ key) :
    (erase d key).filter (fun e => e.1 == other) = d.filter fun e => e.1 == other := by
  induction d with
  | nil => rfl
  | cons first rest ih =>
      obtain ⟨k, u⟩ := first
      by_cases hk : k = key
      · subst hk
        rw [erase, if_pos rfl, ih, List.filter_cons_of_neg]
        simp [hne.symm]
      · simp [erase, hk, List.filter_cons, ih]

/-! ### One dictionary put into another -/

/-- What is put in comes before what was there. -/
theorem get?_insertAll_of_sorted (d : Dict α) {entries : Dict α} (h : Sorted entries) (key : String) :
    get? (insertAll d entries) key = (get? entries key).or (get? d key) := by
  induction entries generalizing d with
  | nil => rfl
  | cons first rest ih =>
      obtain ⟨k, v⟩ := first
      have hrest := ih (insert d k v) (List.pairwise_cons.mp h).2
      rw [insertAll, List.foldl_cons, ← insertAll, hrest, get?]
      by_cases hk : k = key
      · subst hk
        rw [get?_rest_of_sorted h, get?_insert_self, if_pos rfl, Option.none_or, Option.some_or]
      · rw [get?_insert_of_ne _ _ hk, if_neg hk]

theorem insertAll_append (d : Dict α) (first second : List (String × α)) :
    insertAll d (first ++ second) = insertAll (insertAll d first) second :=
  List.foldl_append

/-- An entry that may be absent. -/
theorem get?_insertAll_toList (d : Dict α) (name : String) (o : Option β) (f : β → α) (key : String) :
    get? (insertAll d (o.toList.map fun v => (name, f v))) key
      = if name = key then (o.map f).or (get? d key) else get? d key := by
  cases o with
  | none => simp [insertAll]
  | some v =>
      by_cases hname : name = key
      · subst hname
        simpa [insertAll] using get?_insert_self d name (f v)
      · simpa [insertAll, hname] using get?_insert_of_ne d (f v) hname

/-- Of the values that are put in under a name the last stays. -/
theorem get?_ofList_append_cons (before : List (String × α)) {behind : List (String × α)}
    {key : String} (value : α) (h : ∀ e ∈ behind, e.1 ≠ key) :
    get? (ofList (before ++ (key, value) :: behind)) key = some value := by
  rw [ofList, insertAll_append, insertAll, List.foldl_cons, ← insertAll,
    get?_insertAll_of_forall_ne _ h, get?_insert_self]

/-! ### Dictionaries of a value for each of some names -/

theorem get?_insertAll_map (d : Dict α) (names : List String) (f : String → α) (key : String) :
    get? (insertAll d (names.map fun n => (n, f n))) key
      = if key ∈ names then some (f key) else get? d key := by
  induction names generalizing d with
  | nil => rfl
  | cons n rest ih =>
      have hstep := ih (insert d n (f n))
      rw [List.map_cons, insertAll, List.foldl_cons, ← insertAll, hstep]
      by_cases hrest : key ∈ rest
      · rw [if_pos hrest, if_pos (List.mem_cons_of_mem _ hrest)]
      · rw [if_neg hrest]
        by_cases hn : n = key
        · subst hn
          rw [get?_insert_self, if_pos List.mem_cons_self]
        · rw [get?_insert_of_ne _ _ hn, if_neg]
          rw [List.mem_cons, not_or]
          exact ⟨Ne.symm hn, hrest⟩

theorem get?_ofList_map (names : List String) (f : String → α) (key : String) :
    get? (ofList (names.map fun n => (n, f n))) key = if key ∈ names then some (f key) else none :=
  get?_insertAll_map [] names f key

theorem mapValues_insert (g : α → β) (d : Dict α) (key : String) (value : α) :
    mapValues g (insert d key value) = insert (mapValues g d) key (g value) := by
  induction d with
  | nil => rfl
  | cons first rest ih =>
      obtain ⟨k, v⟩ := first
      have hcons : ∀ (e : String × α) (d : Dict α),
          mapValues g (e :: d) = (e.1, g e.2) :: mapValues g d := fun _ _ => rfl
      rw [insert, hcons, insert]
      by_cases hk : key = k
      · rw [if_pos hk, if_pos hk]
        rfl
      · by_cases hlt : key < k
        · rw [if_neg hk, if_neg hk, if_pos hlt, if_pos hlt]
          rfl
        · rw [if_neg hk, if_neg hk, if_neg hlt, if_neg hlt, hcons, ih]

theorem mapValues_ofList_map (g : α → β) (names : List String) (f : String → α) :
    mapValues g (ofList (names.map fun n => (n, f n))) = ofList (names.map fun n => (n, g (f n))) := by
  have hall : ∀ d : Dict α, mapValues g (insertAll d (names.map fun n => (n, f n)))
      = insertAll (mapValues g d) (names.map fun n => (n, g (f n))) := by
    induction names with
    | nil => exact fun _ => rfl
    | cons n rest ih => exact fun d => (ih (insert d n (f n))).trans (by rw [mapValues_insert]; rfl)
  exact hall []

/-- A new value under one of the names. -/
theorem insert_ofList_map {names : List String} (f : String → α) {key : String} (hkey : key ∈ names)
    (value : α) : insert (ofList (names.map fun n => (n, f n))) key value
      = ofList (names.map fun n => (n, if n = key then value else f n)) := by
  refine ext_of_sorted (sorted_insert (sorted_ofList _) _ _) (sorted_ofList _) ?_
  intro other
  rw [get?_ofList_map]
  by_cases hother : key = other
  · subst hother
    rw [get?_insert_self, if_pos hkey, if_pos rfl]
  · rw [get?_insert_of_ne _ _ hother, get?_ofList_map, if_neg (Ne.symm hother)]

/-! ### Dictionaries of two names -/

theorem ofList_pair {a b : String} (hne : a ≠ b) (x y : α) :
    ofList [(a, x), (b, y)] = if b < a then [(b, y), (a, x)] else [(a, x), (b, y)] := by
  simp [ofList, insertAll, insert, hne.symm]

theorem get?_ofList_pair {a b : String} (hne : a ≠ b) (x y : α) :
    get? (ofList [(a, x), (b, y)]) a = some x ∧ get? (ofList [(a, x), (b, y)]) b = some y := by
  rw [ofList_pair hne]
  split <;> simp [get?, hne, hne.symm]

theorem insert_ofList_pair {a b : String} (hne : a ≠ b) (x y z : α) :
    insert (ofList [(a, x), (b, y)]) a z = ofList [(a, z), (b, y)] ∧
      insert (ofList [(a, x), (b, y)]) b z = ofList [(a, x), (b, z)] := by
  rw [ofList_pair hne, ofList_pair hne, ofList_pair hne]
  by_cases hlt : b < a
  · simp [insert, hlt, hne, String.lt_asymm hlt]
  · simp [insert, hlt, hne.symm]

end Arcade.Dict
