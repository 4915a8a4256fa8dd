/-!
# Dictionaries

A dictionary from names is the list of its entries in strictly increasing order of the names, by
code point. So two dictionaries with the same entries are equal, and the order in which entries
are written out never depends on the order in which they were put in.

`get?` is the view: every operation is described by what `get?` says of the result.
-/

namespace Arcade

/-- A dictionary from names to values, in increasing order of the names. -/
abbrev Dict (α : Type) := List (String × α)

namespace Dict

variable {α β : Type}

/-- The value under a name. -/
def get? : Dict α → String → Option α
  | [], _ => none
  | (k, v) :: rest, key => if k = key then some v else get? rest key

/-- Whether a name has a value. -/
def contains (d : Dict α) (key : String) : Bool :=
  (get? d key).isSome

/-- Puts a value under a name, in place of the one that was there. -/
def insert : Dict α → String → α → Dict α
  | [], key, value => [(key, value)]
  | (k, v) :: rest, key, value =>
    if key = k then (k, value) :: rest
    else if key < k then (key, value) :: (k, v) :: rest
    else (k, v) :: insert rest key value

/-- Takes a name out. -/
def erase : Dict α → String → Dict α
  | [], _ => []
  | (k, v) :: rest, key => if k = key then erase rest key else (k, v) :: erase rest key

/-- Puts entries in one after the other; of two with one name the later stays. -/
def insertAll (d : Dict α) (entries : List (String × α)) : Dict α :=
  entries.foldl (fun acc e => insert acc e.1 e.2) d

/-- The dictionary of a list of entries; of two with one name the later stays. -/
def ofList (entries : List (String × α)) : Dict α :=
  insertAll [] entries

/-- The names, in increasing order. -/
def keys (d : Dict α) : List String :=
  d.map Prod.fst

/-- The values, in the order of their names. -/
def values (d : Dict α) : List α :=
  d.map Prod.snd

/-- Applies a function to every value. -/
def mapValues (f : α → β) (d : Dict α) : Dict β :=
  d.map (fun e => (e.1, f e.2))

/-- The entries are in strictly increasing order. -/
def Sorted (d : Dict α) : Prop :=
  d.Pairwise (fun a b => a.1 < b.1)

/-! ### What the operations do to the view -/

@[simp] theorem get?_nil (key : String) : get? ([] : Dict α) key = none := rfl

theorem get?_insert_self (d : Dict α) (key : String) (value : α) :
    get? (insert d key value) key = some value := by
  induction d with
  | nil => simp [insert, get?]
  | cons e rest ih =>
    obtain ⟨k, v⟩ := e
    by_cases h : key = k
    · simp [insert, get?, h]
    · by_cases hlt : key < k
      · simp [insert, get?, h, hlt]
      · simp [insert, get?, h, hlt, ih, Ne.symm h]

theorem get?_insert_of_ne (d : Dict α) {key other : String} (value : α) (hne : key ≠ other) :
    get? (insert d key value) other = get? d other := by
  induction d with
  | nil => simp [insert, get?, hne]
  | cons e rest ih =>
    obtain ⟨k, v⟩ := e
    by_cases h : key = k
    · subst h; simp [insert, get?, hne]
    · by_cases hlt : key < k
      · simp [insert, get?, h, hlt, hne]
      · simp [insert, get?, h, hlt, ih]

theorem get?_erase_self (d : Dict α) (key : String) : get? (erase d key) key = none := by
  induction d with
  | nil => rfl
  | cons e rest ih =>
    obtain ⟨k, v⟩ := e
    by_cases h : k = key <;> simp [erase, h, get?, ih]

theorem get?_erase_of_ne (d : Dict α) {key other : String} (hne : key ≠ other) :
    get? (erase d key) other = get? d other := by
  induction d with
  | nil => rfl
  | cons e rest ih =>
    obtain ⟨k, v⟩ := e
    by_cases h : k = key
    · subst h; simp [erase, get?, hne, ih]
    · simp [erase, h, get?, ih]

end Dict

end Arcade
