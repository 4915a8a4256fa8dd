import Arcade.Text.Bytes
import Mathlib.Algebra.Group.Nat.Defs
/-!
# Layouts

A `Layout` says in which bytes a value may be laid out: there may be several ways, as for a number
that may be padded. A reader reads a layout if it takes off the front of some bytes exactly what the
layout allows, and hands over the rest (`ReadBy`): it misses nothing that was laid out, and it makes
nothing up.

Everything that is said about stored forms comes from this one property:

* what was laid out is read back, whatever stands behind it (`ReadBy.append`);
* no bytes begin with two different values (`ReadBy.unique`).

Readers are put together by `ReadBy.bind`, from readers of the parts, so that the layout of a whole
is read off the reader. Numbers of a fixed width, and bytes and texts behind their length in so many
bytes, are laid out by `Fixed`, `Counted` and `CountedText`.

A store is asked for what stands at the front of some bytes, whatever comes after it (`FoundBy`). Of
what is cut off nothing is found (`FoundBy.none_of_cut`).
-/

namespace Arcade

/-! ### Numbers in bytes -/

namespace Bytes

theorem toNat_lt (b : Bytes) : toNat b < 256 ^ b.length := by
  induction b with
  | nil => exact Nat.one_pos
  | cons byte b ih =>
      have hbyte := byte.toNat_lt
      rw [toNat, List.length_cons, Nat.pow_succ]
      omega

/-- Bytes are those of the number they stand for. -/
theorem ofNat_toNat (b : Bytes) : ofNat b.length (toNat b) = b := by
  induction b with
  | nil => rfl
  | cons byte b ih =>
      have hbyte := byte.toNat_lt
      have hlow : (byte.toNat + 256 * toNat b) % 256 = byte.toNat := by omega
      have hhigh : (byte.toNat + 256 * toNat b) / 256 = toNat b := by omega
      rw [List.length_cons, toNat, ofNat, hlow, hhigh, ih, UInt8.ofNat_toNat]

/-- Bytes of one length stand for different numbers. -/
theorem toNat_inj {a b : Bytes} (hlength : a.length = b.length) : toNat a = toNat b ↔ a = b := by
  constructor
  · intro h
    rw [← ofNat_toNat a, ← ofNat_toNat b, hlength, h]
  · rintro rfl
    rfl

end Bytes

/-- In which bytes a value may be laid out. -/
abbrev Layout (α : Type) := α → Bytes → Prop

namespace Layout

variable {α β : Type} {layout : Layout α} {read : Bytes → Option (α × Bytes)} {a a' : α}
  {w w' rest rest' : Bytes}

/-- A reader takes off the front what a layout allows, and nothing else. -/
def ReadBy (layout : Layout α) (read : Bytes → Option (α × Bytes)) : Prop :=
  ∀ b a rest, read b = some (a, rest) ↔ ∃ w, layout a w ∧ b = w ++ rest

/-! ### What a reader of a layout does -/

theorem ReadBy.append (h : layout.ReadBy read) (ha : layout a w) (rest : Bytes) :
    read (w ++ rest) = some (a, rest) :=
  (h _ _ _).mpr ⟨w, ha, rfl⟩

/-- What is laid out is read to the end. -/
theorem ReadBy.self (h : layout.ReadBy read) (ha : layout a w) : read w = some (a, []) := by
  simpa using h.append ha []

/-- Bytes that begin with a value begin with no other, and with no other layout of it. -/
theorem ReadBy.unique (h : layout.ReadBy read) (ha : layout a w) (ha' : layout a' w')
    (heq : w ++ rest = w' ++ rest') : a = a' ∧ w = w' ∧ rest = rest' := by
  have hread := h.append ha rest
  rw [heq, h.append ha' rest'] at hread
  obtain ⟨rfl, rfl⟩ := Prod.mk.inj (Option.some.inj hread)
  exact ⟨rfl, List.append_cancel_right heq, rfl⟩

/-- Readers of the same layout are the same reader. -/
theorem ReadBy.congr {layout' : Layout α} (h : layout.ReadBy read)
    (hlayout : ∀ a w, layout' a w ↔ layout a w) : layout'.ReadBy read := by
  intro b a rest
  simp only [h b a rest, hlayout]

/-- What is said of a reader holds of one that reads the same. -/
theorem ReadBy.of_eq {read' : Bytes → Option (α × Bytes)} (h : layout.ReadBy read)
    (hread : ∀ b, read' b = read b) : layout.ReadBy read' := by
  intro b a rest
  rw [hread, h b a rest]

/-- In a layout that never is empty, the first byte is a part of the value. -/
theorem exists_cons_iff (hempty : ∀ a, ¬ layout a []) {first : UInt8} {b : Bytes} :
    (∃ w, layout a w ∧ first :: b = w ++ rest) ↔ ∃ v, layout a (first :: v) ∧ b = v ++ rest := by
  constructor
  · rintro ⟨w, ha, h⟩
    cases w with
    | nil => exact absurd ha (hempty a)
    | cons _ v =>
        obtain ⟨rfl, rfl⟩ := List.cons.inj h
        exact ⟨v, ha, rfl⟩
  · rintro ⟨v, ha, rfl⟩
    exact ⟨first :: v, ha, rfl⟩

theorem ReadBy.cons_iff (h : layout.ReadBy read) (hempty : ∀ a, ¬ layout a []) {first : UInt8}
    {b : Bytes} :
    read (first :: b) = some (a, rest) ↔ ∃ v, layout a (first :: v) ∧ b = v ++ rest := by
  rw [h, exists_cons_iff hempty]

/-- A reader that goes by the first byte. -/
theorem readBy_of_cons (hnil : read [] = none) (hempty : ∀ a, ¬ layout a [])
    (hcons : ∀ first b a rest,
      read (first :: b) = some (a, rest) ↔ ∃ v, layout a (first :: v) ∧ b = v ++ rest) :
    layout.ReadBy read := by
  intro b a rest
  cases b with
  | nil =>
      constructor
      · intro h
        rw [hnil] at h
        cases h
      · rintro ⟨w, ha, h⟩
        obtain ⟨rfl, -⟩ := List.append_eq_nil_iff.mp h.symm
        exact absurd ha (hempty a)
  | cons first b => rw [hcons, exists_cons_iff hempty]

/-! ### Putting readers together -/

/-- A value in no bytes at all, if there is one. -/
theorem readBy_option (found : Option α) :
    ReadBy (fun a w => found = some a ∧ w = []) fun b => found.bind fun a => some (a, b) := by
  intro b a rest
  simp only [Option.bind_eq_some_iff, Option.some.injEq, Prod.mk.injEq]
  constructor
  · rintro ⟨a, hfound, rfl, rfl⟩
    exact ⟨[], ⟨hfound, rfl⟩, rfl⟩
  · rintro ⟨w, ⟨hfound, rfl⟩, rfl⟩
    exact ⟨a, hfound, rfl, rfl⟩

/-- One value, and behind it another that may depend on it. -/
theorem ReadBy.bind {next : α → Layout β} {more : α → Bytes → Option (β × Bytes)}
    (h : layout.ReadBy read) (hnext : ∀ a, (next a).ReadBy (more a)) :
    ReadBy (fun c w => ∃ a u v, layout a u ∧ next a c v ∧ w = u ++ v)
      fun b => (read b).bind fun found => more found.1 found.2 := by
  intro b c rest
  simp only [Option.bind_eq_some_iff, Prod.exists]
  constructor
  · rintro ⟨a, b', hread, hmore⟩
    obtain ⟨u, hu, rfl⟩ := (h _ _ _).mp hread
    obtain ⟨v, hv, rfl⟩ := (hnext a _ _ _).mp hmore
    exact ⟨u ++ v, ⟨a, u, v, hu, hv, rfl⟩, by rw [List.append_assoc]⟩
  · rintro ⟨w, ⟨a, u, v, hu, hv, rfl⟩, rfl⟩
    exact ⟨a, v ++ rest, (List.append_assoc u v rest).symm ▸ h.append hu (v ++ rest),
      (hnext a).append hv rest⟩

/-- A value that is read only on a condition. -/
theorem ReadBy.guard (h : layout.ReadBy read) (refused : Prop) [Decidable refused] :
    ReadBy (fun a w => ¬ refused ∧ layout a w) fun b => if refused then none else read b := by
  intro b a rest
  by_cases hrefused : refused
  · simp [hrefused]
  · simp [hrefused, h b a rest]

/-! ### Bytes and texts -/

/-- As many bytes as are asked for. -/
theorem readBy_splitAt? (n : Nat) :
    ReadBy (fun content w => content.length = n ∧ w = content) (Bytes.splitAt? n) := by
  intro b content rest
  unfold Bytes.splitAt?
  constructor
  · intro h
    split at h
    next hn =>
      cases h
      exact ⟨_, ⟨List.length_take_of_le hn, rfl⟩, (List.take_append_drop n b).symm⟩
    · cases h
  · rintro ⟨w, ⟨rfl, rfl⟩, rfl⟩
    simp

/-- Bytes are read as the text whose bytes they are. -/
theorem toText?_eq_some_iff {b : Bytes} {s : String} :
    Bytes.toText? b = some s ↔ b = Bytes.ofText s := by
  unfold Bytes.toText? Bytes.ofText String.fromUTF8?
  constructor
  · intro h
    split at h
    next hvalid =>
      obtain rfl := Option.some.inj h
      simp [String.fromUTF8, String.toUTF8]
    · cases h
  · rintro rfl
    have hbytes : ByteArray.mk s.toUTF8.data.toList.toArray = s.toByteArray := by
      simp [String.toUTF8]
    simp only [hbytes, s.isValidUTF8, dif_pos]
    rfl

/-! ### Numbers, and what stands behind its length -/

/-- A number in `width` bytes. -/
def Fixed (width : Nat) : Layout Nat := fun n w =>
  n < 2 ^ (8 * width) ∧ w = Bytes.ofNat width n

/-- Bytes behind their length, which takes `width` bytes. -/
def Counted (width : Nat) : Layout Bytes := fun content w =>
  content.length < 2 ^ (8 * width) ∧ w = Bytes.ofNat width content.length ++ content

/-- A text behind the length of its bytes. -/
def CountedText (width : Nat) : Layout String := fun s w =>
  Counted width (Bytes.ofText s) w

theorem readBy_fixed (width : Nat) : ReadBy (Fixed width) fun b =>
    (b.splitAt? width).bind fun found => some (Bytes.toNat found.1, found.2) := by
  have hread := (readBy_splitAt? width).bind fun word => readBy_option (some (Bytes.toNat word))
  refine hread.congr fun n w => ?_
  constructor
  · rintro ⟨hn, rfl⟩
    refine ⟨_, _, [], ⟨Bytes.length_ofNat _ _, rfl⟩, ⟨?_, rfl⟩, (List.append_nil _).symm⟩
    rw [Bytes.toNat_ofNat, Nat.one_shiftLeft, Nat.mod_eq_of_lt hn]
  · rintro ⟨word, w, _, ⟨hlength, rfl⟩, ⟨hn, rfl⟩, rfl⟩
    obtain rfl := Option.some.inj hn
    have hlt := Bytes.toNat_lt w
    rw [hlength, show (256 : Nat) = 2 ^ 8 from rfl, ← Nat.pow_mul] at hlt
    refine ⟨hlt, ?_⟩
    rw [List.append_nil, ← hlength, Bytes.ofNat_toNat]

theorem readBy_counted (width : Nat) : ReadBy (Counted width) fun b =>
    (b.splitAt? width).bind fun size => size.2.splitAt? (Bytes.toNat size.1) := by
  have hread := (readBy_fixed width).bind fun size => readBy_splitAt? size
  refine (hread.congr fun content w => ?_).of_eq fun b => by simp [Option.bind_assoc]
  constructor
  · rintro ⟨hlength, rfl⟩
    exact ⟨_, _, _, ⟨hlength, rfl⟩, ⟨rfl, rfl⟩, rfl⟩
  · rintro ⟨_, _, _, ⟨hlength, rfl⟩, ⟨rfl, rfl⟩, rfl⟩
    exact ⟨hlength, rfl⟩

theorem readBy_countedText (width : Nat) : ReadBy (CountedText width) fun b =>
    ((b.splitAt? width).bind fun size => size.2.splitAt? (Bytes.toNat size.1)).bind fun content =>
      (Bytes.toText? content.1).bind fun s => some (s, content.2) := by
  have hread := (readBy_counted width).bind fun content => readBy_option (Bytes.toText? content)
  refine hread.congr fun s w => ?_
  constructor
  · intro hs
    exact ⟨_, _, [], hs, ⟨toText?_eq_some_iff.mpr rfl, rfl⟩, (List.append_nil _).symm⟩
  · rintro ⟨content, u, _, hcontent, ⟨htext, rfl⟩, rfl⟩
    obtain rfl := toText?_eq_some_iff.mp htext
    rwa [List.append_nil]

/-! ### Stores -/

variable {load : Bytes → Option α} {cut : Bytes}

/-- A loader finds a value exactly where the value stands at the front. -/
def FoundBy (layout : Layout α) (load : Bytes → Option α) : Prop :=
  ∀ b a, load b = some a ↔ ∃ w, layout a w ∧ w <+: b

theorem FoundBy.self (h : layout.FoundBy load) (ha : layout a w) : load w = some a :=
  (h _ _).mpr ⟨w, ha, List.prefix_rfl⟩

/-- What is cut off is not there, if there is one way only to lay the value out. -/
theorem FoundBy.none_of_cut (h : layout.FoundBy load) (hone : ∀ w', layout a w' → w' = w)
    (ha : layout a w) (hcut : cut <+: w) (hne : cut ≠ w) : load cut = none := by
  cases hfound : load cut with
  | none => rfl
  | some a' =>
      obtain ⟨w', ha', hfront⟩ := (h _ _).mp hfound
      -- another value would stand at the front of the whole as well
      have hwhole : load w = some a' := (h _ _).mpr ⟨w', ha', hfront.trans hcut⟩
      obtain rfl := Option.some.inj ((h.self ha).symm.trans hwhole)
      obtain rfl := hone w' ha'
      exact absurd (hcut.eq_of_length_le hfront.length_le) hne

end Layout

end Arcade
