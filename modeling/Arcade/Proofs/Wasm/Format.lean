import Arcade.Proofs.Layout
import Arcade.Wasm.Module
import Mathlib.Algebra.Group.Nat.Defs
/-!
# The format of imports

The binary format of what stands in a section of imports, as layouts: numbers, names, the types that
go with the five kinds of import, and entries. Each is said without the reader, by how the parts
follow one another, and then shown to be what the reader reads.

A number may be laid out in more groups than it needs (`Number`), so that one module can be written
in many ways. Two limits are not the format's own: names have at most `maxNameSize` bytes, and a
reference names no type beyond `maxTypeIndex`.
-/

namespace Arcade.Wasm

open Layout

/-! ### Numbers -/

/-- A number of at most `width` bits, in groups of seven bits, lowest first. The top bit of a byte
says that another group follows; groups of zeros may follow as long as the width has room for them.
-/
inductive Number : (width : Nat) → Nat → Bytes → Prop
  | last {width : Nat} {b : UInt8} (hlast : b < 0x80) (hfits : b.toNat < 2 ^ width) :
      Number width b.toNat [b]
  | more {width high : Nat} {b : UInt8} {w : Bytes} (hmore : 0x80 ≤ b) (hroom : 7 < width)
      (hhigh : Number (width - 7) high w) : Number width (b.toNat - 0x80 + 0x80 * high) (b :: w)

/-- A number in one group, and as many groups before it as are asked for. -/
def groups : (before n : Nat) → Bytes
  | 0, n => [UInt8.ofNat n]
  | before + 1, n => UInt8.ofNat (n % 0x80 + 0x80) :: groups before (n / 0x80)

/-- A number may take as many groups as hold it and have room in the width. -/
theorem number_groups {width : Nat} (before n : Nat) (hroom : 7 * before < width)
    (hwidth : n < 2 ^ width)
    (hgroups : n < 2 ^ (7 * before + 7)) : Number width n (groups before n) := by
  induction before generalizing width n with
  | zero =>
      have hbyte : (UInt8.ofNat n).toNat = n := by
        simp only [UInt8.toNat_ofNat']
        omega
      have hlast : UInt8.ofNat n < 0x80 := by
        rw [UInt8.lt_iff_toNat_lt, hbyte]
        exact hgroups
      have h : Number width _ [UInt8.ofNat n] := .last hlast (by rwa [hbyte])
      rwa [hbyte] at h
  | succ before ih =>
      have hbyte : (UInt8.ofNat (n % 0x80 + 0x80)).toNat = n % 0x80 + 0x80 := by
        simp only [UInt8.toNat_ofNat']
        omega
      have hmore : 0x80 ≤ UInt8.ofNat (n % 0x80 + 0x80) := by
        rw [UInt8.le_iff_toNat_le, hbyte]
        exact Nat.le_add_left _ _
      have hhigh : Number (width - 7) (n / 0x80) (groups before (n / 0x80)) := by
        refine ih _ (by omega) ?_ ?_
        · rw [Nat.div_lt_iff_lt_mul (by decide), show (0x80 : Nat) = 2 ^ 7 from rfl, ← Nat.pow_add]
          rw [show width - 7 + 7 = width by omega]
          exact hwidth
        · rw [Nat.div_lt_iff_lt_mul (by decide), show (0x80 : Nat) = 2 ^ 7 from rfl, ← Nat.pow_add]
          exact hgroups
      have hvalue : n % 0x80 + 0x80 - 0x80 + 0x80 * (n / 0x80) = n := by omega
      have h := Number.more hmore (by omega) hhigh
      rw [hbyte, hvalue] at h
      exact h

theorem readBy_number (width : Nat) : ReadBy (Number width) (varNat width) := by
  intro b n rest
  induction b generalizing width n with
  | nil =>
      constructor
      · intro h
        simp [varNat] at h
      · rintro ⟨w, hw, h⟩
        cases hw <;> simp at h
  | cons c b ih =>
      rw [varNat, Nat.one_shiftLeft]
      constructor
      · intro h
        split at h
        next hlast =>
          split at h
          next hfits =>
            cases h
            exact ⟨[c], .last hlast hfits, rfl⟩
          · cases h
        next hmore =>
          split at h
          next hroom =>
            split at h
            next high tail hread =>
              cases h
              obtain ⟨w, hw, rfl⟩ := (ih _ _).mp hread
              exact ⟨c :: w, .more (UInt8.not_lt.mp hmore) hroom hw, rfl⟩
            · cases h
          · cases h
      · rintro ⟨w, hw, h⟩
        cases hw with
        | last hlast hfits =>
            obtain ⟨rfl, rfl⟩ := List.cons.inj h
            simp [hlast, hfits]
        | @more _ high _ v hmore hroom hhigh =>
            obtain ⟨rfl, rfl⟩ : c = _ ∧ b = v ++ rest := List.cons.inj h
            have hread : varNat (width - 7) (v ++ rest) = some (high, rest) :=
              (ih _ _).mpr ⟨v, hhigh, rfl⟩
            simp [UInt8.not_lt.mpr hmore, hroom, hread]

theorem not_number_nil {width n : Nat} : ¬ Number width n [] := by
  intro h
  cases h

/-- A number ends with its first byte unless the top bit of that is set. -/
theorem Number.eq_nil_or_le {width n : Nat} {b : UInt8} {v : Bytes}
    (h : Number width n (b :: v)) : v = [] ∨ 0x80 ≤ b := by
  cases h with
  | last _ _ => exact Or.inl rfl
  | more hmore _ _ => exact Or.inr hmore

/-! ### Names and vectors -/

/-- A text behind the number of its bytes. -/
def Name (s : String) (w : Bytes) : Prop :=
  ∃ size, Number 32 (Bytes.ofText s).length size ∧ (Bytes.ofText s).length ≤ maxNameSize ∧
    w = size ++ Bytes.ofText s

theorem readBy_name : ReadBy Name name := by
  have hread := (readBy_number 32).bind fun size =>
    ((readBy_splitAt? size).bind fun content => readBy_option (Bytes.toText? content)).guard
      (maxNameSize < size)
  refine hread.congr fun s w => ?_
  constructor
  · rintro ⟨size, hsize, hmax, rfl⟩
    exact ⟨_, size, _, hsize, ⟨Nat.not_lt.mpr hmax, _, _, [], ⟨rfl, rfl⟩,
      ⟨toText?_eq_some_iff.mpr rfl, rfl⟩, (List.append_nil _).symm⟩, rfl⟩
  · rintro ⟨n, size, v, hsize, ⟨hmax, content, _, _, ⟨rfl, rfl⟩, ⟨htext, rfl⟩, rfl⟩, rfl⟩
    obtain rfl := toText?_eq_some_iff.mp htext
    exact ⟨size, hsize, Nat.not_lt.mp hmax, by simp⟩

/-- Some values, one after the other. -/
inductive Items {α : Type} (layout : Layout α) : List α → Bytes → Prop
  | nil : Items layout [] []
  | cons {a : α} {as : List α} {v w : Bytes} (hfirst : layout a v) (hrest : Items layout as w) :
      Items layout (a :: as) (v ++ w)

/-- Some values behind their number. -/
def Vector {α : Type} (layout : Layout α) (as : List α) (w : Bytes) : Prop :=
  ∃ count items, Number 32 as.length count ∧ Items layout as items ∧ w = count ++ items

section

variable {α : Type} {layout : Layout α} {read : Reader α}

theorem readBy_times (h : layout.ReadBy read) (count : Nat) :
    ReadBy (fun as w => as.length = count ∧ Items layout as w) (times read count) := by
  induction count with
  | zero =>
      refine (readBy_option (some [])).congr fun as w => ?_
      constructor
      · rintro ⟨hlength, hitems⟩
        cases hitems with
        | nil => exact ⟨rfl, rfl⟩
        | cons _ _ => cases hlength
      · rintro ⟨has, rfl⟩
        obtain rfl := Option.some.inj has
        exact ⟨rfl, .nil⟩
  | succ count ih =>
      have hread := h.bind fun a => ih.bind fun as => readBy_option (some (a :: as))
      refine hread.congr fun as w => ?_
      constructor
      · rintro ⟨hlength, hitems⟩
        cases hitems with
        | nil => cases hlength
        | cons hfirst hrest =>
            exact ⟨_, _, _, hfirst, ⟨_, _, [], ⟨Nat.succ.inj hlength, hrest⟩, ⟨rfl, rfl⟩,
              (List.append_nil _).symm⟩, rfl⟩
      · rintro ⟨a, v, _, hfirst, ⟨as', u, _, ⟨rfl, hrest⟩, ⟨has, rfl⟩, rfl⟩, rfl⟩
        obtain rfl := Option.some.inj has
        rw [List.append_nil]
        exact ⟨rfl, .cons hfirst hrest⟩

theorem readBy_vector (h : layout.ReadBy read) : ReadBy (Vector layout) (vector read) := by
  have hread := (readBy_number 32).bind fun count => readBy_times h count
  refine hread.congr fun as w => ?_
  constructor
  · rintro ⟨count, items, hcount, hitems, rfl⟩
    exact ⟨_, count, items, hcount, ⟨rfl, hitems⟩, rfl⟩
  · rintro ⟨_, count, items, hcount, ⟨rfl, hitems⟩, rfl⟩
    exact ⟨count, items, hcount, hitems, rfl⟩

/-- What takes all of the bytes. -/
theorem whole_eq_some_iff (h : layout.ReadBy read) {b : Bytes} {a : α} :
    whole read b = some a ↔ layout a b := by
  unfold whole
  constructor
  · intro hread
    split at hread
    next a' hrest =>
      cases hread
      obtain ⟨w, hw, rfl⟩ := (h _ _ _).mp hrest
      rwa [List.append_nil]
    · cases hread
  · intro ha
    rw [h.self ha]

end

/-! ### Types -/

/-- The index of a type, with a sign that is not set: bit 6 of the last byte. -/
def TypeIndex (w : Bytes) : Prop :=
  ∃ n, Number 32 n w ∧ n ≤ maxTypeIndex ∧ ∀ b ∈ w.getLast?, b < 0x40

/-- What a reference points to: an abstract type, a shared one, or the index of a type. -/
inductive HeapType : Bytes → Prop
  | abstract {b : UInt8} (h : isAbstract b = true) : HeapType [b]
  | shared {b : UInt8} (h : isAbstract b = true) : HeapType [0x65, b]
  | index {w : Bytes} (h : TypeIndex w) : HeapType w

/-- A reference that may be null, one that may not, or the short form of the first. -/
inductive ReferenceType : Bytes → Prop
  | nullable {w : Bytes} (h : HeapType w) : ReferenceType (0x63 :: w)
  | present {w : Bytes} (h : HeapType w) : ReferenceType (0x64 :: w)
  | short {w : Bytes} (h : HeapType w) : ReferenceType w

/-- A number or a vector, or a reference. -/
inductive ValueType : Bytes → Prop
  | plain {b : UInt8} (hlo : 0x7B ≤ b) (hhi : b ≤ 0x7F) : ValueType [b]
  | reference {w : Bytes} (h : ReferenceType w) : ValueType w

theorem readBy_byte : ReadBy (fun b w => w = [b]) byte := by
  intro b a rest
  cases b with
  | nil => simp [byte]
  | cons c b => simp [byte]

theorem readBy_typeIndex : ReadBy (fun _ : Unit => TypeIndex) typeIndex := by
  -- the last byte of the number stands where the bytes behind it begin
  have hlast : ∀ {n w} (rest : Bytes), Number 32 n w →
      ((w ++ rest)[(w ++ rest).length - rest.length - 1]?.getD 0 < 0x40 ↔
        ∀ b ∈ w.getLast?, b < 0x40) := by
    intro n w rest hw
    cases w with
    | nil => exact absurd hw not_number_nil
    | cons b v =>
        rw [List.length_append, Nat.add_sub_cancel, List.getElem?_append_left (by simp),
          ← List.getLast?_eq_getElem?, List.getLast?_eq_some_getLast (List.cons_ne_nil b v)]
        simp
  intro b u rest
  dsimp only [typeIndex]
  constructor
  · intro h
    split at h
    next n rest' hread =>
      obtain ⟨w, hw, rfl⟩ := (readBy_number 32 _ _ _).mp hread
      split at h
      next hbounds =>
        obtain rfl := congrArg Prod.snd (Option.some.inj h)
        simp only [Bool.and_eq_true, decide_eq_true_eq] at hbounds
        exact ⟨w, ⟨n, hw, hbounds.1, (hlast _ hw).mp hbounds.2⟩, rfl⟩
      · cases h
    · cases h
  · rintro ⟨w, ⟨n, hw, hmax, hsign⟩, rfl⟩
    have hread : var32 (w ++ rest) = some (n, rest) := (readBy_number 32).append hw rest
    simp only [hread]
    rw [if_pos]
    simp only [Bool.and_eq_true, decide_eq_true_eq]
    exact ⟨hmax, (hlast rest hw).mpr hsign⟩

theorem not_typeIndex_nil : ¬ TypeIndex [] := by
  rintro ⟨n, hw, -, -⟩
  exact not_number_nil hw

/-- The first byte of an index is no abstract type and no mark. -/
theorem TypeIndex.first {b : UInt8} {v : Bytes} (h : TypeIndex (b :: v)) :
    isAbstract b = false ∧ b ≠ 0x63 ∧ b ≠ 0x64 ∧ b ≠ 0x65 ∧ (b < 0x7B ∨ 0x7F < b) := by
  obtain ⟨n, hw, -, hsign⟩ := h
  have hb : b < 0x40 ∨ 0x80 ≤ b := by
    rcases hw.eq_nil_or_le with rfl | hmore
    · exact Or.inl (hsign b rfl)
    · exact Or.inr hmore
  simp only [isAbstract, Bool.and_eq_false_iff, decide_eq_false_iff_not, ne_eq, ← UInt8.toNat_inj,
    UInt8.le_iff_toNat_le, UInt8.lt_iff_toNat_lt, UInt8.reduceToNat] at hb ⊢
  omega

theorem not_heapType_nil : ¬ HeapType [] := by
  intro h
  cases h with
  | index hindex => exact not_typeIndex_nil hindex

theorem readBy_heapType : ReadBy (fun _ : Unit => HeapType) heapType := by
  refine readBy_of_cons rfl (fun _ => not_heapType_nil) ?_
  intro c b u rest
  dsimp only [heapType]
  constructor
  · intro h
    split at h
    next habstract =>
      cases h
      exact ⟨[], .abstract habstract, rfl⟩
    · split at h
      next hshared =>
        obtain rfl := beq_iff_eq.mp hshared
        split at h
        next d b =>
          split at h
          next hd =>
            cases h
            exact ⟨[d], .shared hd, rfl⟩
          · cases h
        · cases h
      · obtain ⟨v, hv, rfl⟩ := (readBy_typeIndex.cons_iff fun _ => not_typeIndex_nil).mp h
        exact ⟨v, .index hv, rfl⟩
  · rintro ⟨v, hv, rfl⟩
    cases hv with
    | abstract habstract => simp [habstract]
    | @shared d hd => simp [show isAbstract 0x65 = false by decide, hd]
    | index hindex =>
        obtain ⟨habstract, -, -, hshared, -⟩ := hindex.first
        simpa [habstract, hshared] using readBy_typeIndex.append hindex rest

/-- The first byte of what a reference points to is no mark of a reference, and no number. -/
theorem HeapType.first {b : UInt8} {v : Bytes} (h : HeapType (b :: v)) :
    b ≠ 0x63 ∧ b ≠ 0x64 ∧ (b < 0x7B ∨ 0x7F < b) := by
  cases h with
  | abstract habstract =>
      simp only [isAbstract, Bool.and_eq_true, decide_eq_true_eq, ne_eq, ← UInt8.toNat_inj,
        UInt8.le_iff_toNat_le, UInt8.lt_iff_toNat_lt, UInt8.reduceToNat] at habstract ⊢
      omega
  | shared _ => decide
  | index hindex =>
      obtain ⟨-, hnullable, hpresent, -, hplain⟩ := hindex.first
      exact ⟨hnullable, hpresent, hplain⟩

theorem not_referenceType_nil : ¬ ReferenceType [] := by
  intro h
  cases h with
  | short hheap => exact not_heapType_nil hheap

theorem readBy_referenceType : ReadBy (fun _ : Unit => ReferenceType) referenceType := by
  refine readBy_of_cons rfl (fun _ => not_referenceType_nil) ?_
  intro c b u rest
  dsimp only [referenceType]
  constructor
  · intro h
    split at h
    next hmark =>
      obtain ⟨w, hw, rfl⟩ := (readBy_heapType _ _ _).mp h
      rcases Bool.or_eq_true_iff.mp hmark with hc | hc
      · obtain rfl := beq_iff_eq.mp hc
        exact ⟨w, .nullable hw, rfl⟩
      · obtain rfl := beq_iff_eq.mp hc
        exact ⟨w, .present hw, rfl⟩
    · obtain ⟨v, hv, rfl⟩ := (readBy_heapType.cons_iff fun _ => not_heapType_nil).mp h
      exact ⟨v, .short hv, rfl⟩
  · rintro ⟨v, hv, rfl⟩
    cases hv with
    | nullable hheap => exact readBy_heapType.append hheap rest
    | present hheap => exact readBy_heapType.append hheap rest
    | short hheap =>
        obtain ⟨hnullable, hpresent, -⟩ := hheap.first
        simpa [hnullable, hpresent] using readBy_heapType.append hheap rest

theorem readBy_valueType : ReadBy (fun _ : Unit => ValueType) valueType := by
  refine readBy_of_cons rfl ?_ ?_
  · intro _ h
    cases h with
    | reference hreference => exact not_referenceType_nil hreference
  · intro c b u rest
    dsimp only [valueType]
    constructor
    · intro h
      split at h
      next hplain =>
        cases h
        simp only [Bool.and_eq_true, decide_eq_true_eq] at hplain
        exact ⟨[], .plain hplain.1 hplain.2, rfl⟩
      · obtain ⟨v, hv, rfl⟩ :=
          (readBy_referenceType.cons_iff fun _ => not_referenceType_nil).mp h
        exact ⟨v, .reference hv, rfl⟩
    · rintro ⟨v, hv, rfl⟩
      cases hv with
      | plain hlo hhi => simp [hlo, hhi]
      | reference hreference =>
          have hplain : (decide (0x7B ≤ c) && decide (c ≤ 0x7F)) = false := by
            cases hreference with
            | nullable _ => decide
            | present _ => decide
            | short hheap =>
                rw [Bool.and_eq_false_iff, decide_eq_false_iff_not, decide_eq_false_iff_not,
                  UInt8.not_le, UInt8.not_le]
                exact hheap.first.2.2
          simpa [hplain] using readBy_referenceType.append hreference rest

/-! ### Bounds -/

/-- A number that is there only if it is announced, and is zero if not. -/
def NumberIf (announced : Prop) (width n : Nat) (w : Bytes) : Prop :=
  (announced ∧ Number width n w) ∨ (¬ announced ∧ n = 0 ∧ w = [])

/-- The width that flags give to bounds. -/
def boundWidth (flags : UInt8) : Nat :=
  if flags &&& 4 = 4 then 64 else 32

/-- Flags, none but those of the mask; a lower bound, an upper bound and a page size, the last two
if the flags announce them. -/
inductive Limits (mask : UInt8) : Bytes → Prop
  | intro {flags : UInt8} {low high size : Nat} {lower upper page : Bytes}
      (hflags : flags &&& mask = flags)
      (hlower : Number (boundWidth flags) low lower)
      (hupper : NumberIf (flags &&& 1 = 1) (boundWidth flags) high upper)
      (hpage : NumberIf (flags &&& 8 = 8) 32 size page) :
      Limits mask (flags :: (lower ++ upper ++ page))

theorem readBy_numberIf (announced : Prop) [Decidable announced] (width : Nat) :
    ReadBy (NumberIf announced width)
      fun b => if announced then varNat width b else some (0, b) := by
  by_cases h : announced
  · refine ((readBy_number width).congr ?_).of_eq ?_ <;> simp [NumberIf, h]
  · refine ((readBy_option (some 0)).congr ?_).of_eq ?_ <;> simp [NumberIf, h, eq_comm]

theorem readBy_limits (mask : UInt8) : ReadBy (fun _ : Unit => Limits mask) (limits mask) := by
  have hread := readBy_byte.bind fun flags =>
    ((readBy_number (boundWidth flags)).bind fun _ =>
      (readBy_numberIf (flags &&& 1 = 1) (boundWidth flags)).bind fun _ =>
        (readBy_numberIf (flags &&& 8 = 8) 32).bind fun _ =>
          readBy_option (some ())).guard (flags &&& mask ≠ flags)
  refine (hread.congr fun u w => ?_).of_eq fun b => ?_
  · constructor
    · rintro ⟨hflags, hlower, hupper, hpage⟩
      refine ⟨_, _, _, rfl, ⟨not_not_intro hflags, _, _, _, hlower, ⟨_, _, _, hupper,
        ⟨_, _, [], hpage, ⟨rfl, rfl⟩, rfl⟩, rfl⟩, rfl⟩, ?_⟩
      simp
    · rintro ⟨flags, _, _, rfl, ⟨hflags, _, _, _, hlower, ⟨_, _, _, hupper,
        ⟨_, _, _, hpage, ⟨-, rfl⟩, rfl⟩, rfl⟩, rfl⟩, rfl⟩
      simpa using Limits.intro (Decidable.not_not.mp hflags) hlower hupper hpage
  · -- the reader takes the parts that are not announced as it comes to them
    cases b with
    | nil => rfl
    | cons flags b =>
        by_cases hupper : flags &&& 1 = 1 <;> by_cases hpage : flags &&& 8 = 8 <;>
          simp [limits, byte, hupper, hpage, boundWidth, var32]

/-! ### Entries -/

/-- The type that goes with a kind of import: the index of a type for functions and for tags, which
stand behind a zero, the type of a reference and bounds for tables, bounds for memories, the type of
a value and two flags for globals. -/
inductive ImportType : ImportKind → Bytes → Prop
  | func {n : Nat} {w : Bytes} (hindex : Number 32 n w) : ImportType .func w
  | table {w bounds : Bytes} (hof : ReferenceType w) (hbounds : Limits 7 bounds) :
      ImportType .table (w ++ bounds)
  | memory {bounds : Bytes} (hbounds : Limits 15 bounds) : ImportType .memory bounds
  | global {w : Bytes} {flags : UInt8} (hof : ValueType w) (hflags : flags ≤ 3) :
      ImportType .global (w ++ [flags])
  | tag {n : Nat} {w : Bytes} (hindex : Number 32 n w) : ImportType .tag (0 :: w)

/-- The byte that stands for a kind. -/
def kindByte : ImportKind → UInt8
  | .func => 0
  | .table => 1
  | .memory => 2
  | .global => 3
  | .tag => 4

/-- An entry: two names, the kind, and the type that goes with it. -/
def Entry (i : HostImport) (w : Bytes) : Prop :=
  ∃ source field type, Name i.source source ∧ Name i.name field ∧ ImportType i.kind type ∧
    w = source ++ field ++ kindByte i.kind :: type

theorem importKind?_eq_some_iff {b : UInt8} {kind : ImportKind} :
    importKind? b = some kind ↔ b = kindByte kind := by
  constructor
  · intro h
    unfold importKind? at h
    repeat' split at h
    all_goals simp_all
    all_goals simp [← h, kindByte]
  · rintro rfl
    cases kind <;> rfl

/-- The index of a type where nothing is looked at but that it is there. -/
theorem readBy_index : ReadBy (fun (_ : Unit) w => ∃ n, Number 32 n w)
    fun b => (var32 b).bind fun found => some ((), found.2) := by
  refine (((readBy_number 32).bind fun _ => readBy_option (some ())).congr ?_).of_eq ?_
  · simp
  · simp [var32]

theorem readBy_importType (kind : ImportKind) :
    ReadBy (fun _ : Unit => ImportType kind) (importType kind) := by
  cases kind with
  | func =>
      refine readBy_index.congr fun u w => ?_
      constructor
      · intro h
        cases h with
        | func hindex => exact ⟨_, hindex⟩
      · rintro ⟨n, hindex⟩
        exact .func hindex
  | table =>
      refine (readBy_referenceType.bind fun _ => readBy_limits 7).congr fun u w => ?_
      constructor
      · intro h
        cases h with
        | table hof hbounds => exact ⟨(), _, _, hof, hbounds, rfl⟩
      · rintro ⟨_, _, _, hof, hbounds, rfl⟩
        exact .table hof hbounds
  | memory =>
      refine (readBy_limits 15).congr fun u w => ?_
      constructor
      · intro h
        cases h with
        | memory hbounds => exact hbounds
      · exact .memory
  | global =>
      have hread := readBy_valueType.bind fun _ => readBy_byte.bind fun flags =>
        (readBy_option (some ())).guard (3 < flags)
      refine (hread.congr fun u w => ?_).of_eq fun b => ?_
      · constructor
        · intro h
          cases h with
          | global hof hflags =>
              exact ⟨(), _, _, hof, ⟨_, _, [], rfl, ⟨UInt8.not_lt.mpr hflags, rfl, rfl⟩, rfl⟩, rfl⟩
        · rintro ⟨_, w, _, hof, ⟨flags, _, _, rfl, ⟨hflags, -, rfl⟩, rfl⟩, rfl⟩
          exact .global hof (UInt8.not_lt.mp hflags)
      · simp [importType, ← UInt8.not_le, ite_not]
  | tag =>
      have hread := readBy_byte.bind fun detail => readBy_index.guard (detail ≠ 0)
      refine (hread.congr fun u w => ?_).of_eq fun b => ?_
      · constructor
        · intro h
          cases h with
          | tag hindex => exact ⟨0, [0], _, rfl, ⟨not_not_intro rfl, _, hindex⟩, rfl⟩
        · rintro ⟨detail, _, _, rfl, ⟨hdetail, n, hindex⟩, rfl⟩
          obtain rfl := Decidable.not_not.mp hdetail
          exact .tag hindex
      · cases b with
        | nil => rfl
        | cons detail b => by_cases hdetail : detail = 0 <;> simp [importType, byte, hdetail]

theorem readBy_importEntry : ReadBy Entry importEntry := by
  have hread := readBy_name.bind fun source => readBy_name.bind fun field =>
    readBy_byte.bind fun tag => (readBy_option (importKind? tag)).bind fun kind =>
      (readBy_importType kind).bind fun _ => readBy_option (some (HostImport.mk source field kind))
  refine (hread.congr fun i w => ?_).of_eq fun b => ?_
  · constructor
    · rintro ⟨source, field, type, hsource, hfield, htype, rfl⟩
      refine ⟨_, source, _, hsource, ⟨_, field, _, hfield, ⟨_, [kindByte i.kind], _, rfl,
        ⟨i.kind, [], _, ⟨importKind?_eq_some_iff.mpr rfl, rfl⟩, ⟨(), type, [], htype,
          ⟨rfl, rfl⟩, rfl⟩, rfl⟩, rfl⟩, rfl⟩, ?_⟩
      simp
    · rintro ⟨_, source, _, hsource, ⟨_, field, _, hfield, ⟨_, _, _, rfl,
        ⟨kind, _, _, ⟨hkind, rfl⟩, ⟨_, type, _, htype, ⟨hi, rfl⟩, rfl⟩, rfl⟩, rfl⟩, rfl⟩, rfl⟩
      obtain rfl := Option.some.inj hi
      obtain rfl := importKind?_eq_some_iff.mp hkind
      exact ⟨source, field, type, hsource, hfield, htype, by simp⟩
  · simp [importEntry, Option.bind_assoc]

end Arcade.Wasm
