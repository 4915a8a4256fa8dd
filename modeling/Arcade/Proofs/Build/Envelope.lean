import Arcade.Build.Envelope
import Arcade.Proofs.Layout
import Arcade.Wasm.Policy
import Mathlib.Algebra.Group.Nat.Defs
/-!
# Envelopes are read back

An envelope is the mark, and behind it the source with its length (`wrap?_eq_some_iff`). A source is
found exactly where its envelope stands at the front (`foundBy_unwrap?`). From this come the way back,
the envelopes that are cut off, and that nothing else is opened (`envelopes_are_read_back`).

The mark is not how a module begins. So no policy on imports has anything to say about what this
toolchain makes.
-/

namespace Arcade.Build

open Layout

namespace Envelope

variable {source : String} {bytes : Bytes}

/-! ### The layout -/

theorem length_le_max32_iff (source : String) :
    (Bytes.ofText source).length ≤ Words.max32 ↔ source.utf8ByteSize < 2 ^ 32 :=
  Nat.lt_succ_iff.symm

theorem wrap?_eq_some_iff :
    wrap? source = some bytes ↔ ∃ w, CountedText sizeWidth source w ∧ bytes = mark ++ w := by
  have hfits := length_le_max32_iff source
  constructor
  · intro h
    dsimp only [wrap?] at h
    split at h
    next hsize =>
      obtain rfl := Option.some.inj h
      exact ⟨_, ⟨hfits.mp hsize, rfl⟩, List.append_assoc _ _ _⟩
    · cases h
  · rintro ⟨w, ⟨hsize, rfl⟩, rfl⟩
    rw [← List.append_assoc]
    exact if_pos (hfits.mpr hsize)

/-- There is an envelope for a source exactly if its size fits. -/
theorem wrap?_isSome_iff : (∃ bytes, wrap? source = some bytes) ↔ source.utf8ByteSize < 2 ^ 32 := by
  constructor
  · rintro ⟨bytes, h⟩
    obtain ⟨w, ⟨hsize, -⟩, -⟩ := wrap?_eq_some_iff.mp h
    exact hsize
  · intro hsize
    exact ⟨_, wrap?_eq_some_iff.mpr ⟨_, ⟨hsize, rfl⟩, rfl⟩⟩

theorem wrap?_eq_none (hsize : 2 ^ 32 ≤ source.utf8ByteSize) : wrap? source = none :=
  Option.eq_none_iff_forall_ne_some.mpr fun bytes h =>
    Nat.not_lt.mpr hsize (wrap?_isSome_iff.mp ⟨bytes, h⟩)

/-- Opening takes the mark, then bytes behind their length. -/
theorem unwrap?_eq (b : Bytes) : unwrap? b = (b.splitAt? mark.length).bind fun start =>
    ((start.2.splitAt? sizeWidth).bind fun size => size.2.splitAt? (Bytes.toNat size.1)).bind
      fun content => if start.1 = mark then content.1.toText? else none := by
  simp [unwrap?, Option.bind_assoc]

/-- A source is found exactly where its envelope stands at the front. -/
theorem foundBy_unwrap? : FoundBy (fun s w => wrap? s = some w) unwrap? := by
  intro b s
  simp only [unwrap?_eq, Option.bind_eq_some_iff, Prod.exists, readBy_splitAt? _ _ _ _,
    readBy_counted _ _ _ _]
  constructor
  · rintro ⟨start, _, ⟨_, ⟨-, rfl⟩, rfl⟩, content, rest, ⟨w, hw, rfl⟩, hs⟩
    split at hs
    next hmark =>
      obtain rfl := hmark
      obtain rfl := toText?_eq_some_iff.mp hs
      exact ⟨mark ++ w, wrap?_eq_some_iff.mpr ⟨w, hw, rfl⟩, rest, List.append_assoc _ _ _⟩
    · cases hs
  · rintro ⟨_, hwrap, rest, rfl⟩
    obtain ⟨w, hw, rfl⟩ := wrap?_eq_some_iff.mp hwrap
    exact ⟨mark, w ++ rest, ⟨mark, ⟨rfl, rfl⟩, List.append_assoc _ _ _⟩, Bytes.ofText s, rest,
      ⟨w, hw, rfl⟩, (if_pos rfl).trans (toText?_eq_some_iff.mpr rfl)⟩

/-- Envelopes do not begin like modules. -/
theorem isWasm_of_wrap? (h : wrap? source = some bytes) : Wasm.isWasm bytes = false := by
  obtain ⟨w, -, rfl⟩ := wrap?_eq_some_iff.mp h
  rfl

end Envelope

/-! ### The toolchain -/

namespace Toolchain

open Envelope

variable {source : String} {product : Product}

theorem envelope_build_eq_ok_iff : envelope.build source = .ok product ↔
    wrap? source = some product.bytes ∧ product.sourceMap = some Envelope.sourceMap := by
  unfold envelope
  dsimp only
  cases wrap? source with
  | none => simp
  | some bytes =>
      obtain ⟨made, sourceMap⟩ := product
      simp [eq_comm]

/-- **Envelopes are read back.** A source of less than 2^32 bytes is put in an envelope and taken out of it
again, but not out of an envelope that is cut off. Whatever bytes a source is taken out of, they begin with
its envelope. A larger source is refused, with its size. No envelope begins like a module, so that no policy
on imports refuses one. -/
theorem envelopes_are_read_back (source : String) :
    (source.utf8ByteSize < 2 ^ 32 → ∃ product, envelope.build source = .ok product ∧
      unwrap? product.bytes = some source ∧
      ∀ cut, cut <+: product.bytes → cut ≠ product.bytes → unwrap? cut = none) ∧
    (∀ b, unwrap? b = some source →
      ∃ product, envelope.build source = .ok product ∧ product.bytes <+: b) ∧
    (2 ^ 32 ≤ source.utf8ByteSize → envelope.build source
      = .error (.failed "envelope" "refused" (tooLarge source.utf8ByteSize))) ∧
    ∀ product, envelope.build source = .ok product →
      ¬ Wasm.header <+: product.bytes ∧
        ∀ policy : Wasm.ImportPolicy, policy.checkBuilt product.bytes = .ok () := by
  refine ⟨fun hsize => ?_, fun b h => ?_, fun hsize => ?_, fun product hbuild => ?_⟩
  · obtain ⟨bytes, hwrap⟩ := wrap?_isSome_iff.mpr hsize
    have hone : ∀ w, wrap? source = some w → w = bytes :=
      fun w hw => Option.some.inj (hw.symm.trans hwrap)
    exact ⟨⟨bytes, _⟩, envelope_build_eq_ok_iff.mpr ⟨hwrap, rfl⟩, foundBy_unwrap?.self hwrap,
      fun cut hcut hne => foundBy_unwrap?.none_of_cut hone hwrap hcut hne⟩
  · obtain ⟨bytes, hwrap, hfront⟩ := (foundBy_unwrap? b source).mp h
    exact ⟨⟨bytes, _⟩, envelope_build_eq_ok_iff.mpr ⟨hwrap, rfl⟩, hfront⟩
  · unfold envelope
    dsimp only
    rw [wrap?_eq_none hsize]
  · have hother := isWasm_of_wrap? (envelope_build_eq_ok_iff.mp hbuild).1
    refine ⟨fun hheader => ?_, fun policy => ?_⟩
    · exact Bool.eq_false_iff.mp hother (List.isPrefixOf_iff_prefix.mpr hheader)
    · rw [Wasm.ImportPolicy.checkBuilt, hother]
      rfl

theorem utf8ByteSize_replicate (n : Nat) :
    (String.ofList (List.replicate n 'a')).utf8ByteSize = n := by
  induction n with
  | zero => rfl
  | succ n ih =>
      rw [List.replicate_succ, ← List.singleton_append, String.ofList_append,
        String.utf8ByteSize_append, ih]
      exact Nat.add_comm 1 n

/-- A letter of two bytes is read back, also with a byte behind its envelope; the smallest source that is
too large is refused. -/
theorem envelopes_are_read_back_of_letters :
    let product : Product :=
      ⟨[0x4D, 0x42, 0x58, 0x31, 2, 0, 0, 0, 0xC3, 0xA9], some Envelope.sourceMap⟩
    let large := String.ofList (List.replicate (2 ^ 32) 'a')
    envelope.build "é" = .ok product ∧ unwrap? product.bytes = some "é" ∧
      (∃ found, envelope.build "é" = .ok found ∧ found.bytes <+: product.bytes ++ [7]) ∧
      unwrap? (product.bytes.take 9) = none ∧
      Wasm.ImportPolicy.checkBuilt {} product.bytes = .ok () ∧
      envelope.build large = .error (.failed "envelope" "refused" (tooLarge large.utf8ByteSize)) := by
  intro product large
  obtain ⟨hkept, hfront, -, hlinked⟩ := envelopes_are_read_back "é"
  have hbuild : envelope.build "é" = .ok product := rfl
  obtain ⟨made, hmade, hread, hcut⟩ := hkept (by decide)
  obtain rfl := Except.ok.inj (hbuild.symm.trans hmade)
  have hlarge : 2 ^ 32 ≤ large.utf8ByteSize := Nat.le_of_eq (utf8ByteSize_replicate _).symm
  exact ⟨hbuild, hread, hfront _ (by decide), hcut _ (List.take_prefix _ _) (by decide),
    (hlinked product hbuild).2 {}, (envelopes_are_read_back large).2.2.1 hlarge⟩

end Toolchain

end Arcade.Build
