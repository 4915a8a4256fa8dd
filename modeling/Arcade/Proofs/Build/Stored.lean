import Arcade.Build.Artifact
import Arcade.Proofs.Digest.ContentHash
import Arcade.Proofs.Layout
import Mathlib.Algebra.Group.Nat.Defs
/-!
# Stored artifacts

The stored form of an artifact is a layout of its fields, one after the other, and each field is
read back by its own loader (`readBy_loadBytes` and those after it). So the loader of the fields
finds an artifact exactly at the front of the bytes that begin with its stored form
(`loadFields_eq_some_iff`), and a stored form that is cut off anywhere begins with none.

`load_store` puts the check of the hash behind that: what was stored is loaded if its hash string is
that of its bytes, and refused under both hashes if it is not.
-/

namespace Arcade

open Layout

namespace Build

namespace Artifact

/-! ### The layout of the fields -/

/-- A number that a word holds. -/
def Word (n : Nat) (w : Bytes) : Prop :=
  n < 2 ^ 64 ∧ w = Bytes.ofNat wordWidth n

theorem readBy_word : ReadBy Word fun b =>
    (b.splitAt? wordWidth).bind fun found => some (Bytes.toNat found.1, found.2) :=
  readBy_fixed wordWidth

/-- Bytes whose number a word holds, in their stored form. -/
theorem readBy_loadBytes :
    ReadBy (fun content w => content.length < 2 ^ 64 ∧ w = storeBytes content) loadBytes :=
  readBy_counted wordWidth

theorem readBy_loadText :
    ReadBy (fun s w => (Bytes.ofText s).length < 2 ^ 64 ∧ w = storeText s) loadText :=
  readBy_countedText wordWidth

theorem readBy_loadOption :
    ReadBy (fun o w => (∀ s ∈ o, (Bytes.ofText s).length < 2 ^ 64) ∧ w = storeOption o)
      loadOption := by
  refine readBy_of_cons rfl ?_ ?_
  · rintro (_ | s) ⟨-, h⟩ <;> cases h
  · intro tag b o rest
    constructor
    · intro h
      dsimp only [loadOption] at h
      split at h
      next hnone =>
        cases h
        exact ⟨[], ⟨nofun, by rw [beq_iff_eq.mp hnone]; rfl⟩, rfl⟩
      split at h
      next hsome =>
        obtain ⟨⟨s, b⟩, hread, ho⟩ := Option.map_eq_some_iff.mp h
        obtain ⟨rfl, rfl⟩ := Prod.mk.inj ho
        obtain ⟨w, ⟨hlength, rfl⟩, rfl⟩ := (readBy_loadText _ _ _).mp hread
        exact ⟨_, ⟨by simpa using hlength, by rw [beq_iff_eq.mp hsome]; rfl⟩, rfl⟩
      · cases h
    · rintro ⟨v, ⟨hlength, hv⟩, rfl⟩
      cases o with
      | none =>
          obtain ⟨rfl, rfl⟩ := List.cons.inj hv
          rfl
      | some s =>
          obtain ⟨rfl, rfl⟩ := List.cons.inj hv
          have hread := readBy_loadText.append ⟨hlength s rfl, rfl⟩ rest
          simp [loadOption, hread]

theorem readBy_loadInt : ReadBy (fun n w => w = storeInt n) loadInt := by
  have hread := readBy_word.bind fun word => readBy_option (some (UInt64.ofNat word).toInt64)
  refine (hread.congr fun n w => ?_).of_eq ?_
  · constructor
    · rintro rfl
      refine ⟨_, _, [], ⟨n.toUInt64.toNat_lt, rfl⟩, ⟨?_, rfl⟩, (List.append_nil _).symm⟩
      simp
    · rintro ⟨word, _, _, ⟨hword, rfl⟩, ⟨hn, rfl⟩, rfl⟩
      obtain rfl := Option.some.inj hn
      have hsame : (UInt64.ofNat word).toInt64.toUInt64 = UInt64.ofNat word := rfl
      rw [storeInt, hsame, UInt64.toNat_ofNat_of_lt' hword, List.append_nil]
  · simp [loadInt, Option.bind_assoc]

/-- An artifact whose bytes and texts are no longer than a word can say. -/
structure Fits (a : Artifact) : Prop where
  bytes : a.bytes.length < 2 ^ 64
  contentHash : (Bytes.ofText a.contentHash).length < 2 ^ 64
  sourceMap : ∀ s ∈ a.sourceMap, (Bytes.ofText s).length < 2 ^ 64
  toolchain : (Bytes.ofText a.toolchain).length < 2 ^ 64

/-- An artifact is found exactly where its stored form stands. -/
theorem loadFields_eq_some_iff {a : Artifact} {b : Bytes} :
    loadFields b = some a ↔ a.Fits ∧ a.store <+: b := by
  constructor
  · intro h
    simp only [loadFields, Option.bind_eq_bind, Option.bind_eq_some_iff, Prod.exists,
      readBy_loadBytes _ _ _, readBy_loadText _ _ _, readBy_loadOption _ _ _,
      readBy_loadInt _ _ _] at h
    obtain ⟨bytes, _, ⟨_, ⟨hbytes, rfl⟩, rfl⟩, hash, _, ⟨_, ⟨hhash, rfl⟩, rfl⟩, map, _,
      ⟨_, ⟨hmap, rfl⟩, rfl⟩, tool, _, ⟨_, ⟨htool, rfl⟩, rfl⟩, time, rest, ⟨_, rfl, rfl⟩, ha⟩ := h
    obtain rfl := Option.some.inj ha
    exact ⟨⟨hbytes, hhash, hmap, htool⟩, rest, by simp [store]⟩
  · rintro ⟨hfits, rest, rfl⟩
    simp only [store, loadFields, List.append_assoc, readBy_loadBytes.append ⟨hfits.bytes, rfl⟩,
      readBy_loadText.append ⟨hfits.contentHash, rfl⟩,
      readBy_loadOption.append ⟨hfits.sourceMap, rfl⟩,
      readBy_loadText.append ⟨hfits.toolchain, rfl⟩, readBy_loadInt.append rfl,
      Option.bind_eq_bind, Option.bind_some]

/-- The loader of the fields finds artifacts in their stored form. -/
theorem foundBy_loadFields : FoundBy (fun a w => a.Fits ∧ w = a.store) loadFields := by
  intro b a
  rw [loadFields_eq_some_iff]
  simp [and_assoc]

theorem loadFields_store {a : Artifact} (hfits : a.Fits) : loadFields a.store = some a :=
  foundBy_loadFields.self ⟨hfits, rfl⟩

/-- What is cut off is not there. -/
theorem loadFields_of_cut {a : Artifact} (hfits : a.Fits) {cut : Bytes} (hcut : cut <+: a.store)
    (hne : cut ≠ a.store) : loadFields cut = none :=
  foundBy_loadFields.none_of_cut (fun _ ha => ha.2) ⟨hfits, rfl⟩ hcut hne

/-! ### The check behind the loader -/

theorem verify_eq_ok_iff {a : Artifact} : a.verify = .ok () ↔
    Text.asciiLowerText (Text.trim a.contentHash) = ContentHash.ofBytes a.bytes := by
  rw [← ContentHash.verify_iff, verify]
  split
  next h => simp [h]
  next h => simp [h]

theorem verify_eq_error {a : Artifact}
    (h : Text.asciiLowerText (Text.trim a.contentHash) ≠ ContentHash.ofBytes a.bytes) :
    a.verify = .error (.hashMismatch a.contentHash (ContentHash.ofBytes a.bytes)) := by
  rw [verify, if_neg (mt ContentHash.verify_iff.mp h)]

theorem load_eq_ok_iff {a : Artifact} {b : Bytes} :
    load b = .ok a ↔ loadFields b = some a ∧ a.verify = .ok () := by
  unfold load
  cases loadFields b with
  | none => simp
  | some a' =>
      simp only [Option.some.injEq]
      cases hverify : a'.verify with
      | error e =>
          constructor
          · exact nofun
          · rintro ⟨rfl, hok⟩
            rw [hverify] at hok
            cases hok
      | ok _ =>
          constructor
          · intro h
            obtain rfl := Except.ok.inj h
            exact ⟨rfl, hverify⟩
          · rintro ⟨rfl, -⟩
            rfl

/-- An artifact comes out of the store as it was put there, and only with a hash string that is that
of its bytes; what is left of a stored form that is cut off is not readable. -/
theorem load_store (a : Artifact) (hfits : a.Fits) :
    (Text.asciiLowerText (Text.trim a.contentHash) = ContentHash.ofBytes a.bytes →
        load a.store = .ok a) ∧
      (Text.asciiLowerText (Text.trim a.contentHash) ≠ ContentHash.ofBytes a.bytes →
        load a.store = .error (.hashMismatch a.contentHash (ContentHash.ofBytes a.bytes))) ∧
      (∀ cut, cut <+: a.store → cut ≠ a.store → load cut = .error .unreadable) ∧
      ∀ b a', load b = .ok a' → a'.store <+: b ∧ a'.verify = .ok () := by
  refine ⟨fun hhash => ?_, fun hhash => ?_, fun cut hcut hne => ?_, fun b a' hload => ?_⟩
  · exact load_eq_ok_iff.mpr ⟨loadFields_store hfits, verify_eq_ok_iff.mpr hhash⟩
  · rw [load, loadFields_store hfits]
    simp only [verify_eq_error hhash, Except.map]
  · rw [load, loadFields_of_cut hfits hcut hne]
  · obtain ⟨hread, hverify⟩ := load_eq_ok_iff.mp hload
    exact ⟨(loadFields_eq_some_iff.mp hread).2, hverify⟩

/-- An artifact under its hash string in upper case, behind a blank; what is left of its stored
form; and an artifact under a hash string that is not its own. -/
theorem load_store_of_abc :
    let hash := " BA7816BF8F01CFEA414140DE5DAE2223B00361A396177A9CB410FF61F20015AD"
    let a : Artifact := ⟨[97, 98, 99], hash, some "map", "ts", -1⟩
    let b : Artifact := ⟨[97, 98], hash, none, "ts", 0⟩
    load a.store = .ok a ∧ load (a.store.take 90) = .error .unreadable ∧
      load b.store = .error (.hashMismatch hash (ContentHash.ofBytes [97, 98])) := by
  intro hash a b
  have ha : a.Fits := ⟨by decide, by decide, by decide, by decide⟩
  have hb : b.Fits := ⟨by decide, by decide, by decide, by decide⟩
  have hpart : a.store.take 90 <+: a.store := List.take_prefix _ _
  obtain ⟨hloaded, -, hcut, -⟩ := load_store a ha
  obtain ⟨-, hrefused, -⟩ := load_store b hb
  exact ⟨hloaded (by decide +kernel), hcut _ hpart (by decide +kernel),
    hrefused (by decide +kernel)⟩

end Artifact

end Build

end Arcade
