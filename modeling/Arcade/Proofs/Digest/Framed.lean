import Arcade.Digest.Framed
import Arcade.Proofs.Layout
import Mathlib.Algebra.Group.Nat.Defs
/-!
# Framed messages keep their parts apart

A text behind its length says itself where it ends, also if its own bytes look like a length. So what
stands behind a text is known from the bytes (`textBytes_append_inj`), and texts one after the other are
(`flatMap_textBytes_inj`): the message of some texts belongs to no others, and the message of a session's
seed to no other session and no other seating (`message_sessionParts_inj`).

A seed is the first eight bytes of a hash and nothing less (`seedOf_inj`). What has different messages
thus has the same seed only if the hashes collide there (`sessions_keep_apart`).
-/

namespace Arcade.Framed

open Layout

/-! ### Texts behind their lengths -/

/-- A text whose length a word of 64 bits can say. -/
def Fits (s : String) : Prop :=
  (Bytes.ofText s).length < 2 ^ 64

instance (s : String) : Decidable (Fits s) := inferInstanceAs (Decidable (_ < _))

theorem countedText_textBytes {s : String} (hs : Fits s) : CountedText 8 s (textBytes s) :=
  ⟨hs, rfl⟩

theorem textBytes_append_inj {s t : String} {b c : Bytes} (hs : Fits s) (ht : Fits t)
    (h : textBytes s ++ b = textBytes t ++ c) : s = t ∧ b = c := by
  obtain ⟨hst, -, hbc⟩ :=
    (readBy_countedText 8).unique (countedText_textBytes hs) (countedText_textBytes ht) h
  exact ⟨hst, hbc⟩

theorem textBytes_append_ne_nil (s : String) (b : Bytes) : textBytes s ++ b ≠ [] := by
  refine List.ne_nil_of_length_pos ?_
  rw [textBytes, List.append_assoc, List.length_append, Bytes.length_ofNat]
  exact Nat.lt_of_lt_of_le (by decide) (Nat.le_add_right 8 _)

theorem flatMap_textBytes_inj {texts texts' : List String} (hfits : ∀ s ∈ texts, Fits s)
    (hfits' : ∀ s ∈ texts', Fits s) (h : texts.flatMap textBytes = texts'.flatMap textBytes) :
    texts = texts' := by
  induction texts generalizing texts' with
  | nil =>
      cases texts' with
      | nil => rfl
      | cons t texts' => exact absurd h.symm (textBytes_append_ne_nil t _)
  | cons s texts ih =>
      cases texts' with
      | nil => exact absurd h (textBytes_append_ne_nil s _)
      | cons t texts' =>
          obtain ⟨hs, hrest⟩ := List.forall_mem_cons.mp hfits
          obtain ⟨ht, hrest'⟩ := List.forall_mem_cons.mp hfits'
          obtain ⟨rfl, htail⟩ := textBytes_append_inj hs ht h
          rw [ih hrest hrest' htail]

/-! ### Messages -/

theorem message_texts (domain : Bytes) (texts : List String) :
    message domain (texts.map .text) = domain ++ texts.flatMap textBytes := by
  rw [message, List.flatMap_map]
  rfl

theorem message_texts_inj {domain : Bytes} {texts texts' : List String}
    (hfits : ∀ s ∈ texts, Fits s) (hfits' : ∀ s ∈ texts', Fits s)
    (h : message domain (texts.map .text) = message domain (texts'.map .text)) : texts = texts' := by
  rw [message_texts, message_texts] at h
  exact flatMap_textBytes_inj hfits hfits' (List.append_cancel_left h)

theorem message_sessionParts (session : String) (players : List String) :
    message seedDomain (sessionParts session players) = seedDomain ++ (textBytes session ++
      (wordBytes (UInt64.ofNat players.length) ++ players.flatMap textBytes)) := by
  rw [message, sessionParts, List.flatMap_cons, List.flatMap_cons, List.flatMap_map]
  rfl

/-- The number of players takes eight bytes, whichever they are; the ids behind it count themselves. -/
theorem message_sessionParts_inj {i j : String} {p q : List String} (hp : ∀ s ∈ i :: p, Fits s)
    (hq : ∀ s ∈ j :: q, Fits s)
    (h : message seedDomain (sessionParts i p) = message seedDomain (sessionParts j q)) :
    (i, p) = (j, q) := by
  obtain ⟨hi, hplayers⟩ := List.forall_mem_cons.mp hp
  obtain ⟨hj, hplayers'⟩ := List.forall_mem_cons.mp hq
  rw [message_sessionParts, message_sessionParts] at h
  obtain ⟨rfl, hseating⟩ := textBytes_append_inj hi hj (List.append_cancel_left h)
  have hcount : (wordBytes (UInt64.ofNat p.length)).length
      = (wordBytes (UInt64.ofNat q.length)).length := by
    rw [wordBytes, wordBytes, Bytes.length_ofNat, Bytes.length_ofNat]
  rw [flatMap_textBytes_inj hplayers hplayers' (List.append_inj_right hseating hcount)]

/-! ### Seeds -/

/-- Two messages that differ, with hashes that begin with the same eight bytes. -/
structure Collides (m m' : Bytes) : Prop where
  differ : m ≠ m'
  hashes : (Sha256.digest m).take 8 = (Sha256.digest m').take 8

/-- A seed says the first eight bytes of the hash. -/
theorem seedOf_inj {h h' : Bytes} (hlength : 8 ≤ h.length) (hlength' : 8 ≤ h'.length) :
    seedOf h = seedOf h' ↔ h.take 8 = h'.take 8 := by
  have hsize : (h.take 8).length = 8 := List.length_take_of_le hlength
  have hsize' : (h'.take 8).length = 8 := List.length_take_of_le hlength'
  have hlt := Bytes.toNat_lt (h.take 8)
  have hlt' := Bytes.toNat_lt (h'.take 8)
  rw [hsize] at hlt
  rw [hsize'] at hlt'
  rw [← Bytes.toNat_inj (hsize.trans hsize'.symm), ← UInt64.toNat_inj, seedOf, seedOf,
    UInt64.toNat_ofNat_of_lt' hlt, UInt64.toNat_ofNat_of_lt' hlt']

theorem seedOf_digest_eq_iff {m m' : Bytes} (hne : m ≠ m') :
    seedOf (Sha256.digest m) = seedOf (Sha256.digest m') ↔ Collides m m' := by
  rw [seedOf_inj (by simp) (by simp)]
  exact ⟨fun hsame => ⟨hne, hsame⟩, fun hcollides => hcollides.hashes⟩

/-- **Sessions keep apart.** Sessions with different ids or seatings have different messages, and the same
seed exactly if the hashes of these collide in their first eight bytes. The same is true of any two lists of
texts behind one domain. Texts are taken to be no longer than a word of 64 bits can say, as all are that fit
a memory. -/
theorem sessions_keep_apart :
    (∀ (i j : String) (p q : List String), (∀ s ∈ i :: p, Fits s) → (∀ s ∈ j :: q, Fits s) →
      (i, p) ≠ (j, q) →
        let m := message seedDomain (sessionParts i p)
        let m' := message seedDomain (sessionParts j q)
        m ≠ m' ∧ (sessionSeed i p = sessionSeed j q ↔ Collides m m')) ∧
    ∀ (domain : Bytes) (texts texts' : List String), (∀ s ∈ texts, Fits s) →
      (∀ s ∈ texts', Fits s) → texts ≠ texts' →
        let m := message domain (texts.map .text)
        let m' := message domain (texts'.map .text)
        m ≠ m' ∧ (seedOf (Sha256.digest m) = seedOf (Sha256.digest m') ↔ Collides m m') := by
  constructor
  · intro i j p q hp hq hne m m'
    have hdiffer : m ≠ m' := fun h => hne (message_sessionParts_inj hp hq h)
    exact ⟨hdiffer, seedOf_digest_eq_iff hdiffer⟩
  · intro domain texts texts' hfits hfits' hne m m'
    have hdiffer : m ≠ m' := fun h => hne (message_texts_inj hfits hfits' h)
    exact ⟨hdiffer, seedOf_digest_eq_iff hdiffer⟩

/-- A seating with one player whose id is the bytes of two others with the length between them, and the
same texts cut in two ways. -/
theorem sessions_keep_apart_of_lookalikes :
    let inner := "a\x01\x00\x00\x00\x00\x00\x00\x00b"
    message seedDomain (sessionParts "s" ["a", "b"]) ≠ message seedDomain (sessionParts "s" [inner]) ∧
      message [] (["ab", "c"].map .text) ≠ message [] (["a", "bc"].map .text) := by
  intro inner
  exact ⟨(sessions_keep_apart.1 "s" "s" ["a", "b"] [inner] (by decide) (by decide) (by decide)).1,
    (sessions_keep_apart.2 [] ["ab", "c"] ["a", "bc"] (by decide) (by decide) (by decide)).1⟩

end Arcade.Framed
