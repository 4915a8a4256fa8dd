import Arcade.Proofs.Pattern
/-!
# Whole words

The words of a text are its maximal runs of word characters (`Text.words`). A pattern for some texts as whole
words matches at a place exactly if a word of the text begins there that is one of them, and then it takes
just that word (`covers_words_iff`). The search for all matches goes on where the last one ended, so it
comes by each of these words once: it finds as many matches as there are such words
(`length_findAll_words`).
-/

namespace Arcade

namespace Text

variable {c : Char}

/-- A text, cut at all characters that are in no word. -/
def pieces (cs : List Char) : List (List Char) :=
  cs.splitOnP fun c => !isWord c

/-- The words of a text: its maximal runs of word characters. -/
def words (cs : List Char) : List (List Char) :=
  (pieces cs).filter fun piece => !piece.isEmpty

@[simp] theorem pieces_nil : pieces [] = [[]] := rfl

theorem pieces_cons_of_word (h : isWord c = true) (cs : List Char) :
    pieces (c :: cs) = (pieces cs).modifyHead (c :: ·) := by
  simp [pieces, List.splitOnP_cons_eq_if_modifyHead, h]

theorem pieces_cons_of_not_word (h : isWord c = false) (cs : List Char) :
    pieces (c :: cs) = [] :: pieces cs := by
  simp [pieces, List.splitOnP_cons_eq_if_modifyHead, h]

/-- The first piece is the run of word characters at the front; the others do not depend on it. -/
theorem pieces_eq (cs : List Char) :
    pieces cs = cs.takeWhile isWord :: (pieces (cs.dropWhile isWord)).tail := by
  induction cs with
  | nil => rfl
  | cons c cs ih =>
      cases h : isWord c with
      | true => rw [pieces_cons_of_word h, ih, List.takeWhile_cons_of_pos h, List.dropWhile_cons_of_pos h]; rfl
      | false =>
          rw [List.takeWhile_cons_of_neg (by simp [h]), List.dropWhile_cons_of_neg (by simp [h]),
            pieces_cons_of_not_word h, List.tail_cons]

theorem tail_pieces_cons_of_word (h : isWord c = true) (cs : List Char) :
    (pieces (c :: cs)).tail = (pieces cs).tail := by
  rw [pieces_cons_of_word h, List.tail_modifyHead]

/-- A character that is in no word keeps the words on its two sides apart. -/
theorem words_append_cons (h : isWord c = false) (a b : List Char) :
    words (a ++ c :: b) = words a ++ words b := by
  have hcut : pieces (a ++ c :: b) = pieces a ++ pieces b :=
    List.splitOnP_append_cons a b (by simp [h])
  rw [words, hcut, List.filter_append]
  rfl

end Text

namespace Place

open Text (isWord)

variable {taken : List Char} {s e : Place}

/-- Before a word character a word begins, unless one is under way. -/
theorem atWordEdge_of_ahead (hne : taken ≠ []) (hall : taken.all isWord = true)
    (h : Past taken s e) : s.atWordEdge = !s.before.head?.any isWord := by
  obtain ⟨c, rest, rfl⟩ := List.exists_cons_of_ne_nil hne
  rw [List.all_cons, Bool.and_eq_true] at hall
  rw [atWordEdge, h.1, List.cons_append, List.head?_cons, Option.any_some, hall.1]
  exact Bool.bne_true _

/-- Behind a word character a word ends, unless it goes on. -/
theorem atWordEdge_of_behind (hne : taken ≠ []) (hall : taken.all isWord = true)
    (h : Past taken s e) : e.atWordEdge = !e.after.head?.any isWord := by
  have hlast : isWord (taken.getLast hne) = true := List.all_eq_true.mp hall _ (List.getLast_mem hne)
  rw [atWordEdge, h.2, List.head?_append, List.head?_reverse, List.getLast?_eq_some_getLast hne,
    Option.some_or, Option.any_some, hlast]
  exact Bool.true_bne _

/-- The pieces of the text that begin at a place or later. Behind a word character, one is under way. -/
def piecesAhead (p : Place) : List (List Char) :=
  if p.before.head?.any isWord then (Text.pieces p.after).tail else Text.pieces p.after

/-- One character further the pieces ahead are the same, but for the one that began here. -/
theorem piecesAhead_cons (before : List Char) (c : Char) (rest : List Char) :
    piecesAhead ⟨before, c :: rest⟩ =
      (if before.head?.any isWord then [] else [(c :: rest).takeWhile isWord])
        ++ piecesAhead ⟨c :: before, rest⟩ := by
  have hnext : piecesAhead ⟨c :: before, rest⟩ = (Text.pieces (c :: rest)).tail := by
    rw [piecesAhead, List.head?_cons, Option.any_some]
    cases hc : isWord c with
    | true => rw [if_pos rfl, Text.tail_pieces_cons_of_word hc]
    | false => rw [if_neg Bool.false_ne_true, Text.pieces_cons_of_not_word hc, List.tail_cons]
  rw [hnext, piecesAhead]
  split
  · rfl
  · rw [Text.pieces_eq, List.tail_cons, List.singleton_append]

/-- The word ahead of a place goes up to where no word character follows. -/
theorem takeWhile_of_past (hall : taken.all isWord = true) (h : Past taken s e)
    (hend : e.after.head?.any isWord = false) :
    s.after.takeWhile isWord = taken ∧ s.after.dropWhile isWord = e.after := by
  have hstop : e.after.takeWhile isWord = [] ∧ e.after.dropWhile isWord = e.after := by
    cases hafter : e.after with
    | nil => exact ⟨rfl, rfl⟩
    | cons c rest =>
        rw [hafter] at hend
        have hc : ¬isWord c = true := by simpa using hend
        exact ⟨List.takeWhile_cons_of_neg hc, List.dropWhile_cons_of_neg hc⟩
  have htaken : ∀ c ∈ taken, isWord c = true := List.all_eq_true.mp hall
  rw [h.1, List.takeWhile_append_of_pos htaken, List.dropWhile_append_of_pos htaken, hstop.1, hstop.2,
    List.append_nil]
  exact ⟨rfl, rfl⟩

/-- Behind the word that begins here the pieces ahead are the others. -/
theorem piecesAhead_of_past (hstart : s.before.head?.any isWord = false) (hne : taken ≠ [])
    (hall : taken.all isWord = true) (h : Past taken s e) (hend : e.after.head?.any isWord = false) :
    s.piecesAhead = taken :: e.piecesAhead := by
  obtain ⟨htaken, hrest⟩ := takeWhile_of_past hall h hend
  have hbehind : e.before.head?.any isWord = true := by
    have hedge := atWordEdge_of_behind hne hall h
    rw [atWordEdge, hend] at hedge
    simpa using hedge
  rw [piecesAhead, hstart, if_neg Bool.false_ne_true, Text.pieces_eq, htaken, hrest, piecesAhead,
    if_pos hbehind]

end Place

namespace Pattern

open Place (Past)
open Text (isWord)

variable {s e : Place} {before after : List Char} {c : Char} {texts : List String}

/-! ### Where a whole word is -/

theorem covers_any_iff {choices : List Pattern} :
    (any choices).Covers s e ↔ ∃ p ∈ choices, p.Covers s e := by
  induction choices with
  | nil => simp [any, Covers]
  | cons p rest ih =>
      cases rest with
      | nil => simp [any]
      | cons q rest => simp [any, Covers, ih]

theorem covers_anyLit_iff : (anyLit texts).Covers s e ↔ ∃ t ∈ texts, Past t.toList s e := by
  simp only [anyLit, covers_any_iff, List.mem_map, ← covers_lit_iff]
  exact ⟨fun ⟨_, ⟨t, ht, hp⟩, hcovers⟩ => ⟨t, ht, hp ▸ hcovers⟩,
    fun ⟨t, ht, hcovers⟩ => ⟨_, ⟨t, ht, rfl⟩, hcovers⟩⟩

theorem covers_wholeWord_iff {p : Pattern} : (wholeWord p).Covers s e ↔
    s.atWordEdge = true ∧ p.Covers s e ∧ e.atWordEdge = true := by
  constructor
  · rintro ⟨_, ⟨hstart, rfl⟩, m, hcovers, hend, rfl⟩
    exact ⟨hstart, hcovers, hend⟩
  · rintro ⟨hstart, hcovers, hend⟩
    exact ⟨s, ⟨hstart, rfl⟩, e, hcovers, hend, rfl⟩

/-- Whether some texts could be words. -/
def AreWords (texts : List String) : Prop :=
  ∀ t ∈ texts, t.toList ≠ [] ∧ t.toList.all isWord = true

instance (texts : List String) : Decidable (AreWords texts) :=
  inferInstanceAs (Decidable (∀ t ∈ texts, _))

/-- Whether a run of word characters is one of some texts. -/
def isOneOf (texts : List String) (word : List Char) : Bool :=
  texts.contains (String.ofList word)

theorem isOneOf_iff {word : List Char} : isOneOf texts word = true ↔ ∃ t ∈ texts, t.toList = word := by
  rw [isOneOf, List.contains_iff_mem]
  constructor
  · exact fun h => ⟨_, h, String.toList_ofList⟩
  · rintro ⟨t, ht, rfl⟩
    rwa [String.ofList_toList]

/-- One of some words stands ahead of a place if none is under way there and the next word is one of
them. It is then taken whole. -/
theorem covers_words_iff (htexts : AreWords texts) :
    (wholeWord (anyLit texts)).Covers ⟨before, after⟩ e ↔
      before.head?.any isWord = false ∧ isOneOf texts (after.takeWhile isWord) = true ∧
        e = passed isWord before after := by
  rw [covers_wholeWord_iff, covers_anyLit_iff, ← covers_span_iff, isOneOf_iff]
  constructor
  · rintro ⟨hstart, ⟨t, ht, hpast⟩, hend⟩
    obtain ⟨hne, hall⟩ := htexts t ht
    rw [Place.atWordEdge_of_ahead hne hall hpast, Bool.not_eq_true'] at hstart
    rw [Place.atWordEdge_of_behind hne hall hpast, Bool.not_eq_true'] at hend
    have hword := (Place.takeWhile_of_past hall hpast hend).1.symm
    exact ⟨hstart, ⟨t, ht, hword⟩, ⟨_, hall, hpast⟩, hend⟩
  · rintro ⟨hstart, ⟨t, ht, hword⟩, ⟨taken, hall, hpast⟩, hend⟩
    obtain rfl : t.toList = taken := hword.trans (Place.takeWhile_of_past hall hpast hend).1
    have hne := (htexts t ht).1
    refine ⟨?_, ⟨t, ht, hpast⟩, ?_⟩
    · rw [Place.atWordEdge_of_ahead hne hall hpast, hstart, Bool.not_false]
    · rw [Place.atWordEdge_of_behind hne hall hpast, hend, Bool.not_false]

/-! ### The search for all -/

variable {p : Pattern}

theorem endAt?_eq_none_iff : p.endAt? s = none ↔ ∀ e, ¬p.Covers s e := by
  rw [← Option.not_isSome_iff_eq_none, endAt?_isSome_iff, not_exists]

theorem covers_of_endAt? (h : p.endAt? s = some e) : p.Covers s e := by
  obtain ⟨_, hcovers, he⟩ := covers_of_from? h
  obtain rfl := Option.some.inj he
  exact hcovers

theorem findAllFrom_nil_of_none {n : Nat} (h : p.endAt? ⟨before, []⟩ = none) :
    p.findAllFrom n ⟨before, []⟩ = [] := by
  cases n with
  | zero => rfl
  | succ n => simp [findAllFrom, findFrom?, h]

/-- Where no match begins the search goes on. -/
theorem findAllFrom_cons_of_none {n : Nat} (h : p.endAt? ⟨before, c :: after⟩ = none) :
    p.findAllFrom n ⟨before, c :: after⟩ = p.findAllFrom n ⟨c :: before, after⟩ := by
  cases n with
  | zero => rfl
  | succ n => simp only [findAllFrom, findFrom?, h]

/-- Behind a match that takes something the search goes on where it ends. -/
theorem findAllFrom_of_some {n : Nat} (h : p.endAt? s = some e) (hne : e.after ≠ s.after) :
    p.findAllFrom (n + 1) s = (s, e) :: p.findAllFrom n e := by
  have hfind : p.findFrom? s.before s.after = some (s, e) := by
    obtain ⟨before, after⟩ := s
    cases after with
    | nil => simp [findFrom?, h]
    | cons c after => simp [findFrom?, h]
  rw [findAllFrom, hfind]
  simp [hne]

/-- No empty text is a word. -/
theorem isOneOf_nil (htexts : AreWords texts) : isOneOf texts [] = false := by
  refine Bool.eq_false_iff.mpr fun hone => ?_
  obtain ⟨t, ht, hnil⟩ := isOneOf_iff.mp hone
  exact (htexts t ht).1 hnil

/-- Where no match begins, none of the words does. -/
theorem not_isOneOf_of_none (htexts : AreWords texts)
    (h : (wholeWord (anyLit texts)).endAt? ⟨before, after⟩ = none)
    (hstart : before.head?.any isWord = false) : isOneOf texts (after.takeWhile isWord) = false := by
  refine Bool.eq_false_iff.mpr fun hone => ?_
  exact endAt?_eq_none_iff.mp h _ ((covers_words_iff htexts).mpr ⟨hstart, hone, rfl⟩)

/-- A match takes one of the words, and so one of the pieces ahead. -/
theorem exists_piece_of_some (htexts : AreWords texts)
    (h : (wholeWord (anyLit texts)).endAt? s = some e) : ∃ word, isOneOf texts word = true ∧
      s.piecesAhead = word :: e.piecesAhead ∧ e.after.length < s.after.length := by
  obtain ⟨hstart, hone, hpassed⟩ := (covers_words_iff htexts).mp (covers_of_endAt? h)
  obtain ⟨⟨word, hall, hpast⟩, hstop⟩ := (covers_span_iff isWord s.before s.after).mpr hpassed
  rw [(Place.takeWhile_of_past hall hpast hstop).1] at hone
  have hne : word ≠ [] := by
    rintro rfl
    rw [isOneOf_nil htexts] at hone
    cases hone
  refine ⟨word, hone, Place.piecesAhead_of_past hstart hne hall hpast hstop, ?_⟩
  calc e.after.length < word.length + e.after.length :=
        Nat.lt_add_of_pos_left (List.length_pos_iff.mpr hne)
    _ = s.after.length := hpast.length.symm

/-- **A search for whole words finds each of them once.** The induction is on the text ahead: one character
further where no match begins, and behind the match where one does. -/
theorem length_findAllFrom_words (htexts : AreWords texts) {n : Nat} (hn : s.after.length < n) :
    ((wholeWord (anyLit texts)).findAllFrom n s).length = s.piecesAhead.countP (isOneOf texts) := by
  induction hlength : s.after.length using Nat.strongRecOn generalizing n s with
  | ind length ih =>
      subst hlength
      obtain ⟨n, rfl⟩ := Nat.exists_eq_succ_of_ne_zero (Nat.ne_zero_of_lt hn)
      cases hend : (wholeWord (anyLit texts)).endAt? s with
      | some e =>
          obtain ⟨word, hone, hpieces, hless⟩ := exists_piece_of_some htexts hend
          have hne : e.after ≠ s.after := fun heq => Nat.ne_of_lt hless (congrArg List.length heq)
          rw [findAllFrom_of_some hend hne, List.length_cons, ih _ hless (by omega) rfl, hpieces,
            List.countP_cons_of_pos hone]
      | none =>
          obtain ⟨before, after⟩ := s
          have hpiece := not_isOneOf_of_none htexts hend
          cases after with
          | nil =>
              rw [findAllFrom_nil_of_none hend, Place.piecesAhead]
              split <;> simp [isOneOf_nil htexts]
          | cons c rest =>
              rw [findAllFrom_cons_of_none hend, ih _ (Nat.lt_succ_self _) (Nat.lt_of_succ_lt hn) rfl,
                Place.piecesAhead_cons, List.countP_append]
              split
              next => rw [List.countP_nil, Nat.zero_add]
              next hstart => simp [hpiece (Bool.eq_false_iff.mpr hstart)]

/-- **A search for whole words finds as many matches as there are such words in the text.** -/
theorem length_findAll_words (htexts : AreWords texts) (cs : List Char) :
    ((wholeWord (anyLit texts)).findAll cs).length = (Text.words cs).countP (isOneOf texts) := by
  have hstart : (Place.start cs).piecesAhead = Text.pieces cs := rfl
  rw [findAll, length_findAllFrom_words htexts (Nat.lt_succ_self cs.length), hstart, Text.words,
    List.countP_filter]
  refine List.countP_congr fun piece _ => ?_
  cases piece with
  | nil => simp [isOneOf_nil htexts]
  | cons c rest => simp

example : ((wholeWord (anyLit ["if", "for"])).findAll "for (iffy) $if, if_".toList).length = 2 := by
  decide +kernel

end Pattern

end Arcade
