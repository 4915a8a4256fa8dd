import Arcade.Pattern
import Mathlib.Logic.Relation
/-!
# What patterns describe

Matching is a search: it tries the ends of a pattern one after the other and comes back when what
follows does not fit. `Pattern.Covers` says without any search between which two places of a text a
pattern matches. What the search comes back with is made of such an end (`covers_of_from?`), and it
comes back with something if there is one that suits its continuation (`from?_of_covers`). So a
pattern is in a text exactly if it covers some piece of it (`isIn_iff_occurs`).

A piece that is covered stays covered when other lines are put around the text (`covers_amid`),
provided that nothing depends on where the text ends: a `span` takes all that it can, so it might
reach beyond the last line. `seamless` is the test that this cannot happen.
-/

namespace Arcade

open Text (isWord)

namespace Place

/-- The whole text that a place is in. -/
def text (p : Place) : List Char :=
  p.before.reverse ++ p.after

/-- Whether one place is behind another by some characters. -/
def Past (taken : List Char) (s e : Place) : Prop :=
  s.after = taken ++ e.after ∧ e.before = taken.reverse ++ s.before

theorem past_nil_iff {s e : Place} : Past [] s e ↔ e = s := by
  constructor
  · rintro ⟨hafter, hbefore⟩
    cases s
    cases e
    simp_all
  · rintro rfl
    exact ⟨rfl, rfl⟩

theorem Past.trans {first second : List Char} {s m e : Place} (h : Past first s m)
    (h' : Past second m e) : Past (first ++ second) s e := by
  constructor
  · rw [h.1, h'.1, List.append_assoc]
  · rw [h'.2, h.2, List.reverse_append, List.append_assoc]

theorem past_of_nil_iff {taken before : List Char} {e : Place} :
    Past taken ⟨before, []⟩ e ↔ taken = [] ∧ e = ⟨before, []⟩ := by
  constructor
  · rintro ⟨hafter, hbefore⟩
    obtain ⟨rfl, hend⟩ := List.append_eq_nil_iff.mp hafter.symm
    exact ⟨rfl, past_nil_iff.mp ⟨hafter, hbefore⟩⟩
  · rintro ⟨rfl, rfl⟩
    exact ⟨rfl, rfl⟩

theorem past_cons_iff {c d : Char} {taken before rest : List Char} {e : Place} :
    Past (d :: taken) ⟨before, c :: rest⟩ e ↔ c = d ∧ Past taken ⟨c :: before, rest⟩ e := by
  constructor
  · rintro ⟨hafter, hbefore⟩
    obtain ⟨rfl, hrest⟩ := List.cons.inj hafter
    exact ⟨rfl, hrest, by rw [hbefore, List.reverse_cons, List.append_assoc]; rfl⟩
  · rintro ⟨rfl, hrest, hbefore⟩
    exact ⟨congrArg (c :: ·) hrest, by rw [hbefore, List.reverse_cons, List.append_assoc]; rfl⟩

theorem Past.length {taken : List Char} {s e : Place} (h : Past taken s e) :
    s.after.length = taken.length + e.after.length := by
  rw [h.1, List.length_append]

theorem Past.text {taken : List Char} {s e : Place} (h : Past taken s e) : e.text = s.text := by
  unfold Place.text
  rw [h.1, h.2, List.reverse_append, List.reverse_reverse, List.append_assoc]

/-- The places of a text are those behind its start. -/
theorem past_start_iff {cs : List Char} {p : Place} :
    (∃ taken, Past taken (.start cs) p) ↔ p.text = cs := by
  constructor
  · rintro ⟨taken, htaken⟩
    exact htaken.text
  · rintro rfl
    exact ⟨p.before.reverse, rfl, by simp [start]⟩

end Place

namespace Pattern

open Place (Past)

variable {β : Type} {s e : Place}

/-! ### Covering -/

/-- Whether a pattern matches from one place to another. -/
def Covers : Pattern → Place → Place → Prop
  | .empty, s, e => e = s
  | .one accepts, s, e => ∃ c, accepts c = true ∧ Past [c] s e
  | .run accepts, s, e => ∃ taken, taken.all accepts = true ∧ Past taken s e
  | .span accepts, s, e =>
    (∃ taken, taken.all accepts = true ∧ Past taken s e) ∧ e.after.head?.any accepts = false
  | .seq first second, s, e => ∃ m, first.Covers s m ∧ second.Covers m e
  | .alt first second, s, e => first.Covers s e ∨ second.Covers s e
  | .many piece, s, e => Relation.ReflTransGen (fun s e => piece.Covers s e) s e
  | .wordEdge, s, e => s.atWordEdge = true ∧ e = s
  | .lineStart, s, e => s.atLineStart = true ∧ e = s

/-- Whether a pattern matches somewhere in a text. -/
def Occurs (pattern : Pattern) (cs : List Char) : Prop :=
  ∃ s e, s.text = cs ∧ pattern.Covers s e

/-- A match goes forward, by the characters that it takes. -/
theorem exists_past_of_covers {p : Pattern} (h : p.Covers s e) : ∃ taken, Past taken s e := by
  induction p generalizing s e with
  | empty => exact ⟨[], Place.past_nil_iff.mpr h⟩
  | one accepts =>
      obtain ⟨c, -, hpast⟩ := h
      exact ⟨[c], hpast⟩
  | run accepts =>
      obtain ⟨taken, -, hpast⟩ := h
      exact ⟨taken, hpast⟩
  | span accepts =>
      obtain ⟨⟨taken, -, hpast⟩, -⟩ := h
      exact ⟨taken, hpast⟩
  | seq first second ihfirst ihsecond =>
      obtain ⟨m, hfirst, hsecond⟩ := h
      obtain ⟨taken, htaken⟩ := ihfirst hfirst
      obtain ⟨taken', htaken'⟩ := ihsecond hsecond
      exact ⟨taken ++ taken', htaken.trans htaken'⟩
  | alt first second ihfirst ihsecond =>
      rcases h with h | h
      · exact ihfirst h
      · exact ihsecond h
  | many piece ih =>
      change Relation.ReflTransGen _ s e at h
      induction h with
      | refl => exact ⟨[], Place.past_nil_iff.mpr rfl⟩
      | tail _ hlast ihinit =>
          obtain ⟨taken, htaken⟩ := ihinit
          obtain ⟨taken', htaken'⟩ := ih hlast
          exact ⟨taken ++ taken', htaken.trans htaken'⟩
  | wordEdge => exact ⟨[], Place.past_nil_iff.mpr h.2⟩
  | lineStart => exact ⟨[], Place.past_nil_iff.mpr h.2⟩

/-! ### The search finds what is covered -/

section

variable {accepts : Char → Bool} {before rest : List Char} {c : Char}

theorem not_covers_one_nil : ¬(one accepts).Covers ⟨before, []⟩ e := by
  rintro ⟨c, -, hpast⟩
  cases (Place.past_of_nil_iff.mp hpast).1

theorem covers_one_cons :
    (one accepts).Covers ⟨before, c :: rest⟩ e ↔ accepts c = true ∧ e = ⟨c :: before, rest⟩ := by
  constructor
  · rintro ⟨d, haccepts, hpast⟩
    obtain ⟨rfl, hend⟩ := Place.past_cons_iff.mp hpast
    exact ⟨haccepts, Place.past_nil_iff.mp hend⟩
  · rintro ⟨haccepts, rfl⟩
    exact ⟨c, haccepts, Place.past_cons_iff.mpr ⟨rfl, Place.past_nil_iff.mpr rfl⟩⟩

theorem covers_run_nil : (run accepts).Covers ⟨before, []⟩ e ↔ e = ⟨before, []⟩ := by
  constructor
  · rintro ⟨taken, -, hpast⟩
    exact (Place.past_of_nil_iff.mp hpast).2
  · rintro rfl
    exact ⟨[], rfl, Place.past_nil_iff.mpr rfl⟩

theorem covers_run_cons : (run accepts).Covers ⟨before, c :: rest⟩ e ↔
    (accepts c = true ∧ (run accepts).Covers ⟨c :: before, rest⟩ e) ∨ e = ⟨before, c :: rest⟩ := by
  constructor
  · rintro ⟨taken, hall, hpast⟩
    cases taken with
    | nil => exact Or.inr (Place.past_nil_iff.mp hpast)
    | cons d taken =>
        obtain ⟨rfl, hrest⟩ := Place.past_cons_iff.mp hpast
        rw [List.all_cons, Bool.and_eq_true] at hall
        exact Or.inl ⟨hall.1, taken, hall.2, hrest⟩
  · rintro (⟨haccepts, taken, hall, hpast⟩ | rfl)
    · exact ⟨c :: taken, by simp [haccepts, hall], Place.past_cons_iff.mpr ⟨rfl, hpast⟩⟩
    · exact ⟨[], rfl, Place.past_nil_iff.mpr rfl⟩

theorem covers_span_nil : (span accepts).Covers ⟨before, []⟩ e ↔ e = ⟨before, []⟩ := by
  constructor
  · rintro ⟨hrun, -⟩
    exact covers_run_nil.mp hrun
  · rintro rfl
    exact ⟨covers_run_nil.mpr rfl, rfl⟩

theorem covers_span_cons_of_accepts (h : accepts c = true) :
    (span accepts).Covers ⟨before, c :: rest⟩ e ↔ (span accepts).Covers ⟨c :: before, rest⟩ e := by
  constructor
  · rintro ⟨hrun, hend⟩
    rcases covers_run_cons.mp hrun with ⟨-, hrun⟩ | rfl
    · exact ⟨hrun, hend⟩
    · simp [h] at hend
  · rintro ⟨hrun, hend⟩
    exact ⟨covers_run_cons.mpr (Or.inl ⟨h, hrun⟩), hend⟩

theorem covers_span_cons_of_not_accepts (h : accepts c = false) :
    (span accepts).Covers ⟨before, c :: rest⟩ e ↔ e = ⟨before, c :: rest⟩ := by
  constructor
  · rintro ⟨hrun, -⟩
    rcases covers_run_cons.mp hrun with ⟨haccepts, -⟩ | hend
    · exact absurd haccepts (by simp [h])
    · exact hend
  · rintro rfl
    exact ⟨covers_run_cons.mpr (Or.inr rfl), by simp [h]⟩

end

section

variable {accepts : Char → Bool} {k : Place → Option β}

theorem runThen_cons_of_accepts {c : Char} (h : accepts c = true) (before rest : List Char) :
    runThen accepts k before (c :: rest)
      = (runThen accepts k (c :: before) rest).or (k ⟨before, c :: rest⟩) := by
  rw [runThen, if_pos h]
  cases runThen accepts k (c :: before) rest <;> rfl

/-- A run hands on a place behind accepted characters. -/
theorem covers_of_runThen {before after : List Char} {b : β}
    (h : runThen accepts k before after = some b) :
    ∃ e, (run accepts).Covers ⟨before, after⟩ e ∧ k e = some b := by
  induction after generalizing before with
  | nil => exact ⟨_, covers_run_nil.mpr rfl, h⟩
  | cons c rest ih =>
      cases haccepts : accepts c with
      | false =>
          rw [runThen, haccepts, if_neg Bool.false_ne_true] at h
          exact ⟨_, covers_run_cons.mpr (Or.inr rfl), h⟩
      | true =>
          rw [runThen_cons_of_accepts haccepts, Option.or_eq_some_iff] at h
          rcases h with h | ⟨-, h⟩
          · obtain ⟨e, hrun, he⟩ := ih h
            exact ⟨e, covers_run_cons.mpr (Or.inl ⟨haccepts, hrun⟩), he⟩
          · exact ⟨_, covers_run_cons.mpr (Or.inr rfl), h⟩

theorem runThen_of_covers {before after : List Char}
    (hrun : (run accepts).Covers ⟨before, after⟩ e) (h : (k e).isSome = true) :
    (runThen accepts k before after).isSome = true := by
  induction after generalizing before with
  | nil =>
      obtain rfl := covers_run_nil.mp hrun
      exact h
  | cons c rest ih =>
      rcases covers_run_cons.mp hrun with ⟨haccepts, hrun⟩ | rfl
      · rw [runThen_cons_of_accepts haccepts, Option.isSome_or, Bool.or_eq_true]
        exact Or.inl (ih hrun)
      · cases haccepts : accepts c with
        | false => rwa [runThen, haccepts, if_neg Bool.false_ne_true]
        | true =>
            rw [runThen_cons_of_accepts haccepts, Option.isSome_or, Bool.or_eq_true]
            exact Or.inr h

end

/-- A span ends where `passed` says. -/
theorem covers_span_iff (accepts : Char → Bool) (before after : List Char) :
    (span accepts).Covers ⟨before, after⟩ e ↔ e = passed accepts before after := by
  induction after generalizing before with
  | nil => rw [covers_span_nil, passed]
  | cons c rest ih =>
      cases haccepts : accepts c with
      | false => rw [covers_span_cons_of_not_accepts haccepts, passed, haccepts, if_neg (by simp)]
      | true => rw [covers_span_cons_of_accepts haccepts, ih, passed, if_pos haccepts]

/-- Repetitions that take nothing can be left out. -/
theorem exists_step_of_many {piece : Pattern} (h : (many piece).Covers s e) :
    e = s ∨ ∃ m, piece.Covers s m ∧ m.after.length < s.after.length ∧ (many piece).Covers m e := by
  -- from the front, so that what is left after a first step that takes nothing is covered too
  change Relation.ReflTransGen _ s e at h
  induction h using Relation.ReflTransGen.head_induction_on with
  | refl => exact Or.inl rfl
  | @head s m hstep hrest ih =>
      obtain ⟨taken, htaken⟩ := exists_past_of_covers hstep
      cases taken with
      | nil =>
          obtain rfl := Place.past_nil_iff.mp htaken
          exact ih
      | cons c taken =>
          refine Or.inr ⟨m, hstep, ?_, hrest⟩
          rw [htaken.length, List.length_cons]
          omega

section

variable {piece : Pattern}

theorem manyThen_cons (k : Place → Option β) (c : Char) (ahead : List Char) (s : Place) :
    manyThen piece.from? k (c :: ahead) s
      = (piece.from? (manyThen piece.from? k ahead) s).or (k s) := by
  rw [manyThen]
  cases piece.from? (manyThen piece.from? k ahead) s <;> rfl

theorem covers_of_manyThen {k : Place → Option β} {ahead : List Char} {b : β}
    (hpiece : ∀ {k : Place → Option β} {s : Place}, piece.from? k s = some b →
      ∃ e, piece.Covers s e ∧ k e = some b)
    (h : manyThen piece.from? k ahead s = some b) :
    ∃ e, (many piece).Covers s e ∧ k e = some b := by
  induction ahead generalizing s with
  | nil => exact ⟨s, Relation.ReflTransGen.refl, h⟩
  | cons c ahead ih =>
      rw [manyThen_cons, Option.or_eq_some_iff] at h
      rcases h with h | ⟨-, h⟩
      · obtain ⟨m, hstep, hm⟩ := hpiece h
        obtain ⟨e, hrest, he⟩ := ih hm
        exact ⟨e, Relation.ReflTransGen.head hstep hrest, he⟩
      · exact ⟨s, Relation.ReflTransGen.refl, h⟩

/-- Each repetition that is needed takes a character, so as many as there are characters ahead are
enough. -/
theorem manyThen_of_covers {k : Place → Option β} {ahead : List Char}
    (hpiece : ∀ {k : Place → Option β} {s e : Place}, piece.Covers s e → (k e).isSome = true →
      (piece.from? k s).isSome = true)
    (hahead : s.after.length ≤ ahead.length) (hmany : (many piece).Covers s e)
    (h : (k e).isSome = true) : (manyThen piece.from? k ahead s).isSome = true := by
  induction ahead generalizing s with
  | nil =>
      rcases exists_step_of_many hmany with rfl | ⟨m, -, hless, -⟩
      · exact h
      · simp only [List.length_nil] at hahead
        omega
  | cons c ahead ih =>
      rw [manyThen_cons, Option.isSome_or, Bool.or_eq_true]
      rcases exists_step_of_many hmany with rfl | ⟨m, hstep, hless, hrest⟩
      · exact Or.inr h
      · rw [List.length_cons] at hahead
        exact Or.inl (hpiece hstep (ih (by omega) hrest))

end

theorem from?_alt (first second : Pattern) (k : Place → Option β) (s : Place) :
    (Pattern.alt first second).from? k s = (first.from? k s).or (second.from? k s) := by
  rw [from?]
  cases first.from? k s <;> rfl

/-- **The search is sound.** What it comes back with is what the continuation makes of an end up to
which the pattern covers the text. -/
theorem covers_of_from? {p : Pattern} {k : Place → Option β} {b : β} (h : p.from? k s = some b) :
    ∃ e, p.Covers s e ∧ k e = some b := by
  induction p generalizing k s with
  | empty => exact ⟨s, rfl, h⟩
  | one accepts =>
      obtain ⟨before, after⟩ := s
      cases after with
      | nil => cases h
      | cons c rest =>
          obtain ⟨haccepts, he⟩ := Option.ite_none_right_eq_some.mp h
          exact ⟨_, covers_one_cons.mpr ⟨haccepts, rfl⟩, he⟩
  | run accepts => exact covers_of_runThen h
  | span accepts => exact ⟨_, (covers_span_iff accepts s.before s.after).mpr rfl, h⟩
  | seq first second ihfirst ihsecond =>
      obtain ⟨m, hfirst, hm⟩ := ihfirst h
      obtain ⟨e, hsecond, he⟩ := ihsecond hm
      exact ⟨e, ⟨m, hfirst, hsecond⟩, he⟩
  | alt first second ihfirst ihsecond =>
      rw [from?_alt, Option.or_eq_some_iff] at h
      rcases h with h | ⟨-, h⟩
      · obtain ⟨e, hcovers, he⟩ := ihfirst h
        exact ⟨e, Or.inl hcovers, he⟩
      · obtain ⟨e, hcovers, he⟩ := ihsecond h
        exact ⟨e, Or.inr hcovers, he⟩
  | many piece ih => exact covers_of_manyThen ih h
  | wordEdge | lineStart =>
      obtain ⟨hhere, he⟩ := Option.ite_none_right_eq_some.mp h
      exact ⟨s, ⟨hhere, rfl⟩, he⟩

/-- **The search is complete.** It comes back with something if the pattern covers the text up to an
end with which the continuation succeeds. -/
theorem from?_of_covers {p : Pattern} {k : Place → Option β} (hcovers : p.Covers s e)
    (h : (k e).isSome = true) : (p.from? k s).isSome = true := by
  induction p generalizing k s e with
  | empty =>
      obtain rfl := hcovers
      exact h
  | one accepts =>
      obtain ⟨before, after⟩ := s
      cases after with
      | nil => exact absurd hcovers not_covers_one_nil
      | cons c rest =>
          obtain ⟨haccepts, rfl⟩ := covers_one_cons.mp hcovers
          simpa only [from?, if_pos haccepts] using h
  | run accepts => exact runThen_of_covers hcovers h
  | span accepts =>
      rw [from?]
      rwa [← (covers_span_iff accepts s.before s.after).mp hcovers]
  | seq first second ihfirst ihsecond =>
      obtain ⟨m, hfirst, hsecond⟩ := hcovers
      exact ihfirst hfirst (ihsecond hsecond h)
  | alt first second ihfirst ihsecond =>
      rw [from?_alt, Option.isSome_or, Bool.or_eq_true]
      rcases hcovers with hcovers | hcovers
      · exact Or.inl (ihfirst hcovers h)
      · exact Or.inr (ihsecond hcovers h)
  | many piece ih => exact manyThen_of_covers ih (Nat.le_refl _) hcovers h
  | wordEdge | lineStart =>
      obtain ⟨hhere, rfl⟩ := hcovers
      simpa only [from?, if_pos hhere] using h

/-- A pattern hands some end to its continuation with success exactly if it covers the text up to an
end with which the continuation succeeds. -/
theorem from?_isSome_iff (p : Pattern) (k : Place → Option β) (s : Place) :
    (p.from? k s).isSome = true ↔ ∃ e, p.Covers s e ∧ (k e).isSome = true := by
  constructor
  · intro h
    obtain ⟨b, hb⟩ := Option.isSome_iff_exists.mp h
    obtain ⟨e, hcovers, he⟩ := covers_of_from? hb
    exact ⟨e, hcovers, Option.isSome_of_eq_some he⟩
  · rintro ⟨e, hcovers, h⟩
    exact from?_of_covers hcovers h

/-! ### Occurrences -/

theorem endAt?_isSome_iff (p : Pattern) (s : Place) :
    (p.endAt? s).isSome = true ↔ ∃ e, p.Covers s e := by
  rw [endAt?, from?_isSome_iff]
  simp

/-- The search for a first match goes through all places ahead. -/
theorem findFrom?_isSome_iff (p : Pattern) (before after : List Char) :
    (p.findFrom? before after).isSome = true ↔
      ∃ taken s e, Past taken ⟨before, after⟩ s ∧ p.Covers s e := by
  induction after generalizing before with
  | nil =>
      rw [findFrom?, Option.isSome_map, endAt?_isSome_iff]
      constructor
      · rintro ⟨e, hcovers⟩
        exact ⟨[], _, e, Place.past_nil_iff.mpr rfl, hcovers⟩
      · rintro ⟨taken, s, e, hpast, hcovers⟩
        obtain ⟨-, rfl⟩ := Place.past_of_nil_iff.mp hpast
        exact ⟨e, hcovers⟩
  | cons c rest ih =>
      have hfirst : (p.findFrom? before (c :: rest)).isSome
          = ((p.endAt? ⟨before, c :: rest⟩).isSome || (p.findFrom? (c :: before) rest).isSome) := by
        rw [findFrom?]
        cases p.endAt? ⟨before, c :: rest⟩ <;> rfl
      rw [hfirst, Bool.or_eq_true, endAt?_isSome_iff, ih]
      constructor
      · rintro (⟨e, hcovers⟩ | ⟨taken, s, e, hpast, hcovers⟩)
        · exact ⟨[], _, e, Place.past_nil_iff.mpr rfl, hcovers⟩
        · exact ⟨c :: taken, s, e, Place.past_cons_iff.mpr ⟨rfl, hpast⟩, hcovers⟩
      · rintro ⟨taken, s, e, hpast, hcovers⟩
        cases taken with
        | nil =>
            obtain rfl := Place.past_nil_iff.mp hpast
            exact Or.inl ⟨e, hcovers⟩
        | cons d taken =>
            obtain ⟨-, hrest⟩ := Place.past_cons_iff.mp hpast
            exact Or.inr ⟨taken, s, e, hrest, hcovers⟩

/-- A match is found exactly if the pattern covers some piece of the text. -/
theorem isIn_iff_occurs (p : Pattern) (cs : List Char) : p.isIn cs = true ↔ p.Occurs cs := by
  rw [isIn, find?, findFrom?_isSome_iff]
  constructor
  · rintro ⟨taken, s, e, hpast, hcovers⟩
    exact ⟨s, e, Place.past_start_iff.mp ⟨taken, hpast⟩, hcovers⟩
  · rintro ⟨s, e, htext, hcovers⟩
    obtain ⟨taken, hpast⟩ := Place.past_start_iff.mpr htext
    exact ⟨taken, s, e, hpast, hcovers⟩

end Pattern

/-! ### Putting lines around a text -/

namespace Place

/-- The same place once a text stands in lines of its own, between two others. -/
def amid (a b : List Char) (p : Place) : Place :=
  ⟨p.before ++ '\n' :: a.reverse, p.after ++ '\n' :: b⟩

theorem text_amid (a b : List Char) (p : Place) :
    (p.amid a b).text = a ++ '\n' :: p.text ++ '\n' :: b := by
  simp [amid, text]

theorem Past.amid {taken : List Char} {s e : Place} (h : Past taken s e) (a b : List Char) :
    Past taken (s.amid a b) (e.amid a b) := by
  constructor
  · simp only [Place.amid, h.1, List.append_assoc]
  · simp only [Place.amid, h.2, List.append_assoc]

/-- The end of a line is no part of a word, just as the end of the text is none. -/
theorem atWordEdge_amid (a b : List Char) (p : Place) : (p.amid a b).atWordEdge = p.atWordEdge := by
  obtain ⟨before, after⟩ := p
  have hline : isWord '\n' = false := by decide
  cases before <;> cases after <;> simp [amid, atWordEdge, hline]

theorem atLineStart_amid (a b : List Char) (p : Place) :
    (p.amid a b).atLineStart = p.atLineStart := by
  obtain ⟨before, after⟩ := p
  cases before <;> simp [amid, atLineStart]

end Place

namespace Pattern

/-- Whether every match of a pattern has a character, as far as its form tells. -/
def takes : Pattern → Bool
  | .one _ => true
  | .seq first second => first.takes || second.takes
  | .alt first second => first.takes && second.takes
  | _ => false

/-- Whether a pattern does not depend on where the text ends. A span does, unless it stops at the end
of a line or a character must follow. -/
def seamless (followed : Bool) : Pattern → Bool
  | .span accepts => followed || !accepts '\n'
  | .seq first second => first.seamless (second.takes || followed) && second.seamless followed
  | .alt first second => first.seamless followed && second.seamless followed
  | .many piece => piece.seamless followed
  | _ => true

theorem length_le_of_covers {p : Pattern} (h : p.Covers s e) : e.after.length ≤ s.after.length := by
  obtain ⟨taken, hpast⟩ := exists_past_of_covers h
  rw [hpast.length]
  exact Nat.le_add_left _ _

theorem length_lt_of_takes {p : Pattern} (htakes : p.takes = true) (h : p.Covers s e) :
    e.after.length < s.after.length := by
  induction p generalizing s e with
  | one accepts =>
      obtain ⟨c, -, hpast⟩ := h
      rw [hpast.length, List.length_singleton]
      omega
  | seq first second ihfirst ihsecond =>
      obtain ⟨m, hfirst, hsecond⟩ := h
      have hle := length_le_of_covers hfirst
      have hle' := length_le_of_covers hsecond
      rw [takes, Bool.or_eq_true] at htakes
      rcases htakes with htakes | htakes
      · have hless := ihfirst htakes hfirst
        omega
      · have hless := ihsecond htakes hsecond
        omega
  | alt first second ihfirst ihsecond =>
      rw [takes, Bool.and_eq_true] at htakes
      rcases h with h | h
      · exact ihfirst htakes.1 h
      · exact ihsecond htakes.2 h
  | empty => cases htakes
  | run accepts => cases htakes
  | span accepts => cases htakes
  | many piece _ => cases htakes
  | wordEdge => cases htakes
  | lineStart => cases htakes

/-- Whether a match may begin by taking some character, as far as the form of a pattern tells. -/
def begins (c : Char) : Pattern → Bool
  | .one accepts | .run accepts | .span accepts => accepts c
  | .seq first second => first.begins c || !first.takes && second.begins c
  | .alt first second => first.begins c || second.begins c
  | .many piece => piece.begins c
  | .empty | .wordEdge | .lineStart => false

theorem eq_or_accepts_of_past {taken : List Char} (hall : taken.all accepts = true)
    (hpast : Place.Past taken s e) : e = s ∨ ∃ c rest, s.after = c :: rest ∧ accepts c = true := by
  cases taken with
  | nil => exact Or.inl (Place.past_nil_iff.mp hpast)
  | cons c taken =>
      rw [List.all_cons, Bool.and_eq_true] at hall
      exact Or.inr ⟨c, _, hpast.1, hall.1⟩

/-- A match takes nothing, or begins with the character ahead. -/
theorem eq_or_begins_of_covers {p : Pattern} (h : p.Covers s e) :
    e = s ∨ ∃ c rest, s.after = c :: rest ∧ p.begins c = true := by
  induction p generalizing s e with
  | empty => exact Or.inl h
  | one accepts =>
      obtain ⟨c, haccepts, hpast⟩ := h
      exact Or.inr ⟨c, e.after, hpast.1, haccepts⟩
  | run accepts =>
      obtain ⟨taken, hall, hpast⟩ := h
      exact eq_or_accepts_of_past hall hpast
  | span accepts =>
      obtain ⟨⟨taken, hall, hpast⟩, -⟩ := h
      exact eq_or_accepts_of_past hall hpast
  | seq first second ihfirst ihsecond =>
      obtain ⟨m, hfirst, hsecond⟩ := h
      rcases ihfirst hfirst with rfl | ⟨c, rest, hahead, hbegins⟩
      · rcases ihsecond hsecond with rfl | ⟨c, rest, hahead, hbegins⟩
        · exact Or.inl rfl
        · -- the first piece took nothing, so it is none that always takes something
          have htakes : first.takes = false :=
            Bool.eq_false_iff.mpr fun htakes => absurd (length_lt_of_takes htakes hfirst) (Nat.lt_irrefl _)
          exact Or.inr ⟨c, rest, hahead, by simp [begins, htakes, hbegins]⟩
      · exact Or.inr ⟨c, rest, hahead, by simp [begins, hbegins]⟩
  | alt first second ihfirst ihsecond =>
      rcases h with h | h
      · rcases ihfirst h with rfl | ⟨c, rest, hahead, hbegins⟩
        · exact Or.inl rfl
        · exact Or.inr ⟨c, rest, hahead, by simp [begins, hbegins]⟩
      · rcases ihsecond h with rfl | ⟨c, rest, hahead, hbegins⟩
        · exact Or.inl rfl
        · exact Or.inr ⟨c, rest, hahead, by simp [begins, hbegins]⟩
  | many piece ih =>
      change Relation.ReflTransGen _ _ _ at h
      induction h using Relation.ReflTransGen.head_induction_on with
      | refl => exact Or.inl rfl
      | head hstep _ ihrest =>
          rcases ih hstep with rfl | hbegins
          · exact ihrest
          · exact Or.inr hbegins
  | wordEdge => exact Or.inl h.2
  | lineStart => exact Or.inl h.2

/-- A match that takes something begins with the character ahead. -/
theorem begins_of_takes {p : Pattern} (htakes : p.takes = true) (h : p.Covers s e) :
    ∃ c rest, s.after = c :: rest ∧ p.begins c = true := by
  rcases eq_or_begins_of_covers h with rfl | hbegins
  · exact absurd (length_lt_of_takes htakes h) (Nat.lt_irrefl _)
  · exact hbegins

/-- A given text is covered where it stands. -/
theorem covers_lit_iff (text : String) : (lit text).Covers s e ↔ Place.Past text.toList s e := by
  have hchars : ∀ (cs : List Char) (s : Place), (chars cs).Covers s e ↔ Place.Past cs s e := by
    intro cs
    induction cs with
    | nil => exact fun s => Place.past_nil_iff.symm
    | cons c cs ih =>
        rintro ⟨before, after⟩
        cases after with
        | nil =>
            constructor
            · rintro ⟨m, hone, -⟩
              exact absurd hone not_covers_one_nil
            · rintro ⟨hafter, -⟩
              cases hafter
        | cons d rest =>
            rw [Place.past_cons_iff, ← ih]
            constructor
            · rintro ⟨m, hone, hrest⟩
              obtain ⟨hc, rfl⟩ := covers_one_cons.mp hone
              exact ⟨beq_iff_eq.mp hc, hrest⟩
            · rintro ⟨rfl, hrest⟩
              exact ⟨_, covers_one_cons.mpr ⟨beq_self_eq_true _, rfl⟩, hrest⟩
  exact hchars text.toList s

/-- What a seamless pattern covers it also covers with lines put around the text. -/
theorem covers_amid {p : Pattern} {followed : Bool} (hseamless : p.seamless followed = true)
    (h : p.Covers s e) (hfollowed : followed = true → 0 < e.after.length) (a b : List Char) :
    p.Covers (s.amid a b) (e.amid a b) := by
  induction p generalizing followed s e with
  | empty =>
      obtain rfl := h
      rfl
  | one accepts =>
      obtain ⟨c, haccepts, hpast⟩ := h
      exact ⟨c, haccepts, hpast.amid a b⟩
  | run accepts =>
      obtain ⟨taken, hall, hpast⟩ := h
      exact ⟨taken, hall, hpast.amid a b⟩
  | span accepts =>
      obtain ⟨⟨taken, hall, hpast⟩, hend⟩ := h
      refine ⟨⟨taken, hall, hpast.amid a b⟩, ?_⟩
      obtain ⟨before, after⟩ := e
      cases after with
      | nil =>
          -- the text ended here, and now a line does
          have halone : followed = false := by
            cases followed with
            | false => rfl
            | true => exact absurd (hfollowed rfl) (Nat.lt_irrefl 0)
          simpa [seamless, halone, Place.amid] using hseamless
      | cons c rest => exact hend
  | seq first second ihfirst ihsecond =>
      obtain ⟨m, hfirst, hsecond⟩ := h
      rw [seamless, Bool.and_eq_true] at hseamless
      refine ⟨m.amid a b, ihfirst hseamless.1 hfirst fun hmore => ?_,
        ihsecond hseamless.2 hsecond hfollowed⟩
      rcases Bool.or_eq_true_iff.mp hmore with htakes | hmore
      · exact Nat.lt_of_le_of_lt (Nat.zero_le _) (length_lt_of_takes htakes hsecond)
      · exact Nat.lt_of_lt_of_le (hfollowed hmore) (length_le_of_covers hsecond)
  | alt first second ihfirst ihsecond =>
      rw [seamless, Bool.and_eq_true] at hseamless
      rcases h with h | h
      · exact Or.inl (ihfirst hseamless.1 h hfollowed)
      · exact Or.inr (ihsecond hseamless.2 h hfollowed)
  | many piece ih =>
      rw [seamless] at hseamless
      change Relation.ReflTransGen _ _ _ at h ⊢
      induction h using Relation.ReflTransGen.head_induction_on with
      | refl => exact .refl
      | @head s m hstep hrest ihrest =>
          have hle : e.after.length ≤ m.after.length :=
            length_le_of_covers (p := .many piece) hrest
          exact .head (ih hseamless hstep fun hmore => Nat.lt_of_lt_of_le (hfollowed hmore) hle) ihrest
  | wordEdge =>
      obtain ⟨hedge, rfl⟩ := h
      exact ⟨by rwa [Place.atWordEdge_amid], rfl⟩
  | lineStart =>
      obtain ⟨hline, rfl⟩ := h
      exact ⟨by rwa [Place.atLineStart_amid], rfl⟩

/-- No lines before or after a text hide an occurrence of a seamless pattern. -/
theorem occurs_amid {p : Pattern} (hseamless : p.seamless false = true) {cs : List Char}
    (h : p.Occurs cs) (a b : List Char) : p.Occurs (a ++ '\n' :: cs ++ '\n' :: b) := by
  obtain ⟨s, e, rfl, hcovers⟩ := h
  exact ⟨s.amid a b, e.amid a b, s.text_amid a b, covers_amid hseamless hcovers nofun a b⟩

end Pattern

end Arcade
