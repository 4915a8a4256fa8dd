import Arcade.Proofs.Submission.Review
import Mathlib.Data.String.Basic
/-!
# Texts without comments

`CommentFree` says what a text without comments is, with no word on how comments are taken out: read from
the left, it opens no comment outside of quotes. Taking the comments out of a text leaves such a text
(`commentFree_strip`), and a text that has none stays as it is (`strip_of_commentFree`). So the texts
without comments are the normal forms: nothing that is taken out joins what stood around it to a new
comment, and doing it again changes nothing.

A review looks at required members, the marker and the branches in the text without comments only. It
finds the same of them whether the comments are still there or not (`stripped_text_is_normal`).
-/

namespace Arcade.Submission

/-! ### What a text without comments is -/

/-- Whether a text begins with one of the two marks that open a comment. -/
def opensComment : List Char → Bool
  | '/' :: c :: _ => c == '/' || c == '*'
  | _ => false

/-- Texts that open no comment, read outside of quotes (`none`) or behind an open quote (`some`). -/
inductive CommentFree : Option Char → List Char → Prop
  | nil (quote : Option Char) : CommentFree quote []
  | plain {c : Char} {rest : List Char} (hquote : isQuote c = false)
      (hopens : opensComment (c :: rest) = false) (h : CommentFree none rest) :
      CommentFree none (c :: rest)
  | opening {q : Char} {rest : List Char} (hquote : isQuote q = true)
      (h : CommentFree (some q) rest) : CommentFree none (q :: rest)
  | escape {q c : Char} {rest : List Char} (h : CommentFree (some q) rest) :
      CommentFree (some q) ('\\' :: c :: rest)
  /-- a backslash with nothing behind it -/
  | lastBackslash {q : Char} : CommentFree (some q) ['\\']
  | closing {q : Char} {rest : List Char} (hbackslash : q ≠ '\\') (h : CommentFree none rest) :
      CommentFree (some q) (q :: rest)
  | inside {q c : Char} {rest : List Char} (hquote : c ≠ q) (hbackslash : c ≠ '\\')
      (h : CommentFree (some q) rest) : CommentFree (some q) (c :: rest)

variable {c : Char} {rest cs : List Char}

/-! ### Single characters outside of quotes -/

theorem opensComment_of_ne (h : c ≠ '/') (rest : List Char) : opensComment (c :: rest) = false := by
  unfold opensComment
  split
  · simp_all
  · rfl

theorem ne_slash_of_isQuote (h : isQuote c = true) : c ≠ '/' := by
  rintro rfl
  exact absurd h (by decide)

/-- Outside of quotes a character stays unless it opens a comment. -/
theorem strip_code_cons (h : opensComment (c :: rest) = false) :
    strip .code (c :: rest) = c :: strip (if isQuote c then .quoted c else .code) rest := by
  rw [strip]
  · split <;> rfl
  · rintro r rfl rfl
    cases h
  · rintro r rfl rfl
    cases h

theorem opensComment_eq_false (hline : ∀ r, c = '/' → rest = '/' :: r → False)
    (hblock : ∀ r, c = '/' → rest = '*' :: r → False) : opensComment (c :: rest) = false := by
  unfold opensComment
  split
  next d r hsplit =>
    obtain ⟨rfl, rfl⟩ := List.cons.inj hsplit
    rw [Bool.or_eq_false_iff, beq_eq_false_iff_ne, beq_eq_false_iff_ne]
    exact ⟨fun hd => hline r rfl (hd ▸ rfl), fun hd => hblock r rfl (hd ▸ rfl)⟩
  next => rfl

/-- Taking comments out behind a character makes it open none that it has not opened before. -/
theorem opensComment_cons_strip (h : opensComment (c :: rest) = false) :
    opensComment (c :: strip .code rest) = false := by
  by_cases hslash : c = '/'
  · subst hslash
    cases rest with
    | nil => rfl
    | cons d rest =>
        have hd : (d == '/' || d == '*') = false := h
        have hnext : opensComment (d :: rest) = false :=
          opensComment_of_ne (by rintro rfl; cases hd) rest
        rw [strip_code_cons hnext]
        exact hd
  · exact opensComment_of_ne hslash _

/-! ### Taking comments out -/

/-- What is left of a text from a mode on, as the rest of a text without comments. -/
def Mode.Leaves : Mode → List Char → Prop
  | .quoted q, cs => CommentFree (some q) cs
  | .escaped q, cs => CommentFree (some q) ('\\' :: cs)
  | .code, cs | .lineComment, cs | .blockComment _, cs => CommentFree none cs

theorem leaves_strip (mode : Mode) (cs : List Char) : mode.Leaves (strip mode cs) := by
  fun_induction strip mode cs with
  | case1 mode =>
      cases mode with
      | escaped q => exact .lastBackslash
      | code | quoted | lineComment | blockComment => exact .nil _
  -- a comment that opens, goes on or ends leaves what comes behind it
  | case2 | case3 | case11 | case13 | case14 => assumption
  | case4 c rest _ _ hquote ih => exact .opening hquote ih
  | case5 c rest hline hblock hquote ih =>
      have hopens := opensComment_eq_false hline hblock
      exact .plain (Bool.eq_false_iff.mpr hquote) (opensComment_cons_strip hopens) ih
  | case6 q rest ih => exact ih
  | case7 q rest hbackslash ih => exact .closing hbackslash ih
  | case8 q c rest hbackslash hquote ih => exact .inside hquote hbackslash ih
  | case9 q c rest ih => exact .escape ih
  -- the line ends that a comment leaves
  | case10 rest ih => exact .plain (by decide) (opensComment_of_ne (by decide) _) ih
  | case12 star rest ih => exact .plain (by decide) (opensComment_of_ne (by decide) _) ih

/-- A text without its comments is a text without comments. -/
theorem commentFree_strip (cs : List Char) : CommentFree none (strip .code cs) :=
  leaves_strip .code cs

/-- The mode in which a text is read behind an open quote, if there is one. -/
def Mode.behind : Option Char → Mode
  | none => .code
  | some q => .quoted q

/-- Where there is no comment, nothing is taken out. -/
theorem strip_of_commentFree {quote : Option Char} (h : CommentFree quote cs) :
    strip (.behind quote) cs = cs := by
  induction h with
  | nil quote => simp [strip]
  | plain hquote hopens _ ih =>
      rw [Mode.behind, strip_code_cons hopens, hquote, if_neg Bool.false_ne_true]
      exact congrArg _ ih
  | @opening q rest hquote _ ih =>
      have hopens := opensComment_of_ne (ne_slash_of_isQuote hquote) rest
      rw [Mode.behind, strip_code_cons hopens, if_pos hquote]
      exact congrArg _ ih
  | escape _ ih =>
      rw [Mode.behind, strip, if_pos rfl, strip]
      exact congrArg (fun cs => _ :: _ :: cs) ih
  | lastBackslash => simp [Mode.behind, strip]
  | closing hbackslash _ ih =>
      rw [Mode.behind, strip, if_neg hbackslash, if_pos rfl]
      exact congrArg _ ih
  | inside hquote hbackslash _ ih =>
      rw [Mode.behind, strip, if_neg hbackslash, if_neg hquote]
      exact congrArg _ ih

/-- The texts that stay as they are when comments are taken out are those without comments. -/
theorem strip_eq_self_iff (cs : List Char) : strip .code cs = cs ↔ CommentFree none cs := by
  constructor
  · intro hsame
    exact hsame ▸ commentFree_strip cs
  · exact strip_of_commentFree

/-- Characters are only taken out. -/
theorem strip_sublist (mode : Mode) (cs : List Char) : (strip mode cs).Sublist cs := by
  fun_induction strip mode cs with
  | case1 mode => exact .refl _
  | case2 rest ih | case3 rest ih => exact (ih.cons _).cons _
  | case4 | case5 | case6 | case7 | case8 | case9 | case10 | case12 => exact .cons_cons _ ‹_›
  | case11 | case13 | case14 => exact .cons _ ‹_›

/-- Line ends are never taken out. -/
theorem count_strip (mode : Mode) (cs : List Char) : (strip mode cs).count '\n' = cs.count '\n' := by
  fun_induction strip mode cs with
  | case1 mode => rfl
  | case2 rest ih | case3 rest ih => simp [ih]
  | case4 | case5 | case6 | case7 | case8 | case9 | case10 | case12 => simp only [List.count_cons, *]
  | case11 c rest hline ih => simp [ih, hline]
  | case13 star c rest hline _ ih => simp [ih, hline]
  | case14 star c rest hline _ ih => simp [ih, hline]

/-! ### Whole sources -/

@[simp] theorem toList_stripComments (source : String) :
    (stripComments source).toList = strip .code source.toList := by
  rw [stripComments, String.toList_ofList]

theorem stripComments_eq_self_iff (source : String) :
    stripComments source = source ↔ CommentFree none source.toList := by
  rw [← strip_eq_self_iff, ← toList_stripComments, String.toList_inj]

theorem stripComments_stripComments (source : String) :
    stripComments (stripComments source) = stripComments source := by
  rw [stripComments_eq_self_iff, toList_stripComments]
  exact commentFree_strip _

theorem utf8ByteSize_stripComments_le (source : String) :
    (stripComments source).utf8ByteSize ≤ source.utf8ByteSize := by
  calc (stripComments source).utf8ByteSize = String.utf8Len (strip .code source.toList) :=
        String.utf8ByteSize_ofList _
    _ ≤ String.utf8Len source.toList := String.utf8Len_le_of_sublist (strip_sublist _ _)
    _ = source.utf8ByteSize := by rw [← String.utf8ByteSize_ofList, String.ofList_toList]

/-- Two sources that differ in their comments only are found to miss the same members and markers, and
to have the same functions, types and branches. -/
theorem review_of_same_code {limits : ReviewLimits} {source other : String}
    (hcode : stripComments other = stripComments source)
    (hsize : source.utf8ByteSize ≤ limits.maxCodeSize)
    (hother : other.utf8ByteSize ≤ limits.maxCodeSize) :
    (review limits other).interfaceIssues = (review limits source).interfaceIssues ∧
      (review limits other).metrics.functions = (review limits source).metrics.functions ∧
      (review limits other).metrics.types = (review limits source).metrics.types ∧
      (review limits other).metrics.complexity = (review limits source).metrics.complexity := by
  rw [interfaceIssues_review hsize, interfaceIssues_review hother, metrics_review hsize,
    metrics_review hother, hcode]
  exact ⟨rfl, rfl, rfl, rfl⟩

/-- **A text without its comments is a normal form.** It has all line ends, and of the other characters
some, in their order. It has no comment, and just the texts that have none stay as they are when comments
are taken out, so that doing it again changes nothing. A review finds the same members and marker missing
in it, and counts the same functions, types and branches, as in the source, whatever the limits that the
source is within. -/
theorem stripped_text_is_normal (source : String) :
    (stripComments source).toList.count '\n' = source.toList.count '\n' ∧
    (stripComments source).toList.Sublist source.toList ∧
    CommentFree none (stripComments source).toList ∧
    (stripComments source = source ↔ CommentFree none source.toList) ∧
    stripComments (stripComments source) = stripComments source ∧
    ∀ limits : ReviewLimits, source.utf8ByteSize ≤ limits.maxCodeSize →
      (review limits (stripComments source)).interfaceIssues = (review limits source).interfaceIssues ∧
      (review limits (stripComments source)).metrics.functions
        = (review limits source).metrics.functions ∧
      (review limits (stripComments source)).metrics.types = (review limits source).metrics.types ∧
      (review limits (stripComments source)).metrics.complexity
        = (review limits source).metrics.complexity := by
  have hnormal := stripComments_stripComments source
  refine ⟨?_, ?_, ?_, stripComments_eq_self_iff source, hnormal, fun limits hsize => ?_⟩
  · rw [toList_stripComments]
    exact count_strip _ _
  · rw [toList_stripComments]
    exact strip_sublist _ _
  · rw [toList_stripComments]
    exact commentFree_strip _
  · exact review_of_same_code hnormal hsize
      (Nat.le_trans (utf8ByteSize_stripComments_le source) hsize)

/-- A method in a comment that a quotation does not open, in a source of just the size that is allowed. -/
theorem stripped_text_is_normal_of_method :
    let source := "a = '/*'; /* tick() \x7b\x7d\n*/ // b ? c : d"
    let code := "a = '/*'; \n "
    let limits : ReviewLimits := { maxCodeSize := 38 }
    source.utf8ByteSize ≤ limits.maxCodeSize ∧ stripComments source = code ∧
      (review limits code).interfaceIssues = (review limits source).interfaceIssues ∧
      (review limits code).metrics.complexity = (review limits source).metrics.complexity := by
  intro source code limits
  have hsize : source.utf8ByteSize ≤ limits.maxCodeSize := by decide
  have hcode : stripComments source = code := by decide
  obtain ⟨-, -, -, -, -, hreview⟩ := stripped_text_is_normal source
  rw [hcode] at hreview
  exact ⟨hsize, hcode, (hreview limits hsize).1, (hreview limits hsize).2.2.2⟩

end Arcade.Submission
