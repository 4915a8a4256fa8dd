import Arcade.Proofs.Number.Checked
import Arcade.Proofs.Pattern.Words
import Arcade.Proofs.Submission.Comments
/-!
# The complexity of a text

The branches of a text are the words that open one and the conditional operators. Where a line ends no word
goes on, and no operator is part of a longer mark, so the branches of a text are those of its lines together
(`countBranches_lines`), and so are the scores, but for the one that each of them begins with
(`complexity_adds_up`).

A score is held within a word of 32 bits, on the way in two places. There is one number of branches for
which these do not meet: as many as the largest word says are let through, and one more is too much for the
word (`complexity_saturates_iff`).
-/

namespace Arcade.Submission

open Pattern (isOneOf)
open Text (isWord words)

variable {c : Char} {a b code : List Char}

/-! ### Branches of lines -/

/-- The keywords that open a branch. -/
def branchKeywords : List String :=
  ["if", "for", "while", "case", "catch"]

theorem length_findAll_branchPattern (code : List Char) :
    (branchPattern.findAll code).length = (words code).countP (isOneOf branchKeywords) :=
  Pattern.length_findAll_words (by decide) code

/-- Of the character before a text it only matters whether it is a question mark. -/
theorem countTernaries_of_ne {previous : Char} (h : previous ≠ '?') (code : List Char) :
    countTernaries previous code = countTernaries ' ' code := by
  cases code with
  | nil => rfl
  | cons c rest => simp [countTernaries, h]

theorem countTernaries_lines (previous : Char) (a b : List Char) :
    countTernaries previous (a ++ '\n' :: b) = countTernaries previous a + countTernaries ' ' b := by
  induction a generalizing previous with
  | nil =>
      have hline : countTernaries '\n' b = countTernaries ' ' b := countTernaries_of_ne (by decide) b
      simp [countTernaries, hline]
  | cons c rest ih =>
      -- the end of the line, like that of the text, makes nothing else of a question mark
      have hnext : (rest ++ '\n' :: b).head?.any endsQuestion = rest.head?.any endsQuestion := by
        cases rest <;> rfl
      rw [List.cons_append, countTernaries, countTernaries, ih, hnext, Nat.add_assoc]

/-- The branches of two lines are those of the one and those of the other. -/
theorem countBranches_lines (a b : List Char) :
    countBranches (a ++ '\n' :: b) = countBranches a + countBranches b := by
  have hline : isWord '\n' = false := by decide
  simp only [countBranches, length_findAll_branchPattern, Text.words_append_cons hline,
    List.countP_append, countTernaries_lines]
  omega

/-! ### Scores -/

theorem complexity_eq (code : String) :
    complexity code = heldBranches (countBranches code.toList) + 1 :=
  UInt32.add_comm _ _

theorem toNat_heldBranches (branches : Nat) : (heldBranches branches).toNat =
    if branches ≤ Words.max32 then branches else Words.max32 - 1 := by
  rw [heldBranches, UInt32.toNat_ofNat_of_lt']
  unfold Words.max32
  split <;> simp only [UInt32.size] <;> omega

/-- The word after that of the branches fits, but for one number of branches. -/
theorem heldBranches_fits_iff (branches : Nat) :
    (heldBranches branches).toNat + 1 < UInt32.size ↔ branches ≠ Words.max32 := by
  rw [toNat_heldBranches]
  unfold Words.max32
  split <;> simp only [UInt32.size] <;> omega

theorem toNat_complexity (code : String) : (complexity code).toNat =
    if countBranches code.toList = Words.max32 then 0
    else min (1 + countBranches code.toList) Words.max32 := by
  have hmod : (complexity code).toNat =
      ((heldBranches (countBranches code.toList)).toNat + 1) % UInt32.size := by
    rw [complexity_eq, UInt32.toNat_add]
    rfl
  rw [hmod, toNat_heldBranches]
  unfold Words.max32
  split <;> split <;> simp only [UInt32.size] <;> omega

/-- A build that checks its sums has the same score, unless the sum does not fit. -/
theorem complexity?_eq_some_iff (code : String) :
    complexity? code = some (complexity code) ↔ countBranches code.toList ≠ Words.max32 := by
  rw [complexity?, Checked.next32?_eq_some_iff, complexity_eq, heldBranches_fits_iff, and_iff_left rfl]

/-- It stops at one number of branches. -/
theorem complexity?_eq_none_iff (code : String) :
    complexity? code = none ↔ countBranches code.toList = Words.max32 := by
  have hsome : complexity? code = some (complexity code) ∨ complexity? code = none := by
    rw [complexity?, Checked.next32?, complexity_eq]
    split
    · exact Or.inl rfl
    · exact Or.inr rfl
  have hfits := complexity?_eq_some_iff code
  rcases hsome with hscore | hnone
  · rw [hscore] at hfits ⊢
    simpa using hfits
  · rw [hnone] at hfits ⊢
    simpa using hfits

theorem toNat_complexity_of_lt {code : String} (h : countBranches code.toList < Words.max32) :
    (complexity code).toNat = 1 + countBranches code.toList := by
  rw [toNat_complexity, if_neg (Nat.ne_of_lt h), Nat.min_eq_left (by omega)]

theorem toList_joined (a b : String) : (a ++ "\n" ++ b).toList = a.toList ++ '\n' :: b.toList := by
  simp

/-- **The complexity of lines adds up.** The branches of a text are its words that open a branch, which are what
the pattern finds, and its conditional operators; and its score is one more, as long as they can be counted. A
line more adds its branches, none of which depend on what stands in the other lines; so as long as
all can be counted, the score of two texts together is the sum of theirs less the one that each begins with,
and no lower than either. -/
theorem complexity_adds_up (a b : String) :
    (branchPattern.findAll a.toList).length = (words a.toList).countP (isOneOf branchKeywords) ∧
    countBranches a.toList
      = (words a.toList).countP (isOneOf branchKeywords) + countTernaries ' ' a.toList ∧
    (countBranches a.toList < Words.max32 →
      (complexity a).toNat = 1 + countBranches a.toList ∧ complexity? a = some (complexity a)) ∧
    countBranches (a ++ "\n" ++ b).toList = countBranches a.toList + countBranches b.toList ∧
    (countBranches a.toList + countBranches b.toList < Words.max32 →
      (complexity (a ++ "\n" ++ b)).toNat + 1 = (complexity a).toNat + (complexity b).toNat ∧
      complexity a ≤ complexity (a ++ "\n" ++ b) ∧ complexity b ≤ complexity (a ++ "\n" ++ b)) := by
  have hlines : countBranches (a ++ "\n" ++ b).toList = countBranches a.toList + countBranches b.toList := by
    rw [toList_joined, countBranches_lines]
  have hbranches : countBranches a.toList
      = (words a.toList).countP (isOneOf branchKeywords) + countTernaries ' ' a.toList := by
    rw [countBranches, length_findAll_branchPattern]
  refine ⟨length_findAll_branchPattern a.toList, hbranches, fun hless => ?_, hlines, fun hless => ?_⟩
  · exact ⟨toNat_complexity_of_lt hless, (complexity?_eq_some_iff a).mpr (Nat.ne_of_lt hless)⟩
  have ha : (complexity a).toNat = 1 + countBranches a.toList := toNat_complexity_of_lt (by omega)
  have hb : (complexity b).toNat = 1 + countBranches b.toList := toNat_complexity_of_lt (by omega)
  have hboth : (complexity (a ++ "\n" ++ b)).toNat = 1 + countBranches (a ++ "\n" ++ b).toList :=
    toNat_complexity_of_lt (by omega)
  rw [UInt32.le_iff_toNat_le, UInt32.le_iff_toNat_le]
  omega

/-- A question mark at the end of a line and one at the start of the next, and a keyword on either side. -/
theorem complexity_adds_up_of_question_marks :
    let a := "while (a?"
    let b := "?b) if"
    countBranches a.toList + countBranches b.toList < Words.max32 ∧ (complexity a).toNat = 3 ∧
      (complexity (a ++ "\n" ++ b)).toNat + 1 = (complexity a).toNat + (complexity b).toNat := by
  intro a b
  have hfirst : countBranches a.toList = 2 := by decide +kernel
  have hless : countBranches a.toList + countBranches b.toList < Words.max32 := by decide +kernel
  obtain ⟨-, -, hscore, -, hsum⟩ := complexity_adds_up a b
  have hthree := (hscore (by rw [hfirst]; decide)).1
  rw [hfirst] at hthree
  exact ⟨hless, hthree, (hsum hless).1⟩

/-! ### Where the score ends -/

/-- A line of conditional operators. -/
def conditionals : Nat → List Char
  | 0 => []
  | n + 1 => '?' :: ' ' :: conditionals n

theorem words_conditionals (n : Nat) : words (conditionals n) = [] := by
  induction n with
  | zero => rfl
  | succ n ih =>
      have hspace : words (' ' :: conditionals n) = words [] ++ words (conditionals n) :=
        Text.words_append_cons (by decide) [] _
      have hmark : words ('?' :: ' ' :: conditionals n) = words [] ++ words (' ' :: conditionals n) :=
        Text.words_append_cons (by decide) [] _
      rw [conditionals, hmark, hspace, ih]
      rfl

theorem countTernaries_conditionals {previous : Char} (h : previous ≠ '?') (n : Nat) :
    countTernaries previous (conditionals n) = n := by
  induction n generalizing previous with
  | zero => rfl
  | succ n ih =>
      have hmark : (previous != '?') = true := bne_iff_ne.mpr h
      simp [conditionals, countTernaries, hmark, ih, endsQuestion, Nat.add_comm]

theorem countBranches_conditionals (n : Nat) : countBranches (conditionals n) = n := by
  rw [countBranches, length_findAll_branchPattern, words_conditionals,
    countTernaries_conditionals (by decide)]
  exact Nat.zero_add n

/-- A review reads all of such a line. -/
theorem stripComments_conditionals (n : Nat) :
    stripComments (String.ofList (conditionals n)) = String.ofList (conditionals n) := by
  rw [stripComments_eq_self_iff, String.toList_ofList]
  induction n with
  | zero => exact .nil none
  | succ n ih =>
      have hspace : CommentFree none (' ' :: conditionals n) :=
        .plain (by decide) (opensComment_of_ne (by decide) _) ih
      exact .plain (by decide) (opensComment_of_ne (by decide) _) hspace

/-- A score is zero for one number of branches. -/
theorem complexity_eq_zero_iff (code : String) :
    complexity code = 0 ↔ countBranches code.toList = Words.max32 := by
  rw [← UInt32.toNat_inj, toNat_complexity, UInt32.toNat_zero]
  unfold Words.max32
  split <;> omega

theorem category_of_mem_complexityIssues {complexity limit : Nat} {i : Issue}
    (h : i ∈ complexityIssues complexity limit) : i.category = .complexity := by
  unfold complexityIssues at h
  split at h
  · obtain rfl := List.mem_singleton.mp h
    rfl
  · cases h

/-- The issues about the complexity come from its limit only. -/
theorem mem_complexityIssues_of_category {limits : ReviewLimits} {source : String} {i : Issue}
    (hsize : source.utf8ByteSize ≤ limits.maxCodeSize) (hi : i ∈ (review limits source).issues)
    (hcategory : i.category = .complexity) :
    i ∈ complexityIssues (complexity (stripComments source)).toNat limits.maxComplexity := by
  rcases (mem_issues_iff hsize i).mp hi with ⟨rule, -, h⟩ | ⟨m, -, h⟩ | ⟨m, -, h⟩ | h | h
  · obtain ⟨line, rfl⟩ := ForbiddenRule.eq_of_issue? h
    cases hcategory
  · rw [RequiredMember.category_of_issue? h] at hcategory
    cases hcategory
  · rw [RequiredMember.category_of_issue? h] at hcategory
    cases hcategory
  · rw [eq_of_mem_markerIssues h] at hcategory
    cases hcategory
  · exact h

/-- A review remarks on the complexity of a text exactly if its score is above the limit. -/
theorem remarks_on_complexity_iff (limits : ReviewLimits) (source : String) :
    (∃ i ∈ (review limits source).issues, i.category = .complexity) ↔
      source.utf8ByteSize ≤ limits.maxCodeSize ∧
        limits.maxComplexity < (complexity (stripComments source)).toNat := by
  by_cases hsize : source.utf8ByteSize ≤ limits.maxCodeSize
  · rw [and_iff_right hsize]
    constructor
    · intro hissued
      obtain ⟨i, hi, hcategory⟩ := hissued
      have hissue := mem_complexityIssues_of_category hsize hi hcategory
      refine Nat.lt_of_not_le fun hle => ?_
      rw [(complexityIssues_eq_nil_iff _ _).mpr hle] at hissue
      cases hissue
    · intro hless
      have hsome := mt (complexityIssues_eq_nil_iff _ _).mp (Nat.not_le.mpr hless)
      obtain ⟨i, hi⟩ := List.exists_mem_of_ne_nil _ hsome
      exact ⟨i, (mem_issues_iff hsize i).mpr (Or.inr (Or.inr (Or.inr (Or.inr hi)))),
        category_of_mem_complexityIssues hi⟩
  · rw [review_of_large (Nat.lt_of_not_le hsize)]
    simp [Analysis.ofIssues, sizeIssue, hsize]

/-- **The complexity saturates, but for one number of branches.** The score of a text is one more than its
branches, and the largest word where that is too large, unless there are just as many branches as that word
says. Then, and only then, the word does not hold the sum, and the score is zero. Any text with no more
branches than that is brought to it by one line; and a review, which else remarks on any complexity above its
limit, whatever that is, does not for such a text, and stops there where sums are checked. -/
theorem complexity_saturates_iff (code : String) (limits : ReviewLimits) (source : String) :
    ((complexity code).toNat = min (1 + countBranches code.toList) Words.max32 ↔
      countBranches code.toList ≠ Words.max32) ∧
    (complexity? code = some (complexity code) ↔ countBranches code.toList ≠ Words.max32) ∧
    (complexity code = 0 ↔ countBranches code.toList = Words.max32) ∧
    ((∃ line, complexity (code ++ "\n" ++ line) = 0) ↔ countBranches code.toList ≤ Words.max32) ∧
    ((∃ i ∈ (review limits source).issues, i.category = .complexity) ↔
      source.utf8ByteSize ≤ limits.maxCodeSize ∧
        countBranches (stripComments source).toList ≠ Words.max32 ∧
        limits.maxComplexity < min (1 + countBranches (stripComments source).toList) Words.max32) ∧
    (review? limits source = none ↔ source.utf8ByteSize ≤ limits.maxCodeSize ∧
      countBranches (stripComments source).toList = Words.max32) := by
  refine ⟨?_, complexity?_eq_some_iff code, complexity_eq_zero_iff code, ?_, ?_, ?_⟩
  · rw [toNat_complexity]
    split
    next hmax =>
      rw [hmax]
      decide
    next hne => exact iff_of_true rfl hne
  · simp only [complexity_eq_zero_iff, toList_joined, countBranches_lines]
    constructor
    · rintro ⟨line, hsum⟩
      omega
    · intro hle
      refine ⟨String.ofList (conditionals (Words.max32 - countBranches code.toList)), ?_⟩
      rw [String.toList_ofList, countBranches_conditionals]
      omega
  · rw [remarks_on_complexity_iff, toNat_complexity]
    refine and_congr_right fun _ => ?_
    split
    next hmax => exact iff_of_false (Nat.not_lt_zero _) fun h => h.1 hmax
    next hne => exact (and_iff_right hne).symm
  · rw [review?]
    split
    next hlarge => exact iff_of_false (Option.some_ne_none _) fun h => absurd h.1 (Nat.not_le.mpr hlarge)
    next hsize => rw [Option.map_eq_none_iff, complexity?_eq_none_iff, and_iff_right (Nat.not_lt.mp hsize)]

/-- So many conditional operators, each a question mark and a blank, that one more does not fit the word. No
review remarks on their complexity, whatever the limit. -/
theorem complexity_saturates_iff_of_conditionals :
    let code := String.ofList (conditionals Words.max32)
    let limits : ReviewLimits := { maxCodeSize := code.utf8ByteSize, maxComplexity := 0 }
    countBranches code.toList = Words.max32 ∧ complexity code = 0 ∧
      (complexity code).toNat ≠ min (1 + countBranches code.toList) Words.max32 ∧
      complexity? code ≠ some (complexity code) ∧
      (¬∃ i ∈ (review limits code).issues, i.category = .complexity) ∧ review? limits code = none := by
  intro code limits
  have hcount : countBranches code.toList = Words.max32 := by
    rw [String.toList_ofList, countBranches_conditionals]
  have hread : countBranches (stripComments code).toList = Words.max32 := by
    rw [stripComments_conditionals, hcount]
  -- the text is too long to look into it
  clear_value code
  obtain ⟨hscore, hfits, hzero, -, hremarks, hstops⟩ := complexity_saturates_iff code limits code
  exact ⟨hcount, hzero.mpr hcount, fun h => hscore.mp h hcount, fun h => hfits.mp h hcount,
    fun h => (hremarks.mp h).2.1 hread, hstops.mpr ⟨Nat.le_refl _, hread⟩⟩

end Arcade.Submission
