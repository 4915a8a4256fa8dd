import Arcade.Proofs.Build.Gate
/-!
# Surroundings hide nothing

The forbidden rules are read on the text as it was handed in. Their patterns look no further than the
characters they take and, at a word edge, the one beside it; none depends on where the text ends. So
text in the lines before and after cannot undo a match, not by opening a comment or a quote either
(`surroundings_hide_nothing`).
-/

namespace Arcade.Build

open Submission

/-- None of the forbidden patterns depends on where a text ends. -/
theorem seamless_of_forbidden :
    ∀ rule ∈ forbiddenRules, rule.pattern.seamless false = true := by
  decide +kernel

theorem toList_lines (a s b : String) : (a ++ "\n" ++ s ++ "\n" ++ b).toList
    = a.toList ++ '\n' :: s.toList ++ '\n' :: b.toList := by
  simp [String.toList_append]

namespace Compiler

/-- A forbidden rule that matches is an issue, and blocks. -/
theorem blocks_of_occurs (c : Compiler) {rule : ForbiddenRule} (hrule : rule ∈ forbiddenRules)
    {text : String} (hoccurs : rule.pattern.Occurs text.toList)
    (hsize : text.utf8ByteSize ≤ c.limits.maxCodeSize) :
    (∃ line, ⟨.error, .security rule.capability, rule.message, some line⟩
      ∈ (c.analyze text).issues) ∧ rule.message ∈ c.blocking (c.analyze text) := by
  have hissue : rule.issue? text.toList ≠ none :=
    fun hnone => (rule.issue?_eq_none_iff _).mp hnone hoccurs
  obtain ⟨i, hi⟩ := Option.ne_none_iff_exists'.mp hissue
  obtain ⟨line, rfl⟩ := ForbiddenRule.eq_of_issue? hi
  have hmem := (mem_issues_iff hsize _).mpr (Or.inl ⟨rule, hrule, hi⟩)
  exact ⟨⟨line, hmem⟩, message_mem_blocking hmem (Or.inl rfl)⟩

/-- **Surroundings hide nothing.** A source in which a forbidden rule matches is unsafe whatever text
is put before and behind it: the rule raises its error, unless the text is refused for its size, and
no compiler builds it. -/
theorem surroundings_hide_nothing {rule : ForbiddenRule} (hrule : rule ∈ forbiddenRules) {s : String}
    (hoccurs : rule.pattern.Occurs s.toList) (a b : String) (c : Compiler) (now : Int64) :
    let text := a ++ "\n" ++ s ++ "\n" ++ b
    (c.analyze text).safe = false ∧
      (text.utf8ByteSize ≤ c.limits.maxCodeSize →
        ∃ line, ⟨.error, .security rule.capability, rule.message, some line⟩
          ∈ (c.analyze text).issues) ∧
      ∃ errors, c.build now text = .rejected errors (c.analyze text) ∧
        (c.build now text).artifact? = none ∧
        (text.utf8ByteSize ≤ c.limits.maxCodeSize → rule.message ∈ errors) := by
  intro text
  have hthere : rule.pattern.Occurs text.toList := by
    rw [toList_lines]
    exact Pattern.occurs_amid (seamless_of_forbidden rule hrule) hoccurs a.toList b.toList
  have hfits := fun hsize => c.blocks_of_occurs hrule hthere hsize
  have herrors : (c.analyze text).errors ≠ [] := by
    by_cases hsize : text.utf8ByteSize ≤ c.limits.maxCodeSize
    · intro hnone
      exact ((errors_eq_nil_iff hsize).mp hnone).1 rule hrule hthere
    · exact errors_ne_nil_of_large (Nat.not_le.mp hsize)
  have hflagged : (c.analyze text).safe = false := by
    rw [← Bool.not_eq_true, analyze, safe_review_iff]
    exact herrors
  have hblocks : c.blocking (c.analyze text) ≠ [] :=
    fun hnone => herrors ((c.blocking_eq_nil_iff _).mp hnone).1
  have hbuild : c.build now text = .rejected (c.blocking (c.analyze text)) (c.analyze text) :=
    build_of_blocking hblocks
  exact ⟨hflagged, fun hsize => (hfits hsize).1, _, hbuild, by rw [hbuild]; rfl,
    fun hsize => (hfits hsize).2⟩

/-- An evaluation inside a comment, behind a quote that nothing closes. -/
theorem surroundings_hide_nothing_in_comment :
    let text := "/* don't look: \x60" ++ "\n" ++ "eval (x)" ++ "\n" ++ "*/"
    let c : Compiler := {}
    (c.analyze text).safe = false ∧ (c.build 0 text).artifact? = none := by
  intro text c
  have hrule : (⟨.dynamicCode, call "eval", "Dynamic code evaluation via eval() is not allowed"⟩ :
      ForbiddenRule) ∈ forbiddenRules := List.mem_of_getElem? (i := 6) rfl
  have hoccurs : (call "eval").Occurs "eval (x)".toList :=
    (Pattern.isIn_iff_occurs _ _).mp (by decide +kernel)
  obtain ⟨hflagged, -, _, -, hnone, -⟩ :=
    surroundings_hide_nothing hrule hoccurs "/* don't look: \x60" "*/" c 0
  exact ⟨hflagged, hnone⟩

end Compiler

end Arcade.Build
