import Arcade.Build.Compiler
import Arcade.Proofs.Digest.ContentHash
import Arcade.Proofs.Submission.Review
import Arcade.Proofs.Wasm.LinkCheck
/-!
# What is built

A build has four ways out, and `Ends` is one constructor for each with all that has decided on it.
Reading off the last of them gives the conditions under which a source is built: `Accepts` states them
without the order in which they are checked and without the messages, and `gate_is_exact` says that
they are exactly those under which there is an artifact. It also says that whoever is refused is told
why, that a source which the review blocks is refused whatever the toolchain is, and that an artifact
holds what the toolchain has made, under its own hash.
-/

namespace Arcade.Build

open Submission

namespace Compiler

variable {c : Compiler} {now : Int64} {source : String}

/-! ### The conditions -/

/-- What a source must be, and what the toolchain must have made of it, for a build to succeed. -/
structure Accepts (c : Compiler) (source : String) (product : Product) : Prop where
  size : source.utf8ByteSize ≤ c.limits.maxCodeSize
  harmless : ∀ rule ∈ forbiddenRules, ¬rule.pattern.Occurs source.toList
  complete : ∀ m ∈ requiredProperties ++ requiredMethods,
    m.pattern.Occurs (stripComments source).toList
  strict : c.policy.strict = true → markerPattern.Occurs (stripComments source).toList ∧
    (complexity (stripComments source)).toNat ≤ c.limits.maxComplexity
  made : c.toolchain.build source = .ok product
  linkable : c.policy.enforceImports = true → Wasm.header <+: product.bytes →
    ∃ found, Wasm.imports product.bytes = .ok found ∧ ∀ i ∈ found, c.imports.permits i = true

theorem blocking_eq_nil_iff (c : Compiler) (a : Analysis) : c.blocking a = [] ↔
    a.errors = [] ∧ (c.policy.strict = true → a.warnings = []) := by
  unfold blocking
  cases c.policy.strict <;> simp

/-- A review lets a source through exactly if it meets the conditions on its text. -/
theorem reviewed_iff (c : Compiler) (source : String) : c.blocking (c.analyze source) = [] ↔
    source.utf8ByteSize ≤ c.limits.maxCodeSize ∧
      (∀ rule ∈ forbiddenRules, ¬rule.pattern.Occurs source.toList) ∧
      (∀ m ∈ requiredProperties ++ requiredMethods,
        m.pattern.Occurs (stripComments source).toList) ∧
      (c.policy.strict = true → markerPattern.Occurs (stripComments source).toList ∧
        (complexity (stripComments source)).toNat ≤ c.limits.maxComplexity) := by
  rw [blocking_eq_nil_iff, analyze]
  by_cases hsize : source.utf8ByteSize ≤ c.limits.maxCodeSize
  · rw [errors_eq_nil_iff hsize, warnings_eq_nil_iff hsize]
    simp only [hsize, true_and, and_assoc]
  · have herrors := errors_ne_nil_of_large (Nat.not_le.mp hsize)
    simp only [herrors, hsize, false_and]

theorem checkImports_eq_ok_iff (c : Compiler) (product : Product) :
    c.checkImports product = .ok () ↔
      (c.policy.enforceImports = true → Wasm.header <+: product.bytes →
        ∃ found, Wasm.imports product.bytes = .ok found ∧
          ∀ i ∈ found, c.imports.permits i = true) := by
  unfold checkImports
  cases henforce : c.policy.enforceImports with
  | false => simp
  | true =>
      rw [if_pos rfl, Wasm.ImportPolicy.checkBuilt]
      by_cases hmodule : Wasm.isWasm product.bytes = true
      · have hheader : Wasm.header <+: product.bytes := List.isPrefixOf_iff_prefix.mp hmodule
        rw [if_pos hmodule]
        cases himports : Wasm.imports product.bytes with
        | error m => simp [hheader]
        | ok found => simp [hheader, Wasm.ImportPolicy.check_eq_ok_iff]
      · have hheader : ¬Wasm.header <+: product.bytes :=
          fun h => hmodule (List.isPrefixOf_iff_prefix.mpr h)
        simp [hmodule, hheader]

/-! ### The ways out of a build -/

/-- How a build ends, each way with what has decided on it. -/
inductive Ends (c : Compiler) (now : Int64) (source : String) : Outcome → Prop
  | blocked (hblocks : c.blocking (c.analyze source) ≠ []) :
      Ends c now source (.rejected (c.blocking (c.analyze source)) (c.analyze source))
  | failed (hpasses : c.blocking (c.analyze source) = []) (fault : ToolFault)
      (hfails : c.toolchain.build source = .error fault) :
      Ends c now source (.rejected ["Compilation failed: " ++ fault.message] (c.analyze source))
  | unlinkable (hpasses : c.blocking (c.analyze source) = []) (product : Product)
      (hmade : c.toolchain.build source = .ok product) (violation : Wasm.Violation)
      (himports : c.checkImports product = .error violation) :
      Ends c now source (.rejected [violation.message] (c.analyze source))
  | built (hpasses : c.blocking (c.analyze source) = []) (product : Product)
      (hmade : c.toolchain.build source = .ok product)
      (himports : c.checkImports product = .ok ()) :
      Ends c now source (.built (.ofProduct c.toolchain.name now product) (c.analyze source))

theorem build_of_blocking (h : c.blocking (c.analyze source) ≠ []) : c.build now source
    = .rejected (c.blocking (c.analyze source)) (c.analyze source) := by
  unfold build
  dsimp only
  rw [if_pos (by simpa using h)]

theorem ends_build (c : Compiler) (now : Int64) (source : String) :
    Ends c now source (c.build now source) := by
  by_cases hblocks : c.blocking (c.analyze source) = []
  · have hpasses : ¬(!(c.blocking (c.analyze source)).isEmpty) = true := by simp [hblocks]
    unfold build
    dsimp only
    rw [if_neg hpasses]
    cases hmade : c.toolchain.build source with
    | error fault => exact .failed hblocks fault hmade
    | ok product =>
        dsimp only
        cases himports : c.checkImports product with
        | error violation => exact .unlinkable hblocks product hmade violation himports
        | ok _ => exact .built hblocks product hmade himports
  · rw [build_of_blocking hblocks]
    exact .blocked hblocks

/-! ### The gate -/

theorem success_iff (c : Compiler) (now : Int64) (source : String) :
    (c.build now source).success = true ↔ ∃ product, c.Accepts source product := by
  constructor
  · intro hsuccess
    have hends := c.ends_build now source
    generalize c.build now source = outcome at hsuccess hends
    cases hends with
    | blocked _ => cases hsuccess
    | failed _ _ _ => cases hsuccess
    | unlinkable _ _ _ _ _ => cases hsuccess
    | built hpasses product hmade himports =>
        obtain ⟨hsize, hharmless, hcomplete, hstrict⟩ := (c.reviewed_iff source).mp hpasses
        exact ⟨product, hsize, hharmless, hcomplete, hstrict, hmade,
          (c.checkImports_eq_ok_iff product).mp himports⟩
  · rintro ⟨product, haccepts⟩
    have hpasses := (c.reviewed_iff source).mpr
      ⟨haccepts.size, haccepts.harmless, haccepts.complete, haccepts.strict⟩
    have himports := (c.checkImports_eq_ok_iff product).mpr haccepts.linkable
    unfold build
    simp [hpasses, haccepts.made, himports, Outcome.success]

theorem errors_ne_nil_iff (c : Compiler) (now : Int64) (source : String) :
    (c.build now source).errors ≠ [] ↔ (c.build now source).success = false := by
  have hends := c.ends_build now source
  generalize c.build now source = outcome at hends
  cases hends with
  | blocked hblocks => simp [Outcome.errors, Outcome.success, hblocks]
  | failed _ fault _ => simp [Outcome.errors, Outcome.success]
  | unlinkable _ _ _ violation _ => simp [Outcome.errors, Outcome.success]
  | built _ _ _ _ => simp [Outcome.errors, Outcome.success]

/-- An issue that blocks is one of the messages of the refusal. -/
theorem message_mem_blocking {a : Analysis} {i : Issue} (hi : i ∈ a.issues)
    (hblocks : i.severity = .error ∨ c.policy.strict = true ∧ i.severity = .warning) :
    i.message ∈ c.blocking a := by
  have hmessage := Analysis.mem_messages hi
  unfold blocking
  rcases hblocks with herror | ⟨hstrict, hwarning⟩
  · rw [herror] at hmessage
    split
    · exact List.mem_append_left _ hmessage
    · exact hmessage
  · rw [hwarning] at hmessage
    rw [if_pos hstrict]
    exact List.mem_append_right _ hmessage

/-- An artifact has the bytes of the product, and passes the check against its hash. -/
theorem verify_ofProduct (name : String) (now : Int64) (product : Product) :
    (Artifact.ofProduct name now product).verify = .ok () := by
  rw [Artifact.verify, Artifact.ofProduct, ContentHash.verify_ofBytes, if_pos rfl]

/-- **The gate is exact.** A build succeeds exactly under the conditions of `Accepts`, and has
messages exactly if it does not. If an issue of the review blocks, the same build results with any
other toolchain. An artifact has the bytes that the toolchain has made, and verifies. -/
theorem gate_is_exact (c : Compiler) (now : Int64) (source : String) :
    let outcome := c.build now source
    ((∃ artifact analysis, outcome = .built artifact analysis) ↔
      ∃ product, c.Accepts source product) ∧
    (outcome.errors ≠ [] ↔ ∃ errors analysis, outcome = .rejected errors analysis) ∧
    ((∃ i ∈ (c.analyze source).issues,
        i.severity = .error ∨ c.policy.strict = true ∧ i.severity = .warning) →
      ∀ toolchain, ({ c with toolchain := toolchain } : Compiler).build now source = outcome) ∧
    ∀ artifact analysis, outcome = .built artifact analysis →
      ∃ product, c.toolchain.build source = .ok product ∧ artifact.bytes = product.bytes ∧
        artifact.verify = .ok () := by
  intro outcome
  have hbuilt : (∃ artifact analysis, outcome = .built artifact analysis) ↔
      outcome.success = true := by
    cases outcome <;> simp [Outcome.success]
  have hrejected : (∃ errors analysis, outcome = .rejected errors analysis) ↔
      outcome.success = false := by
    cases outcome <;> simp [Outcome.success]
  refine ⟨hbuilt.trans (c.success_iff now source),
    (c.errors_ne_nil_iff now source).trans hrejected.symm, ?_, ?_⟩
  · rintro ⟨i, hi, hblocks⟩ toolchain
    have hblocking : c.blocking (c.analyze source) ≠ [] :=
      List.ne_nil_of_mem (message_mem_blocking hi hblocks)
    -- neither the review nor what of it blocks looks at the toolchain
    calc ({ c with toolchain := toolchain } : Compiler).build now source
        = .rejected (c.blocking (c.analyze source)) (c.analyze source) :=
          build_of_blocking (c := { c with toolchain := toolchain }) hblocking
      _ = outcome := (build_of_blocking hblocking).symm
  · intro artifact analysis hbuilds
    have hends : Ends c now source outcome := c.ends_build now source
    rw [hbuilds] at hends
    cases hends with
    | built _ product hmade _ => exact ⟨product, hmade, rfl, verify_ofProduct _ _ _⟩

end Compiler

end Arcade.Build
