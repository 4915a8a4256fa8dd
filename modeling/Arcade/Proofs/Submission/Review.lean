import Arcade.Proofs.Pattern
import Arcade.Submission.Review
/-!
# What a review finds

A source that is too large has one issue, and nothing else is looked at. For any other source each
issue has one reason (`mem_issues_iff`), so that a review has no errors exactly if no forbidden pattern
occurs and every required one does (`errors_eq_nil_iff`), and no warnings exactly if the marker
occurs and the complexity is within its limit (`warnings_eq_nil_iff`).
-/

namespace Arcade.Submission

variable {limits : ReviewLimits} {source : String}

/-! ### Verdicts -/

namespace Analysis

theorem messages_eq_nil_iff (a : Analysis) (severity : Severity) :
    a.messages severity = [] ↔ ∀ i ∈ a.issues, i.severity ≠ severity := by
  simp [messages, List.filter_eq_nil_iff]

theorem mem_messages {a : Analysis} {i : Issue} (h : i ∈ a.issues) :
    i.message ∈ a.messages i.severity :=
  List.mem_map_of_mem (List.mem_filter.mpr ⟨h, decide_eq_true rfl⟩)

theorem safe_ofIssues_iff (issues : List Issue) (metrics : Metrics) :
    (ofIssues issues metrics).safe = true ↔ (ofIssues issues metrics).errors = [] := by
  rw [errors, messages_eq_nil_iff]
  simp [ofIssues]

end Analysis

/-! ### Single findings -/

theorem ForbiddenRule.issue?_eq_none_iff (rule : ForbiddenRule) (cs : List Char) :
    rule.issue? cs = none ↔ ¬rule.pattern.Occurs cs := by
  rw [← Pattern.isIn_iff_occurs, issue?, Option.map_eq_none_iff, Pattern.isIn]
  simp

theorem ForbiddenRule.eq_of_issue? {rule : ForbiddenRule} {cs : List Char} {i : Issue}
    (h : rule.issue? cs = some i) :
    ∃ line, i = ⟨.error, .security rule.capability, rule.message, some line⟩ := by
  obtain ⟨found, -, rfl⟩ := Option.map_eq_some_iff.mp h
  exact ⟨_, rfl⟩

theorem ForbiddenRule.severity_of_issue? {rule : ForbiddenRule} {cs : List Char} {i : Issue}
    (h : rule.issue? cs = some i) : i.severity = .error := by
  obtain ⟨line, rfl⟩ := eq_of_issue? h
  rfl

theorem RequiredMember.issue?_eq_none_iff (kind : String) (m : RequiredMember) (code : List Char) :
    m.issue? kind code = none ↔ m.pattern.Occurs code := by
  rw [← Pattern.isIn_iff_occurs, issue?]
  simp

/-- The issue of a member that is missing. -/
def RequiredMember.missing (kind : String) (m : RequiredMember) : Issue :=
  { severity := .error, category := .interface,
    message := "Missing required " ++ kind ++ ": " ++ m.signature }

theorem RequiredMember.issue?_eq_some_iff {kind : String} {m : RequiredMember} {code : List Char}
    {i : Issue} : m.issue? kind code = some i ↔ ¬m.pattern.Occurs code ∧ i = m.missing kind := by
  rw [← Pattern.isIn_iff_occurs, issue?]
  cases m.pattern.isIn code <;> simp [missing, eq_comm]

theorem RequiredMember.severity_of_issue? {kind : String} {m : RequiredMember} {code : List Char}
    {i : Issue} (h : m.issue? kind code = some i) : i.severity = .error := by
  obtain ⟨-, rfl⟩ := issue?_eq_some_iff.mp h
  rfl

theorem RequiredMember.category_of_issue? {kind : String} {m : RequiredMember} {code : List Char}
    {i : Issue} (h : m.issue? kind code = some i) : i.category = .interface := by
  obtain ⟨-, rfl⟩ := issue?_eq_some_iff.mp h
  rfl

theorem markerIssues_eq_nil_iff (code : List Char) :
    markerIssues code = [] ↔ markerPattern.Occurs code := by
  rw [← Pattern.isIn_iff_occurs, markerIssues]
  simp

theorem eq_of_mem_markerIssues {code : List Char} {i : Issue} (h : i ∈ markerIssues code) :
    i = { severity := .warning, category := .interface, message := missingMarker } := by
  unfold markerIssues at h
  split at h
  · cases h
  · exact List.mem_singleton.mp h

theorem severity_of_mem_markerIssues {code : List Char} {i : Issue} (h : i ∈ markerIssues code) :
    i.severity = .warning := by
  rw [eq_of_mem_markerIssues h]

theorem complexityIssues_eq_nil_iff (complexity limit : Nat) :
    complexityIssues complexity limit = [] ↔ complexity ≤ limit := by
  simp [complexityIssues]

theorem severity_of_mem_complexityIssues {complexity limit : Nat} {i : Issue}
    (h : i ∈ complexityIssues complexity limit) : i.severity = .warning := by
  unfold complexityIssues at h
  split at h
  · obtain rfl := List.mem_singleton.mp h
    rfl
  · cases h

/-! ### Whole reviews -/

theorem review_of_large (h : limits.maxCodeSize < source.utf8ByteSize) : review limits source
    = .ofIssues [sizeIssue source.utf8ByteSize limits.maxCodeSize] {} := by
  rw [review, if_pos h]

theorem safe_review_iff (limits : ReviewLimits) (source : String) :
    (review limits source).safe = true ↔ (review limits source).errors = [] := by
  unfold review
  split <;> exact Analysis.safe_ofIssues_iff _ _

theorem errors_ne_nil_of_large (h : limits.maxCodeSize < source.utf8ByteSize) :
    (review limits source).errors ≠ [] := by
  rw [review_of_large h]
  exact List.cons_ne_nil _ _

/-- The issues of a source that is not too large, by what they are about. -/
theorem mem_issues_iff (h : source.utf8ByteSize ≤ limits.maxCodeSize) (i : Issue) :
    i ∈ (review limits source).issues ↔
      (∃ rule ∈ forbiddenRules, rule.issue? source.toList = some i) ∨
      (∃ m ∈ requiredProperties, m.issue? "property" (stripComments source).toList = some i) ∨
      (∃ m ∈ requiredMethods, m.issue? "method" (stripComments source).toList = some i) ∨
      i ∈ markerIssues (stripComments source).toList ∨
      i ∈ complexityIssues (complexity (stripComments source)).toNat limits.maxComplexity := by
  rw [review, if_neg (Nat.not_lt.mpr h)]
  simp only [Analysis.ofIssues, List.mem_append, List.mem_filterMap, measure, or_assoc]

/-- The issues about the interface are those of the members and of the marker. -/
theorem interfaceIssues_review (h : source.utf8ByteSize ≤ limits.maxCodeSize) :
    (review limits source).interfaceIssues =
      requiredProperties.filterMap (·.issue? "property" (stripComments source).toList)
        ++ requiredMethods.filterMap (·.issue? "method" (stripComments source).toList)
        ++ markerIssues (stripComments source).toList := by
  have hforbidden : (forbiddenRules.filterMap (·.issue? source.toList)).filter
      (fun i => i.category = .interface) = [] := by
    refine List.filter_eq_nil_iff.mpr fun i hi => ?_
    obtain ⟨rule, -, hissue⟩ := List.mem_filterMap.mp hi
    obtain ⟨line, rfl⟩ := ForbiddenRule.eq_of_issue? hissue
    simp
  have hmembers : ∀ (kind : String) (members : List RequiredMember),
      (members.filterMap (·.issue? kind (stripComments source).toList)).filter
          (fun i => i.category = .interface)
        = members.filterMap (·.issue? kind (stripComments source).toList) := by
    intro kind members
    refine List.filter_eq_self.mpr fun i hi => ?_
    obtain ⟨m, -, hissue⟩ := List.mem_filterMap.mp hi
    exact decide_eq_true (RequiredMember.category_of_issue? hissue)
  have hmarker : (markerIssues (stripComments source).toList).filter
      (fun i => i.category = .interface) = markerIssues (stripComments source).toList := by
    refine List.filter_eq_self.mpr fun i hi => ?_
    rw [eq_of_mem_markerIssues hi]
    rfl
  have hcomplexity : ∀ complexity limit : Nat, (complexityIssues complexity limit).filter
      (fun i => i.category = .interface) = [] := by
    intro complexity limit
    unfold complexityIssues
    split <;> rfl
  rw [review, if_neg (Nat.not_lt.mpr h)]
  simp only [Analysis.interfaceIssues, Analysis.ofIssues, List.filter_append, hforbidden, hmembers,
    hmarker, hcomplexity, List.nil_append, List.append_nil]

theorem metrics_review (h : source.utf8ByteSize ≤ limits.maxCodeSize) :
    (review limits source).metrics = measure source (stripComments source) := by
  rw [review, if_neg (Nat.not_lt.mpr h)]
  rfl

/-- Where all issues have one severity, none has it exactly if there are none. -/
theorem forall_severity_ne_iff {issues : List Issue} {severity : Severity}
    (h : ∀ i ∈ issues, i.severity = severity) :
    (∀ i ∈ issues, i.severity ≠ severity) ↔ issues = [] := by
  constructor
  · intro hnone
    exact List.eq_nil_iff_forall_not_mem.mpr fun i hi => hnone i hi (h i hi)
  · rintro rfl i hi
    cases hi

/-- The same for what some check finds. -/
theorem forall_found_ne_iff {α : Type} {f : α → Option Issue} {severity : Severity}
    (h : ∀ {a i}, f a = some i → i.severity = severity) (checked : List α) :
    (∀ i, (∃ a ∈ checked, f a = some i) → i.severity ≠ severity) ↔
      ∀ a ∈ checked, f a = none := by
  have hall : ∀ i ∈ checked.filterMap f, i.severity = severity := by
    intro i hi
    obtain ⟨a, -, hfound⟩ := List.mem_filterMap.mp hi
    exact h hfound
  simp only [← List.mem_filterMap, forall_severity_ne_iff hall, List.filterMap_eq_nil_iff]

/-- A review raises no error exactly if nothing forbidden occurs and nothing required is missing. -/
theorem errors_eq_nil_iff (h : source.utf8ByteSize ≤ limits.maxCodeSize) :
    (review limits source).errors = [] ↔
      (∀ rule ∈ forbiddenRules, ¬rule.pattern.Occurs source.toList) ∧
      ∀ m ∈ requiredProperties ++ requiredMethods, m.pattern.Occurs (stripComments source).toList := by
  -- the rest of a review are warnings
  have hmarker : ∀ i ∈ markerIssues (stripComments source).toList, i.severity ≠ .error := by
    intro i hi
    rw [severity_of_mem_markerIssues hi]
    exact nofun
  have hcomplexity : ∀ i ∈ complexityIssues (complexity (stripComments source)).toNat
      limits.maxComplexity, i.severity ≠ .error := by
    intro i hi
    rw [severity_of_mem_complexityIssues hi]
    exact nofun
  rw [Analysis.errors, Analysis.messages_eq_nil_iff]
  simp only [mem_issues_iff h, or_imp, forall_and]
  rw [forall_found_ne_iff ForbiddenRule.severity_of_issue?,
    forall_found_ne_iff RequiredMember.severity_of_issue?,
    forall_found_ne_iff RequiredMember.severity_of_issue?]
  simp only [ForbiddenRule.issue?_eq_none_iff, RequiredMember.issue?_eq_none_iff,
    List.forall_mem_append, iff_true_intro hmarker, iff_true_intro hcomplexity, and_true]

/-- A review raises no warning exactly if there is a marker and not too much complexity. -/
theorem warnings_eq_nil_iff (h : source.utf8ByteSize ≤ limits.maxCodeSize) :
    (review limits source).warnings = [] ↔ markerPattern.Occurs (stripComments source).toList ∧
      (complexity (stripComments source)).toNat ≤ limits.maxComplexity := by
  -- the rest of a review are errors
  have hforbidden : ∀ i, (∃ rule ∈ forbiddenRules, rule.issue? source.toList = some i) →
      i.severity ≠ .warning := by
    rintro i ⟨rule, -, hissue⟩
    rw [ForbiddenRule.severity_of_issue? hissue]
    exact nofun
  have hrequired : ∀ (kind : String) (members : List RequiredMember) (i : Issue),
      (∃ m ∈ members, m.issue? kind (stripComments source).toList = some i) →
        i.severity ≠ .warning := by
    rintro kind members i ⟨m, -, hissue⟩
    rw [RequiredMember.severity_of_issue? hissue]
    exact nofun
  rw [Analysis.warnings, Analysis.messages_eq_nil_iff]
  simp only [mem_issues_iff h, or_imp, forall_and]
  rw [forall_severity_ne_iff fun i => severity_of_mem_markerIssues,
    forall_severity_ne_iff fun i => severity_of_mem_complexityIssues, markerIssues_eq_nil_iff,
    complexityIssues_eq_nil_iff]
  simp only [iff_true_intro hforbidden, iff_true_intro (hrequired _ _), true_and]

end Arcade.Submission
