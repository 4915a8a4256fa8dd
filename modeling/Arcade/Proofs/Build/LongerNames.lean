import Arcade.Proofs.Build.Gate
/-!
# Longer names

A required member is defined by its own name, not by a longer one in which it stands, nor behind a dot.
Every pattern for a member has the form `definition`: the name behind a keyword, or with a tail that makes
it a definition. Both say what may stand beside the name. Behind it no character of a name can, before it
none can but one: a dollar sign, which names may have, but which is no word character.

So of a name that stands in longer ones only, the member is missing and the source refused, unless a
dollar sign is before it and a tail behind (`longer_names_are_missing`).
-/

namespace Arcade.Build

open Pattern
open Submission
open Text (isWord isBlank)

variable {c : Char} {s e : Place} {p : Pattern} {name code : List Char}

/-! ### The neighbours of a name -/

/-- The characters of names. -/
def isNameChar (c : Char) : Bool :=
  isWord c || c == '$'

/-- Whether a character before a name makes it part of a longer one, or a member of something else. -/
def bindsNext (c : Char) : Bool :=
  isNameChar c || c == '.'

/-- Whether a name between two texts is part of a longer one, or stands behind a dot. -/
def Longer (before after : List Char) : Prop :=
  before.getLast?.any bindsNext = true ∨ after.head?.any isNameChar = true

instance (before after : List Char) : Decidable (Longer before after) :=
  inferInstanceAs (Decidable (_ ∨ _))

/-- Whether all occurrences of a name in a text are in longer ones, or behind a dot. -/
def OnlyInLonger (name code : List Char) : Prop :=
  ∀ before after, code = before ++ name ++ after → Longer before after

/-- A text has as many places for a name as it has characters. -/
theorem onlyInLonger_iff : OnlyInLonger name code ↔ ∀ n ∈ List.range (code.length + 1),
    name <+: code.drop n → Longer (code.take n) (code.drop (n + name.length)) := by
  constructor
  · rintro h n - ⟨after, hafter⟩
    refine h _ _ ?_
    rw [List.append_assoc, ← List.drop_drop, ← hafter, List.drop_left, hafter, List.take_append_drop]
  · rintro h before after rfl
    have hless : before.length < (before ++ name ++ after).length + 1 := by
      rw [List.length_append, List.length_append]
      omega
    have hplace := h before.length (List.mem_range.mpr hless)
    simpa [List.append_assoc, ← List.drop_drop] using hplace

instance (name code : List Char) : Decidable (OnlyInLonger name code) :=
  decidable_of_iff _ onlyInLonger_iff.symm

/-- The codes of the blank characters. -/
def blankCodes : List Nat :=
  [9, 10, 11, 12, 13, 0x20, 0x85, 0xA0, 0x1680] ++ List.range' 0x2000 11
    ++ [0x2028, 0x2029, 0x202F, 0x205F, 0x3000]

theorem mem_blankCodes_of_isBlank (h : isBlank c = true) : c.toNat ∈ blankCodes := by
  simp only [isBlank, Bool.or_eq_true, Bool.and_eq_true, decide_eq_true_eq, beq_iff_eq] at h
  simp only [blankCodes, List.mem_append, List.mem_cons, List.mem_range'_1, List.not_mem_nil]
  omega

theorem not_bindsNext_of_isBlank (h : isBlank c = true) : bindsNext c = false := by
  have hcodes : ∀ n ∈ blankCodes, bindsNext (Char.ofNat n) = false := by decide +kernel
  have hcode := hcodes _ (mem_blankCodes_of_isBlank h)
  rwa [Char.ofNat_toNat] at hcode

/-! ### The form of a definition -/

/-- A name behind a keyword, or with a tail. -/
def definition (keyword name : String) (call tail : Pattern) : Pattern :=
  .seq nameStart <| .alt (all [lit keyword, blanks1, lit name, call]) (.seq (lit name) tail)

/-- What follows the name of a getter. -/
def propertyCall : Pattern :=
  all [blanks, lit "("]

/-- What follows the name of a function. -/
def methodCall : Pattern :=
  all [blanks, oneOf "(<"]

/-- What makes a property of the name before it. -/
def propertyTail : Pattern :=
  all [blanks, opt (oneOf "?!"), blanks, oneOf ":="]

/-- What makes a method of the name before it. -/
def methodTail : Pattern :=
  .alt
    (all [blanks, opt (all [lit "<", upTo ">", lit ">"]), blanks, parenthesised, blanks,
      opt (.seq (lit ":") (upTo "\x7b;=")), lit "\x7b"])
    (all [blanks, oneOf ":=", blanks, opt (.seq (lit "async") blanks1), any [
      .seq (lit "function") .wordEdge,
      all [parenthesised, blanks, opt (.seq (lit ":") (upTo "=")), lit "=>"],
      all [.one isWord, .run isWord, blanks, lit "=>"]]])

/-- The characters that may stand behind the name in a definition. -/
def Delimits (c : Char) : Prop :=
  isBlank c = true ∨ c = '?' ∨ c = '!' ∨ c = ':' ∨ c = '=' ∨ c = '(' ∨ c = '<'

theorem not_isNameChar_of_delimits (h : Delimits c) : isNameChar c = false := by
  rcases h with hblank | rfl | rfl | rfl | rfl | rfl | rfl
  · exact (Bool.or_eq_false_iff.mp (not_bindsNext_of_isBlank hblank)).1
  all_goals decide

/-- Whether a pattern takes something, and first a character that no name goes on with. -/
structure EndsName (p : Pattern) : Prop where
  takes : p.takes = true
  delimits : ∀ c, p.begins c = true → Delimits c

theorem covers_methodPattern_iff (name : String) : (methodPattern name).Covers s e ↔
    (definition "function" name methodCall methodTail).Covers s e := by
  unfold methodPattern definition
  refine exists_congr fun m => and_congr_right fun _ => or_congr_right ?_
  -- the pattern repeats the name before each of the two forms of a tail
  constructor
  · rintro (⟨n, hname, htail⟩ | ⟨n, hname, htail⟩)
    · exact ⟨n, hname, Or.inl htail⟩
    · exact ⟨n, hname, Or.inr htail⟩
  · rintro ⟨n, hname, htail | htail⟩
    · exact Or.inl ⟨n, hname, htail⟩
    · exact Or.inr ⟨n, hname, htail⟩

theorem endsName_propertyTail : EndsName propertyTail where
  takes := rfl
  delimits c h := by
    have hcases : isBlank c = true ∨ (c = '?' ∨ c = '!') ∨ isBlank c = true ∨ c = ':' ∨ c = '=' := by
      simpa [propertyTail, all, begins, takes, blanks, opt, oneOf] using h
    grind [Delimits]

theorem endsName_methodTail : EndsName methodTail where
  takes := rfl
  delimits c h := by
    have hcases : (isBlank c = true ∨ c = '<' ∨ isBlank c = true ∨ c = '(') ∨
        isBlank c = true ∨ c = ':' ∨ c = '=' := by
      simpa [methodTail, parenthesised, lit, chars, all, begins, takes, blanks, opt, oneOf] using h
    grind [Delimits]

theorem endsName_propertyCall : EndsName propertyCall where
  takes := rfl
  delimits c h := by
    have hcases : isBlank c = true ∨ c = '(' := by
      simpa [propertyCall, lit, chars, all, begins, takes, blanks] using h
    grind [Delimits]

theorem endsName_methodCall : EndsName methodCall where
  takes := rfl
  delimits c h := by
    have hcases : isBlank c = true ∨ c = '(' ∨ c = '<' := by
      simpa [methodCall, all, begins, takes, blanks, oneOf] using h
    grind [Delimits]

/-! ### Names in a definition -/

theorem head?_after_of_endsName (hends : EndsName p) (h : p.Covers s e) :
    s.after.head?.any isNameChar = false := by
  obtain ⟨c, rest, hahead, hbegins⟩ := begins_of_takes hends.takes h
  rw [hahead]
  exact not_isNameChar_of_delimits (hends.delimits c hbegins)

/-- White space leaves a blank character behind. -/
theorem head?_before_of_blanks1 (h : blanks1.Covers s e) : e.before.head?.any bindsNext = false := by
  obtain ⟨m, ⟨c, hblank, hone⟩, ⟨taken, hall, hpast⟩, -⟩ := h
  rw [hpast.2, hone.2]
  cases htaken : taken.reverse with
  | nil => exact not_bindsNext_of_isBlank hblank
  | cons d rest =>
      have hmem : d ∈ taken := List.mem_reverse.mp (htaken ▸ List.mem_cons_self)
      exact not_bindsNext_of_isBlank (List.all_eq_true.mp hall d hmem)

/-- Of the characters that make a name longer, a definition may begin behind a dollar sign only. -/
theorem before_of_nameStart (h : nameStart.Covers s e) :
    e.before.head?.any bindsNext = false ∨ e.before = '$' :: s.before := by
  rcases h with ⟨hline, rfl⟩ | ⟨d, haccepts, hone⟩
  · refine Or.inl ?_
    unfold Place.atLineStart at hline
    cases hhead : e.before.head? with
    | none => rfl
    | some d =>
        rw [hhead, Option.all_some, beq_iff_eq] at hline
        subst hline
        decide
  · rw [Bool.and_eq_true, bne_iff_ne, Bool.not_eq_true'] at haccepts
    have hbefore : e.before = d :: s.before := hone.2
    by_cases hdollar : d = '$'
    · exact Or.inr (hdollar ▸ hbefore)
    · refine Or.inl ?_
      simp [hbefore, bindsNext, isNameChar, haccepts, hdollar]

theorem text_of_covers (h : p.Covers s e) : s.text = e.text := by
  obtain ⟨taken, hpast⟩ := exists_past_of_covers h
  exact hpast.text.symm

theorem text_of_name (h : Place.Past name s e) : s.text = s.before.reverse ++ name ++ e.after := by
  rw [Place.text, h.1, List.append_assoc]

theorem not_longer (hbefore : s.before.head?.any bindsNext = false)
    (hafter : e.after.head?.any isNameChar = false) : ¬Longer s.before.reverse e.after := by
  simp [Longer, hbefore, hafter]

/-- What a definition covers is the definition of a name that is in no longer one, or of a name with a
dollar sign before it. -/
theorem name_of_definition {keyword name : String} {call tail : Pattern} (hcall : EndsName call)
    (htail : EndsName tail) (h : (definition keyword name call tail).Covers s e) :
    (∃ before after, s.text = before ++ name.toList ++ after ∧ ¬Longer before after) ∨
    ∃ before after, s.text = before ++ '$' :: (name.toList ++ after) ∧
      tail.Covers ⟨(before ++ '$' :: name.toList).reverse, after⟩ e := by
  obtain ⟨m, hstart, hform⟩ := h
  rw [text_of_covers hstart]
  rcases hform with ⟨m₁, hkeyword, m₂, hblanks, m₃, hname, hbehind⟩ | ⟨m₁, hname, hbehind⟩
  · -- white space stands between the keyword and the name
    rw [covers_lit_iff] at hname
    refine Or.inl ⟨m₂.before.reverse, m₃.after, ?_, ?_⟩
    · rw [text_of_covers hkeyword, text_of_covers hblanks, text_of_name hname]
    · exact not_longer (head?_before_of_blanks1 hblanks) (head?_after_of_endsName hcall hbehind)
  · rw [covers_lit_iff] at hname
    rcases before_of_nameStart hstart with hbefore | hdollar
    · exact Or.inl ⟨_, _, text_of_name hname,
        not_longer hbefore (head?_after_of_endsName htail hbehind)⟩
    · refine Or.inr ⟨s.before.reverse, m₁.after, ?_, ?_⟩
      · rw [text_of_name hname, hdollar]
        simp
      · have hplace : m₁ = ⟨(s.before.reverse ++ '$' :: name.toList).reverse, m₁.after⟩ := by
          cases m₁
          simpa [hdollar] using hname.2
        exact hplace ▸ hbehind

/-- With a dollar sign before it and a tail behind, a name is defined. -/
theorem covers_definition_of_dollar {keyword name : String} {call tail : Pattern}
    {before after : List Char} (h : tail.Covers ⟨(before ++ '$' :: name.toList).reverse, after⟩ e) :
    (definition keyword name call tail).Covers ⟨before.reverse, '$' :: (name.toList ++ after)⟩ e := by
  refine ⟨⟨'$' :: before.reverse, name.toList ++ after⟩, Or.inr ⟨'$', by decide, rfl, rfl⟩,
    Or.inr ⟨⟨(before ++ '$' :: name.toList).reverse, after⟩, ?_, h⟩⟩
  exact (covers_lit_iff name).mpr ⟨rfl, by simp⟩

/-- Of a name that stands in longer ones only, what defines it is a tail, and a dollar sign before it. -/
theorem occurs_definition_iff (keyword : String) {name : String} {call tail : Pattern} (hcall : EndsName call)
    (htail : EndsName tail) (hlonger : OnlyInLonger name.toList code) :
    (definition keyword name call tail).Occurs code ↔
      ∃ before after, code = before ++ '$' :: (name.toList ++ after) ∧
        ∃ e, tail.Covers ⟨(before ++ '$' :: name.toList).reverse, after⟩ e := by
  constructor
  · rintro ⟨s, e, rfl, h⟩
    rcases name_of_definition hcall htail h with
      ⟨before, after, htext, hnot⟩ | ⟨before, after, htext, hbehind⟩
    · exact absurd (hlonger before after htext) hnot
    · exact ⟨before, after, htext, e, hbehind⟩
  · rintro ⟨before, after, rfl, e, h⟩
    exact ⟨_, e, by simp [Place.text], covers_definition_of_dollar h⟩

/-! ### Required members -/

/-- The required members, with what messages call them and with the tail of their definitions. -/
inductive Required : String → RequiredMember → Pattern → Prop
  | property {m : RequiredMember} (h : m ∈ requiredProperties) : Required "property" m propertyTail
  | method {m : RequiredMember} (h : m ∈ requiredMethods) : Required "method" m methodTail

variable {kind : String} {m : RequiredMember} {tail : Pattern}

theorem pattern_of_property (h : m ∈ requiredProperties) : m.pattern = propertyPattern m.name := by
  obtain ⟨name, -, rfl⟩ := List.mem_map.mp h
  rfl

theorem pattern_of_method (h : m ∈ requiredMethods) : m.pattern = methodPattern m.name := by
  obtain ⟨⟨name, signature⟩, -, rfl⟩ := List.mem_map.mp h
  rfl

theorem Required.occurs_iff (h : Required kind m tail) (hlonger : OnlyInLonger m.name.toList code) :
    m.pattern.Occurs code ↔ ∃ before after, code = before ++ '$' :: (m.name.toList ++ after) ∧
      ∃ e, tail.Covers ⟨(before ++ '$' :: m.name.toList).reverse, after⟩ e := by
  cases h with
  | property h =>
      rw [pattern_of_property h,
        ← occurs_definition_iff "get" endsName_propertyCall endsName_propertyTail hlonger]
      exact Iff.rfl
  | method h =>
      rw [pattern_of_method h,
        ← occurs_definition_iff "function" endsName_methodCall endsName_methodTail hlonger]
      simp only [Occurs, covers_methodPattern_iff]

/-- Messages tell the members apart. -/
theorem Required.pattern_eq_of_missing {kind' : String} {m' : RequiredMember} {tail' : Pattern}
    (h : Required kind m tail) (h' : Required kind' m' tail') (hsame : m.missing kind = m'.missing kind') :
    m.pattern = m'.pattern := by
  have hmessage : (m.missing kind).message = (m'.missing kind').message := by rw [hsame]
  have hkinds : ∀ p ∈ requiredProperties, ∀ f ∈ requiredMethods,
      (p.missing "property").message ≠ (f.missing "method").message := by decide +kernel
  have hproperties : ∀ p ∈ requiredProperties, ∀ q ∈ requiredProperties,
      (p.missing "property").message = (q.missing "property").message → p.name = q.name := by
    decide +kernel
  have hmethods : ∀ f ∈ requiredMethods, ∀ g ∈ requiredMethods,
      (f.missing "method").message = (g.missing "method").message → f.name = g.name := by
    decide +kernel
  cases h with
  | property h =>
      cases h' with
      | property h' =>
          rw [pattern_of_property h, pattern_of_property h', hproperties m h m' h' hmessage]
      | method h' => exact absurd hmessage (hkinds m h m' h')
  | method h =>
      cases h' with
      | property h' => exact absurd hmessage.symm (hkinds m' h' m h)
      | method h' => rw [pattern_of_method h, pattern_of_method h', hmethods m h m' h' hmessage]

/-- A review reports a member exactly if no definition of it occurs. -/
theorem Required.missing_mem_issues_iff (h : Required kind m tail) {limits : ReviewLimits}
    {source : String} (hsize : source.utf8ByteSize ≤ limits.maxCodeSize) :
    m.missing kind ∈ (review limits source).issues ↔
      ¬m.pattern.Occurs (stripComments source).toList := by
  have hother : ∀ {kind' : String} {m' : RequiredMember} {tail' : Pattern}, Required kind' m' tail' →
      m'.issue? kind' (stripComments source).toList = some (m.missing kind) →
        ¬m.pattern.Occurs (stripComments source).toList := by
    intro kind' m' tail' h' hissue
    obtain ⟨hnone, hsame⟩ := RequiredMember.issue?_eq_some_iff.mp hissue
    rwa [h.pattern_eq_of_missing h' hsame]
  rw [mem_issues_iff hsize]
  constructor
  · rintro (⟨rule, -, hissue⟩ | ⟨m', h', hissue⟩ | ⟨m', h', hissue⟩ | hmarker | hcomplexity)
    · obtain ⟨line, hsame⟩ := ForbiddenRule.eq_of_issue? hissue
      cases hsame
    · exact hother (.property h') hissue
    · exact hother (.method h') hissue
    · cases severity_of_mem_markerIssues hmarker
    · cases severity_of_mem_complexityIssues hcomplexity
  · intro hnone
    have hissue : m.issue? kind (stripComments source).toList = some (m.missing kind) :=
      RequiredMember.issue?_eq_some_iff.mpr ⟨hnone, rfl⟩
    cases h with
    | property h => exact Or.inr (Or.inl ⟨m, h, hissue⟩)
    | method h => exact Or.inr (Or.inr (Or.inl ⟨m, h, hissue⟩))

/-! ### Refused sources -/

namespace Compiler

/-- **Longer names define nothing, but behind a dollar sign.** If a required name occurs in longer names
only, or behind dots, the review reports the member missing unless a dollar sign stands before the name and
the tail of a definition behind it. What the review reports missing is refused with its message. -/
theorem longer_names_are_missing (c : Compiler) (now : Int64) {source : String}
    (hm : Required kind m tail) (hsize : source.utf8ByteSize ≤ c.limits.maxCodeSize)
    (hlonger : OnlyInLonger m.name.toList (stripComments source).toList) :
    (m.missing kind ∈ (c.analyze source).issues ↔
      ¬∃ before after, (stripComments source).toList = before ++ '$' :: (m.name.toList ++ after) ∧
        ∃ e, tail.Covers ⟨(before ++ '$' :: m.name.toList).reverse, after⟩ e) ∧
    (m.missing kind ∈ (c.analyze source).issues →
      ∃ errors, c.build now source = .rejected errors (c.analyze source) ∧
        (m.missing kind).message ∈ errors) := by
  refine ⟨?_, fun hissue => ?_⟩
  · rw [analyze, hm.missing_mem_issues_iff hsize, hm.occurs_iff hlonger]
  · have hblocks := message_mem_blocking (c := c) hissue (Or.inl rfl)
    exact ⟨_, build_of_blocking (List.ne_nil_of_mem hblocks), hblocks⟩

/-- With an underscore before it, the rate of ticks is missing; with a dollar sign, it is not. -/
theorem longer_names_are_missing_of_dollar :
    let m : RequiredMember := ⟨"tickRate", "tickRate", propertyPattern "tickRate"⟩
    let c : Compiler := {}
    OnlyInLonger m.name.toList (stripComments "my_tickRate = 60").toList ∧
      m.missing "property" ∈ (c.analyze "my_tickRate = 60").issues ∧
      (c.build 0 "my_tickRate = 60").artifact? = none ∧
      OnlyInLonger m.name.toList (stripComments "$tickRate = 60").toList ∧
      m.missing "property" ∉ (c.analyze "$tickRate = 60").issues := by
  intro m c
  have hm : Required "property" m propertyTail :=
    .property (List.mem_map.mpr ⟨"tickRate", by decide, rfl⟩)
  have hword : OnlyInLonger m.name.toList (stripComments "my_tickRate = 60").toList := by
    decide +kernel
  have hdollar : OnlyInLonger m.name.toList (stripComments "$tickRate = 60").toList := by
    decide +kernel
  have hsizes : "my_tickRate = 60".utf8ByteSize ≤ c.limits.maxCodeSize ∧
      "$tickRate = 60".utf8ByteSize ≤ c.limits.maxCodeSize := by decide
  obtain ⟨hmissing, hrefused⟩ := longer_names_are_missing c 0 hm hsizes.1 hword
  have hnone : m.missing "property" ∈ (c.analyze "my_tickRate = 60").issues := by
    refine hmissing.mpr ?_
    rintro ⟨before, after, htext, -⟩
    have hmem : '$' ∈ (stripComments "my_tickRate = 60").toList := by
      rw [htext]
      simp
    exact absurd hmem (by decide)
  obtain ⟨errors, hbuild, -⟩ := hrefused hnone
  refine ⟨hword, hnone, by rw [hbuild]; rfl, hdollar, ?_⟩
  rw [(longer_names_are_missing c 0 hm hsizes.2 hdollar).1, not_not]
  exact ⟨[], " = 60".toList, by decide, (endAt?_isSome_iff _ _).mp (by decide)⟩

end Compiler

end Arcade.Build
