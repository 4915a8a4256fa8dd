import Arcade.Proofs.Wasm.Sections
import Arcade.Wasm.Policy
/-!
# The link check

What a policy says of a module that is made of sections, and of what is left of it when it is cut
off. The policy sees every entry of every section of imports (`imports_eq_ok_iff`), lets the module
through if it lets each of them through, and names the first that it refuses. It looks at names
without their case, so that a name cannot be written past it (`Recased`, `permits_of_recased`).
-/

namespace Arcade.Wasm

open Layout

/-! ### Names in another case -/

/-- The same import but for the case of the ASCII letters of its name. -/
structure Recased (i j : HostImport) : Prop where
  source : i.source = j.source
  kind : i.kind = j.kind
  name : Text.asciiLowerText i.name = Text.asciiLowerText j.name

theorem utf8Size_asciiLower (c : Char) : (Text.asciiLower c).utf8Size = c.utf8Size := by
  by_cases h : 65 ≤ c.toNat ∧ c.toNat ≤ 90
  · have hone : ∀ d : Char, d.toNat ≤ 127 → d.utf8Size = 1 := fun d hd =>
      Char.utf8Size_eq_one_iff.mpr hd
    have hlower : (Text.asciiLower c).toNat ≤ 127 := by
      rw [Text.toNat_asciiLower, if_pos h]
      omega
    rw [hone _ hlower, hone c (by omega)]
  · have hsame : Text.asciiLower c = c := if_neg h
    rw [hsame]

/-- The bytes of a text are those of its characters. -/
theorem ofText_eq (s : String) : Bytes.ofText s = s.toList.flatMap String.utf8EncodeChar := by
  have h : s.toByteArray = s.toList.utf8Encode := by
    rw [← String.toByteArray_ofList, String.ofList_toList]
  simp [Bytes.ofText, String.toUTF8, h, List.utf8Encode]

/-- The case of letters is no matter of how many bytes they take. -/
theorem length_ofText_asciiLowerText (s : String) :
    (Bytes.ofText (Text.asciiLowerText s)).length = (Bytes.ofText s).length := by
  simp [ofText_eq, Text.asciiLowerText, List.length_flatMap, Function.comp_def, utf8Size_asciiLower]

/-- A name in another case stands behind the same size. -/
theorem Name.recased {s t : String} {w : Bytes} (hs : Name s w)
    (h : Text.asciiLowerText s = Text.asciiLowerText t) : ∃ v, Name t v ∧ v.length = w.length := by
  have hlength : (Bytes.ofText t).length = (Bytes.ofText s).length := by
    rw [← length_ofText_asciiLowerText t, ← h, length_ofText_asciiLowerText]
  obtain ⟨size, hsize, hmax, rfl⟩ := hs
  rw [← hlength] at hsize hmax
  exact ⟨size ++ Bytes.ofText t, ⟨size, hsize, hmax, rfl⟩, by simp [hlength]⟩

theorem Entry.recased {i j : HostImport} {w : Bytes} (hi : Entry i w) (h : Recased i j) :
    ∃ v, Entry j v ∧ v.length = w.length := by
  obtain ⟨source, field, type, hsource, hfield, htype, rfl⟩ := hi
  obtain ⟨field', hfield', hlength⟩ := hfield.recased h.name
  refine ⟨source ++ field' ++ kindByte j.kind :: type,
    ⟨source, field', type, h.source ▸ hsource, hfield', h.kind ▸ htype, rfl⟩, ?_⟩
  simp [hlength]

theorem Items.recased {is js : List HostImport} {w : Bytes} (his : Items Entry is w)
    (h : List.Forall₂ Recased is js) : ∃ v, Items Entry js v ∧ v.length = w.length := by
  induction h generalizing w with
  | nil => exact ⟨w, his, rfl⟩
  | cons hfirst hrest ih =>
      cases his with
      | cons hi his =>
          obtain ⟨v, hv, hlength⟩ := hi.recased hfirst
          obtain ⟨u, hu, hlength'⟩ := ih his
          exact ⟨v ++ u, .cons hv hu, by simp [hlength, hlength']⟩

/-- In a section the names of imports can be written in another case, in as many bytes. -/
theorem Section.recased {is js : List HostImport} {w : Bytes} (his : Section is w)
    (h : List.Forall₂ Recased is js) : ∃ v, Section js v ∧ v.length = w.length := by
  obtain ⟨id, size, content, hid, hsize, hcontent, rfl⟩ := his
  have hrecased : ∃ content', Content id js content' ∧ content'.length = content.length := by
    cases hcontent with
    | imports hentries =>
        obtain ⟨count, items, hcount, hitems, rfl⟩ := hentries
        obtain ⟨items', hitems', hlength⟩ := hitems.recased h
        rw [h.length_eq] at hcount
        exact ⟨count ++ items', .imports ⟨count, items', hcount, hitems', rfl⟩, by simp [hlength]⟩
    | custom hname =>
        obtain rfl := List.forall₂_nil_left_iff.mp h
        exact ⟨_, .custom hname, rfl⟩
    | single hid hnumber =>
        obtain rfl := List.forall₂_nil_left_iff.mp h
        exact ⟨_, .single hid hnumber, rfl⟩
    | code hbodies =>
        obtain rfl := List.forall₂_nil_left_iff.mp h
        exact ⟨_, .code hbodies, rfl⟩
    | counted hid hcount =>
        obtain rfl := List.forall₂_nil_left_iff.mp h
        exact ⟨_, .counted hid hcount, rfl⟩
    | unknown hid =>
        obtain rfl := List.forall₂_nil_left_iff.mp h
        exact ⟨content, .unknown hid, rfl⟩
  obtain ⟨content', hcontent', hlength⟩ := hrecased
  rw [← hlength] at hsize
  exact ⟨id :: (size ++ content'), ⟨id, size, content', hid, hsize, hcontent', rfl⟩,
    by simp [hlength]⟩

theorem exists_sections_of_recased {found found' : List (List HostImport)} {parts : List Bytes}
    (h : List.Forall₂ Section found parts)
    (hrecased : List.Forall₂ (List.Forall₂ Recased) found found') :
    ∃ parts', List.Forall₂ Section found' parts' ∧
      parts'.map List.length = parts.map List.length := by
  induction h generalizing found' with
  | nil =>
      obtain rfl := List.forall₂_nil_left_iff.mp hrecased
      exact ⟨[], .nil, rfl⟩
  | cons hpart _ ih =>
      obtain ⟨js, rest, hjs, hrest, rfl⟩ := List.forall₂_cons_left_iff.mp hrecased
      obtain ⟨part', hpart', hlength⟩ := hpart.recased hjs
      obtain ⟨parts', hparts', hlengths⟩ := ih hrest
      exact ⟨part' :: parts', .cons hpart' hparts', by simp [hlength, hlengths]⟩

namespace ImportPolicy

variable {p : ImportPolicy} {all : List HostImport}

/-! ### What a policy lets through -/

/-- Imports are let through one by one. -/
theorem check_eq_ok_iff (p : ImportPolicy) (all : List HostImport) :
    p.check all = .ok () ↔ ∀ i ∈ all, p.permits i = true := by
  unfold check
  cases hfind : all.find? fun i => !p.permits i with
  | none => simpa using hfind
  | some i =>
      have hrefused : p.permits i = false := by simpa using List.find?_some hfind
      constructor
      · exact nofun
      · intro hall
        rw [hall i (List.mem_of_find?_eq_some hfind)] at hrefused
        cases hrefused

/-- The first import that is refused is the one that is named. -/
theorem check_eq_forbidden_iff (p : ImportPolicy) (all : List HostImport) (i : HostImport) :
    p.check all = .error (.forbidden i) ↔
      ∃ before after, all = before ++ i :: after ∧ (∀ j ∈ before, p.permits j = true) ∧
        p.permits i = false := by
  have hfound : p.check all = .error (.forbidden i) ↔
      (all.find? fun i => !p.permits i) = some i := by
    unfold check
    cases all.find? fun i => !p.permits i <;> simp
  rw [hfound, List.find?_eq_some_iff_append]
  constructor
  · rintro ⟨hrefused, before, after, rfl, hbefore⟩
    exact ⟨before, after, rfl, by simpa using hbefore, by simpa using hrefused⟩
  · rintro ⟨before, after, rfl, hbefore, hrefused⟩
    exact ⟨by simpa using hrefused, before, after, rfl, by simpa using hbefore⟩

theorem permits_of_recased (p : ImportPolicy) {i j : HostImport} (h : Recased i j) :
    p.permits i = p.permits j := by
  unfold permits
  rw [h.source, h.name]

theorem check_eq_ok_iff_of_recased {all' : List HostImport} (h : List.Forall₂ Recased all all') :
    p.check all' = .ok () ↔ p.check all = .ok () := by
  rw [check_eq_ok_iff, check_eq_ok_iff]
  induction h with
  | nil => rfl
  | cons hfirst _ ih => simp only [List.forall_mem_cons, ih, p.permits_of_recased hfirst]

/-- What the policy says of a module is what it says of all imports of its sections. -/
theorem checkBuilt_sections (p : ImportPolicy) {found : List (List HostImport)} {parts : List Bytes}
    (h : List.Forall₂ Section found parts) :
    p.checkBuilt (header ++ parts.flatten) = p.check found.flatten := by
  have hread := imports_eq_ok_iff.mpr ⟨found, parts, h, rfl, rfl⟩
  simp [checkBuilt, hread]

/-- **No import gets past the link check.** Of a module that is made of sections, however its sizes
and counts are padded, exactly the imports of all its sections are read, in order. The policy lets
it through if it lets each of them through, and else names the first that it refuses; what is left
of the module when it is cut off within a section is malformed. Writing names of imports in another
case, which is always possible in as many bytes, does not change whether the module is let through.
-/
theorem checkBuilt_exact (p : ImportPolicy) {found : List (List HostImport)} {parts : List Bytes}
    (h : List.Forall₂ Section found parts) :
    imports (header ++ parts.flatten) = .ok found.flatten ∧
      (p.checkBuilt (header ++ parts.flatten) = .ok () ↔
        ∀ i ∈ found.flatten, p.permits i = true) ∧
      (∀ i, p.checkBuilt (header ++ parts.flatten) = .error (.forbidden i) ↔
        ∃ before after, found.flatten = before ++ i :: after ∧
          (∀ j ∈ before, p.permits j = true) ∧ p.permits i = false) ∧
      (∀ cut, cut <+: parts.flatten → (∀ k, cut ≠ (parts.take k).flatten) →
        imports (header ++ cut) = .error .unreadable ∧
          p.checkBuilt (header ++ cut) = .error (.malformed .unreadable)) ∧
      ∀ found', List.Forall₂ (List.Forall₂ Recased) found found' →
        (∃ parts', List.Forall₂ Section found' parts' ∧
          parts'.map List.length = parts.map List.length) ∧
        ∀ parts', List.Forall₂ Section found' parts' →
          (p.checkBuilt (header ++ parts'.flatten) = .ok () ↔
            p.checkBuilt (header ++ parts.flatten) = .ok ()) := by
  refine ⟨imports_eq_ok_iff.mpr ⟨found, parts, h, rfl, rfl⟩, ?_, fun i => ?_,
    fun cut hcut hwithin => ?_, fun found' hrecased => ⟨?_, fun parts' h' => ?_⟩⟩
  · rw [p.checkBuilt_sections h, check_eq_ok_iff]
  · rw [p.checkBuilt_sections h, check_eq_forbidden_iff]
  · have hread := imports_of_cut h hcut hwithin
    exact ⟨hread, by simp [checkBuilt, hread]⟩
  · exact exists_sections_of_recased h hrecased
  · rw [p.checkBuilt_sections h', p.checkBuilt_sections h]
    exact check_eq_ok_iff_of_recased (List.rel_flatten hrecased)

/-- The second section of imports takes the time from the host, under a name in capitals and behind
padded numbers; a custom section stands between the two. -/
theorem checkBuilt_exact_of_time :
    let first : Bytes := [2, 0x8A, 0x00, 1, 3, 101, 110, 118, 2, 117, 112, 0, 0]
    let custom : Bytes := [0, 2, 1, 120]
    let second : Bytes :=
      [2, 0x8D, 0x80, 0x00, 0x81, 0x00, 3, 101, 110, 118, 4, 84, 73, 77, 69, 0, 0]
    let up : HostImport := ⟨"env", "up", .func⟩
    let time : HostImport := ⟨"env", "TIME", .func⟩
    imports (header ++ [first, custom, second].flatten) = .ok [up, time] ∧
      checkBuilt {} (header ++ [first, custom, second].flatten) = .error (.forbidden time) ∧
      imports (header ++ (first ++ custom ++ second.take 3)) = .error .unreadable := by
  intro first custom second up time
  have hfirst : Section [up] first :=
    ⟨2, [0x8A, 0x00], _, by decide, number_groups 1 10 (by decide) (by decide) (by decide),
      sectionImports_eq_some_iff.mp rfl, rfl⟩
  have hcustom : Section [] custom :=
    ⟨0, [2], _, by decide, number_groups 0 2 (by decide) (by decide) (by decide),
      sectionImports_eq_some_iff.mp rfl, rfl⟩
  have hsecond : Section [time] second :=
    ⟨2, [0x8D, 0x80, 0x00], _, by decide, number_groups 2 13 (by decide) (by decide) (by decide),
      sectionImports_eq_some_iff.mp rfl, rfl⟩
  have hpart : first ++ custom ++ second.take 3 <+: [first, custom, second].flatten := by decide
  obtain ⟨hread, -, hforbidden, hcut, -⟩ :=
    checkBuilt_exact {} (.cons hfirst (.cons hcustom (.cons hsecond .nil)))
  refine ⟨hread, (hforbidden time).mpr ⟨[up], [], rfl, by decide, by decide⟩, ?_⟩
  refine (hcut _ hpart fun k => ?_).1
  -- the cut is behind the second section and before the end of the third
  rcases k with _ | _ | _ | k <;> simp [first, custom, second]

end ImportPolicy

end Arcade.Wasm
