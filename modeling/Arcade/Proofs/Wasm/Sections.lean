import Arcade.Proofs.Wasm.Format
import Mathlib.Data.List.Forall2
/-!
# The walk over the sections

A module is its header and then sections, each in its frame: a number, the size of the content, the
content. What the content of a section has to be goes by the number (`Content`); only sections of
imports give imports, and there may be any number of those.

`imports_eq_ok_iff` says that the walk reads the imports of exactly those modules that are made of
such sections, however the sizes and the counts in them are padded, and gives the imports of all of
them in order. Since no bytes begin with two sections, a module that is cut off within one is not
readable (`imports_of_cut`).
-/

namespace Arcade.Wasm

open Layout

/-- The body of a function: any bytes behind their number. -/
def Body (w : Bytes) : Prop :=
  ∃ size code, Number 32 code.length size ∧ w = size ++ code

/-- What stands in a section of some number, and the imports it gives. -/
inductive Content : UInt8 → List HostImport → Bytes → Prop
  | custom {s : String} {w data : Bytes} (hname : Name s w) : Content 0 [] (w ++ data)
  | imports {found : List HostImport} {w : Bytes} (hentries : Vector Entry found w) :
      Content importSectionId found w
  | single {id : UInt8} {n : Nat} {w : Bytes} (hid : id = 8 ∨ id = 12) (hnumber : Number 32 n w) :
      Content id [] w
  | code {bodies : List Unit} {w : Bytes} (hbodies : Vector (fun _ => Body) bodies w) :
      Content 10 [] w
  | counted {id : UInt8} {n : Nat} {w entries : Bytes} (hid : isCounted id = true)
      (hcount : Number 32 n w) : Content id [] (w ++ entries)
  | unknown {id : UInt8} {w : Bytes} (hid : 13 < id) : Content id [] w

/-- A section with the imports it gives: a number, and the content behind its size. -/
def Section (found : List HostImport) (w : Bytes) : Prop :=
  ∃ id size content, id < 0x80 ∧ Number 32 content.length size ∧ Content id found content ∧
    w = id :: (size ++ content)

theorem readBy_functionBody : ReadBy (fun _ : Unit => Body) functionBody := by
  have hread := (readBy_number 32).bind fun size =>
    (readBy_splitAt? size).bind fun _ => readBy_option (some ())
  refine (hread.congr fun u w => ?_).of_eq fun b => ?_
  · constructor
    · rintro ⟨size, code, hsize, rfl⟩
      exact ⟨_, size, _, hsize,
        ⟨code, _, [], ⟨rfl, rfl⟩, ⟨rfl, rfl⟩, (List.append_nil _).symm⟩, rfl⟩
    · rintro ⟨_, size, _, hsize, ⟨code, _, _, ⟨rfl, rfl⟩, ⟨-, rfl⟩, rfl⟩, rfl⟩
      exact ⟨size, _, hsize, by rw [List.append_nil]⟩
  · simp [functionBody, var32]

/-- The numbers up to thirteen are all known. -/
theorem isCounted_iff {id : UInt8} : isCounted id = true ↔
    id ≤ 13 ∧ id ≠ importSectionId ∧ id ≠ 0 ∧ id ≠ 8 ∧ id ≠ 12 ∧ id ≠ 10 := by
  simp only [isCounted, importSectionId, Bool.or_eq_true, beq_iff_eq, ne_eq, ← UInt8.toNat_inj,
    UInt8.le_iff_toNat_le, UInt8.reduceToNat]
  omega

/-- The number of a section is that of imports, or it decides that there are none. -/
theorem sectionImports_eq_some_iff {id : UInt8} {found : List HostImport} {content : Bytes} :
    sectionImports id content = some found ↔ Content id found content := by
  constructor
  · intro h
    unfold sectionImports at h
    split at h
    next hid =>
      obtain rfl := beq_iff_eq.mp hid
      exact .imports ((whole_eq_some_iff (readBy_vector readBy_importEntry)).mp h)
    split at h
    next hid =>
      obtain rfl := beq_iff_eq.mp hid
      obtain ⟨⟨s, data⟩, hread, rfl⟩ := Option.map_eq_some_iff.mp h
      obtain ⟨w, hw, rfl⟩ := (readBy_name _ _ _).mp hread
      exact .custom hw
    split at h
    next hid =>
      obtain ⟨n, hread, rfl⟩ := Option.map_eq_some_iff.mp h
      exact .single (by simpa using hid) ((whole_eq_some_iff (readBy_number 32)).mp hread)
    split at h
    next hid =>
      obtain rfl := beq_iff_eq.mp hid
      obtain ⟨bodies, hread, rfl⟩ := Option.map_eq_some_iff.mp h
      exact .code ((whole_eq_some_iff (readBy_vector readBy_functionBody)).mp hread)
    split at h
    next hid =>
      obtain ⟨⟨n, entries⟩, hread, rfl⟩ := Option.map_eq_some_iff.mp h
      obtain ⟨w, hw, rfl⟩ := (readBy_number 32 _ _ _).mp hread
      exact .counted hid hw
    next himports hcustom hsingle hcode hcounted =>
      cases h
      refine .unknown (UInt8.not_le.mp fun hknown => hcounted (isCounted_iff.mpr ?_))
      simp_all
  · intro h
    cases h with
    | custom hname =>
        have hread := readBy_name.append hname
        simp [sectionImports, importSectionId, hread]
    | imports hentries =>
        exact (whole_eq_some_iff (readBy_vector readBy_importEntry)).mpr hentries
    | single hid hnumber =>
        have hread : whole var32 content = some _ :=
          (whole_eq_some_iff (readBy_number 32)).mpr hnumber
        rcases hid with rfl | rfl <;> simp [sectionImports, importSectionId, hread]
    | code hbodies =>
        have hread := (whole_eq_some_iff (readBy_vector readBy_functionBody)).mpr hbodies
        simp [sectionImports, importSectionId, hread]
    | counted hid hcount =>
        have hread := (readBy_number 32).append hcount
        obtain ⟨-, himports, hcustom, hstart, hdata, hcode⟩ := isCounted_iff.mp hid
        simp [sectionImports, himports, hcustom, hstart, hdata, hcode, hid, var32, hread]
    | unknown hid =>
        have hcounted : isCounted id = false := by
          rw [Bool.eq_false_iff, ne_eq, isCounted_iff]
          exact fun hknown => UInt8.not_le.mpr hid hknown.1
        have hne : ∀ known ≤ 13, id ≠ known := by
          rintro known hknown rfl
          exact absurd hid (UInt8.not_lt.mpr hknown)
        simp [sectionImports, importSectionId, hne, hcounted]

/-- One section, off the front of some bytes. -/
def readSection : Reader (List HostImport) := fun b =>
  (byte b).bind fun id =>
    if ¬ id.1 < 0x80 then none
    else (varNat 32 id.2).bind fun size => (size.2.splitAt? size.1).bind fun content =>
      (sectionImports id.1 content.1).bind fun found => some (found, content.2)

theorem readBy_readSection : ReadBy Section readSection := by
  have hread := readBy_byte.bind fun id =>
    ((readBy_number 32).bind fun size => (readBy_splitAt? size).bind fun content =>
      readBy_option (sectionImports id content)).guard (¬ id < 0x80)
  refine (hread.congr fun found w => ?_).of_eq fun b => rfl
  simp only [sectionImports_eq_some_iff]
  constructor
  · rintro ⟨id, size, content, hid, hsize, hcontent, rfl⟩
    exact ⟨id, [id], _, rfl, ⟨not_not_intro hid, _, size, _, hsize,
      ⟨content, _, [], ⟨rfl, rfl⟩, ⟨hcontent, rfl⟩, (List.append_nil _).symm⟩, rfl⟩, rfl⟩
  · rintro ⟨id, _, _, rfl, ⟨hid, _, size, _, hsize,
      ⟨content, _, _, ⟨rfl, rfl⟩, ⟨hcontent, rfl⟩, rfl⟩, rfl⟩, rfl⟩
    exact ⟨id, size, _, Decidable.not_not.mp hid, hsize, hcontent, by simp⟩

theorem length_of_section {found : List HostImport} {part : Bytes} (h : Section found part) :
    0 < part.length := by
  obtain ⟨id, size, content, -, -, -, rfl⟩ := h
  exact Nat.succ_pos _

@[simp] theorem sections_nil (fuel : Nat) : sections fuel [] = some [] := by
  cases fuel <;> rfl

/-- The walk takes one section after the other. -/
theorem sections_succ (fuel : Nat) {b : Bytes} (hb : b ≠ []) :
    sections (fuel + 1) b = (readSection b).bind fun found =>
      (sections fuel found.2).map (found.1 ++ ·) := by
  cases b with
  | nil => exact absurd rfl hb
  | cons id b =>
      have hjoin (found : List HostImport) (more : Option (List HostImport)) :
          more.map (found ++ ·) = more.bind fun more => some (found ++ more) :=
        Option.map_eq_bind
      by_cases hid : id < 0x80 <;>
        simp [sections, -UInt8.not_lt, readSection, hid, var32, hjoin, Option.bind_assoc]

/-- What is made of sections is read to the end: every section takes some of the fuel's bytes. -/
theorem sections_flatten {found : List (List HostImport)} {parts : List Bytes}
    (h : List.Forall₂ Section found parts) {fuel : Nat} (hfuel : parts.flatten.length ≤ fuel) :
    sections fuel parts.flatten = some found.flatten := by
  induction h generalizing fuel with
  | nil => simp
  | @cons first part found parts hfirst hrest ih =>
      have hpart := length_of_section hfirst
      rw [List.flatten_cons, List.length_append] at hfuel
      obtain ⟨fuel, rfl⟩ : ∃ n, fuel = n + 1 := ⟨fuel - 1, by omega⟩
      have hne : part ++ parts.flatten ≠ [] :=
        List.append_ne_nil_of_left_ne_nil (List.ne_nil_of_length_pos hpart) _
      rw [List.flatten_cons, sections_succ fuel hne, readBy_readSection.append hfirst]
      simp [ih (show parts.flatten.length ≤ fuel by omega)]

/-- What is read to the end is made of sections. -/
theorem exists_of_sections {fuel : Nat} {b : Bytes} {all : List HostImport}
    (h : sections fuel b = some all) : ∃ found parts,
      List.Forall₂ Section found parts ∧ b = parts.flatten ∧ all = found.flatten := by
  induction fuel generalizing b all with
  | zero =>
      cases b with
      | nil =>
          obtain rfl := Option.some.inj h
          exact ⟨[], [], .nil, rfl, rfl⟩
      | cons id b => cases h
  | succ fuel ih =>
      cases b with
      | nil =>
          obtain rfl := Option.some.inj h
          exact ⟨[], [], .nil, rfl, rfl⟩
      | cons id b =>
          rw [sections_succ fuel (List.cons_ne_nil id b)] at h
          obtain ⟨⟨first, rest⟩, hread, hrest⟩ := Option.bind_eq_some_iff.mp h
          obtain ⟨more, hmore, rfl⟩ := Option.map_eq_some_iff.mp hrest
          obtain ⟨part, hfirst, hb⟩ := (readBy_readSection _ _ _).mp hread
          obtain ⟨found, parts, hparts, rfl, rfl⟩ := ih hmore
          exact ⟨first :: found, part :: parts, .cons hfirst hparts, hb, rfl⟩

/-! ### Modules -/

@[simp] theorem isWasm_header_append (body : Bytes) : isWasm (header ++ body) = true :=
  List.isPrefixOf_iff_prefix.mpr (List.prefix_append _ _)

theorem imports_of_some {body : Bytes} {all : List HostImport}
    (h : sections body.length body = some all) : imports (header ++ body) = .ok all := by
  simp [imports, h]

theorem imports_of_none {body : Bytes} (h : sections body.length body = none) :
    imports (header ++ body) = .error .unreadable := by
  simp [imports, h]

/-- A module is read exactly if it is a header and sections, and gives the imports of all of them in
order. -/
theorem imports_eq_ok_iff {b : Bytes} {all : List HostImport} : imports b = .ok all ↔
    ∃ found parts, List.Forall₂ Section found parts ∧ b = header ++ parts.flatten ∧
      all = found.flatten := by
  constructor
  · intro h
    by_cases hheader : isWasm b = true
    · obtain ⟨body, rfl⟩ := List.isPrefixOf_iff_prefix.mp hheader
      cases hread : sections body.length body with
      | none =>
          rw [imports_of_none hread] at h
          cases h
      | some all' =>
          rw [imports_of_some hread] at h
          obtain rfl := Except.ok.inj h
          obtain ⟨found, parts, hparts, rfl, rfl⟩ := exists_of_sections hread
          exact ⟨found, parts, hparts, rfl, rfl⟩
    · rw [imports, if_neg hheader] at h
      cases h
  · rintro ⟨found, parts, hparts, rfl, rfl⟩
    exact imports_of_some (sections_flatten hparts (Nat.le_refl _))

/-- What is cut off somewhere in a row of sections, but not at the end of one of them, is no row of
sections. -/
theorem not_sections_of_cut {found : List (List HostImport)} {parts : List Bytes} {cut : Bytes}
    (h : List.Forall₂ Section found parts) (hcut : cut <+: parts.flatten)
    (hwithin : ∀ k, cut ≠ (parts.take k).flatten) {found' : List (List HostImport)}
    {parts' : List Bytes} (h' : List.Forall₂ Section found' parts') : cut ≠ parts'.flatten := by
  induction h generalizing cut found' parts' with
  | nil =>
      obtain rfl := List.prefix_nil.mp hcut
      exact absurd rfl (hwithin 0)
  | @cons first part found parts hfirst hrest ih =>
      rintro rfl
      cases h' with
      | nil => exact absurd rfl (hwithin 0)
      | @cons first' part' found' parts' hfirst' hrest' =>
          obtain ⟨tail, heq⟩ := hcut
          simp only [List.flatten_cons, List.append_assoc] at heq
          -- both begin with a section, so with the same one, and differ behind it
          obtain ⟨-, rfl, hbehind⟩ := readBy_readSection.unique hfirst' hfirst heq
          refine ih ⟨tail, hbehind⟩ (fun k hk => hwithin (k + 1) ?_) hrest' rfl
          rw [List.take_succ_cons, List.flatten_cons, List.flatten_cons, hk]

/-- A module that is cut off within a section cannot be read. -/
theorem imports_of_cut {found : List (List HostImport)} {parts : List Bytes} {cut : Bytes}
    (h : List.Forall₂ Section found parts) (hcut : cut <+: parts.flatten)
    (hwithin : ∀ k, cut ≠ (parts.take k).flatten) :
    imports (header ++ cut) = .error .unreadable := by
  refine imports_of_none ?_
  cases hread : sections cut.length cut with
  | none => rfl
  | some all =>
      obtain ⟨found', parts', h', rfl, -⟩ := exists_of_sections hread
      exact absurd rfl (not_sections_of_cut h hcut hwithin h')

end Arcade.Wasm
