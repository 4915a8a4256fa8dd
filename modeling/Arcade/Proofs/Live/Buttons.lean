import Arcade.Live.Buttons
import Mathlib.Data.List.Basic
/-!
# Buttons on the wire

A set of buttons is known by which of the eight named buttons are in it (`eq_of_contains`). `namesIn` gives
the names in a text, between bars and without the white space around them: the text can be read exactly if all
of them are names of buttons, and it stands for the set of those that occur (`parse_eq_ok_iff`). Else the
fault says so of a blank text, and of any other which name is the first that is unknown
(`parse_eq_error_iff`).
-/

namespace Arcade.Live.Buttons

open Play (Action)

variable {a b s : Buttons} {e : String × Buttons} {name text : String} {fault : Fault}

/-! ### Sets by their buttons -/

/-- The names of the buttons. -/
def buttonNames : List String :=
  named.map Prod.fst

/-- The button at a position is the bit there. -/
theorem contains_get (a : Buttons) (i : Fin named.length) :
    a.contains (named.get i).2 = a.bits.toNat.testBit i := by
  have hall : ∀ bits : Fin 256, ∀ i : Fin named.length,
      contains ⟨UInt8.ofFin bits⟩ (named.get i).2 = (UInt8.ofFin bits).toNat.testBit i := by
    decide +kernel
  exact hall a.bits.toFin i

theorem contains_union (he : e ∈ named) :
    (a.union b).contains e.2 = (a.contains e.2 || b.contains e.2) := by
  obtain ⟨i, rfl⟩ := List.mem_iff_get.mp he
  simp only [contains_get, union, UInt8.toNat_or, Nat.testBit_or]

/-- Sets with the same buttons are the same. -/
theorem eq_of_contains (h : ∀ e ∈ named, a.contains e.2 = b.contains e.2) : a = b := by
  have hbits : a.bits.toNat = b.bits.toNat := by
    refine Nat.eq_of_testBit_eq fun i => ?_
    by_cases hi : i < named.length
    · have hbit := h _ (List.get_mem named ⟨i, hi⟩)
      rwa [contains_get, contains_get] at hbit
    · have hlarge : 2 ^ 8 ≤ 2 ^ i := Nat.pow_le_pow_right (by decide) (Nat.le_of_not_lt hi)
      rw [Nat.testBit_lt_two_pow (Nat.lt_of_lt_of_le a.bits.toNat_lt hlarge),
        Nat.testBit_lt_two_pow (Nat.lt_of_lt_of_le b.bits.toNat_lt hlarge)]
  exact congrArg Buttons.mk (UInt8.toNat_inj.mp hbits)

theorem not_contains_none (he : e ∈ named) : none.contains e.2 = false :=
  (by decide : ∀ e ∈ named, none.contains e.2 = false) e he

/-! ### Names -/

/-- A button has one name. -/
theorem contains_iff_of_named (hb : (name, b) ∈ named) (he : e ∈ named) :
    b.contains e.2 = true ↔ e.1 = name :=
  (by decide : ∀ d ∈ named, ∀ e ∈ named, d.2.contains e.2 = true ↔ e.1 = d.1) _ hb _ he

theorem ofName?_eq_some (he : e ∈ named) : ofName? e.1 = some e.2 :=
  (by decide : ∀ e ∈ named, ofName? e.1 = some e.2) e he

theorem named_of_ofName? (h : ofName? name = some b) : (name, b) ∈ named := by
  obtain ⟨e, hfound, rfl⟩ := Option.map_eq_some_iff.mp h
  have hname := List.find?_some hfound
  obtain rfl : e.1 = name := beq_iff_eq.mp hname
  exact List.mem_of_find?_eq_some hfound

theorem mem_buttonNames_of_ofName? (h : ofName? name = some b) : name ∈ buttonNames :=
  List.mem_map_of_mem (named_of_ofName? h)

theorem not_mem_buttonNames_of_ofName? (h : ofName? name = Option.none) : name ∉ buttonNames := by
  intro hmem
  obtain ⟨e, he, rfl⟩ := List.mem_map.mp hmem
  rw [ofName?_eq_some he] at h
  cases h

/-- No name has a bar or a blank in it. -/
theorem plain_of_mem_buttonNames (h : name ∈ buttonNames) :
    ∀ c ∈ name.toList, c ≠ '|' ∧ Text.isBlank c = false := by
  have hall : (buttonNames.all fun name =>
      name.toList.all fun c => c != '|' && !Text.isBlank c) = true := by decide +kernel
  intro c hc
  have hplain := List.all_eq_true.mp (List.all_eq_true.mp hall name h) c hc
  simpa using hplain

/-- The names of a set are those of its buttons. -/
theorem mem_names_iff (he : e ∈ named) : e.1 ∈ a.names ↔ a.contains e.2 = true := by
  constructor
  · intro h
    obtain ⟨d, hd, hname⟩ := List.mem_map.mp h
    obtain ⟨hnamed, hcontains⟩ := List.mem_filter.mp hd
    have hfound := ofName?_eq_some hnamed
    rw [hname, ofName?_eq_some he] at hfound
    rwa [Option.some.inj hfound]
  · exact fun h => List.mem_map_of_mem (List.mem_filter.mpr ⟨he, h⟩)

theorem names_subset : a.names ⊆ buttonNames :=
  List.map_subset _ (List.filter_subset_self named)

theorem names_ne_nil (h : a ≠ none) : a.names ≠ [] := by
  intro hnil
  refine h (eq_of_contains fun e he => ?_)
  rw [not_contains_none he, Bool.eq_false_iff]
  intro hcontains
  have hmem := (mem_names_iff he).mpr hcontains
  rw [hnil] at hmem
  cases hmem

/-! ### The names in a text -/

/-- A part of a text, without the white space around it. -/
def stripped (part : List Char) : String :=
  Text.trim (String.ofList part)

/-- What stands between the bars of a text. -/
def namesIn (text : String) : List String :=
  (text.toList.splitOn '|').map stripped

theorem parts_eq_splitOn (cs : List Char) : parts cs = cs.splitOn '|' := by
  induction cs with
  | nil => rfl
  | cons c rest ih =>
      obtain ⟨first, more, hparts⟩ := List.exists_cons_of_ne_nil (List.splitOn_ne_nil '|' rest)
      rw [parts, ih, hparts, List.splitOn_cons_eq_if_modifyHead, hparts]
      by_cases hc : c = '|' <;> simp [hc]

/-- There is one name in a blank text, and that is empty. -/
theorem namesIn_of_blank (h : Text.isBlankText text = true) : namesIn text = [""] := by
  have hbar : '|' ∉ text.toList := fun hmem =>
    absurd (List.all_eq_true.mp h _ hmem) (by decide)
  rw [namesIn, List.splitOn_eq_singleton hbar, List.map_singleton, stripped, String.ofList_toList,
    Text.trim_of_blank h]

/-- Names that are joined by bars are the names in the text. -/
theorem namesIn_intercalate {names : List String} (hnames : names ⊆ buttonNames) (hne : names ≠ []) :
    namesIn (String.intercalate "|" names) = names := by
  have hbars : ∀ part ∈ names.map String.toList, '|' ∉ part := by
    intro part hpart
    obtain ⟨name, hname, rfl⟩ := List.mem_map.mp hpart
    exact fun hbar => (plain_of_mem_buttonNames (hnames hname) _ hbar).1 rfl
  have hcut : (String.intercalate "|" names).toList.splitOn '|' = names.map String.toList := by
    rw [String.toList_intercalate]
    exact List.splitOn_intercalate '|' hbars (by simpa using hne)
  have hstripped : ∀ name ∈ names, (stripped ∘ String.toList) name = id name := by
    intro name hname
    have hplain : ∀ c ∈ name.toList, Text.isBlank c = false :=
      fun c hc => (plain_of_mem_buttonNames (hnames hname) c hc).2
    rw [Function.comp_apply, stripped, String.ofList_toList, Text.trim_of_not_blank hplain, id]
  rw [namesIn, hcut, List.map_map, List.map_congr_left hstripped, List.map_id]

/-! ### Reading -/

variable {unread : List (List Char)} {part : List Char}

theorem addParts_of_known (hname : ofName? (stripped part) = some b) :
    addParts (part :: unread) a = addParts unread (a.union b) := by
  rw [stripped, Text.trim, String.toList_ofList] at hname
  rw [addParts, hname]

theorem addParts_of_unknown (hname : ofName? (stripped part) = Option.none) :
    addParts (part :: unread) a = .error (.unknownName (stripped part)) := by
  rw [stripped, Text.trim, String.toList_ofList] at hname ⊢
  rw [addParts, hname]

/-- Parts that are all known add the buttons that occur among them, and nothing else. -/
theorem addParts_eq_ok_iff : addParts unread a = .ok s ↔
    (∀ name ∈ unread.map stripped, name ∈ buttonNames) ∧
      ∀ e ∈ named, (s.contains e.2 = true ↔ a.contains e.2 = true ∨ e.1 ∈ unread.map stripped) := by
  induction unread generalizing a with
  | nil =>
      rw [addParts, Except.ok.injEq]
      constructor
      · rintro rfl
        simp
      · rintro ⟨-, hsame⟩
        refine eq_of_contains fun e he => ?_
        rw [Bool.eq_iff_iff, hsame e he]
        simp
  | cons part rest ih =>
      rw [List.map_cons, List.forall_mem_cons]
      cases hname : ofName? (stripped part) with
      | none =>
          rw [addParts_of_unknown hname]
          exact iff_of_false nofun fun h => not_mem_buttonNames_of_ofName? hname h.1.1
      | some b =>
          rw [addParts_of_known hname, ih, and_iff_right (mem_buttonNames_of_ofName? hname)]
          refine and_congr_right fun _ => forall₂_congr fun e he => ?_
          rw [contains_union he, Bool.or_eq_true, contains_iff_of_named (named_of_ofName? hname) he,
            List.mem_cons, or_assoc]

/-- The first name that is unknown is the fault. -/
theorem addParts_eq_error_iff : addParts unread a = .error fault ↔
    ∃ name, (unread.map stripped).find? (fun name => name ∉ buttonNames) = some name ∧
      fault = .unknownName name := by
  induction unread generalizing a with
  | nil => simp [addParts]
  | cons part rest ih =>
      rw [List.map_cons, List.find?_cons]
      cases hname : ofName? (stripped part) with
      | none =>
          rw [addParts_of_unknown hname, decide_eq_true (not_mem_buttonNames_of_ofName? hname)]
          simp [eq_comm]
      | some b =>
          have hknown := mem_buttonNames_of_ofName? hname
          rw [addParts_of_known hname, ih, decide_eq_false (not_not_intro hknown)]

theorem parse_of_blank (h : Text.isBlankText text = true) : parse text = .error .empty := by
  rw [parse, if_pos h]

theorem parse_of_not_blank (h : Text.isBlankText text = false) :
    parse text = addParts (text.toList.splitOn '|') none := by
  rw [parse, h, if_neg Bool.false_ne_true, parts_eq_splitOn]

theorem empty_not_mem_buttonNames : "" ∉ buttonNames := by decide

theorem parse_eq_ok_iff : parse text = .ok s ↔
    (∀ name ∈ namesIn text, name ∈ buttonNames) ∧
      ∀ e ∈ named, (s.contains e.2 = true ↔ e.1 ∈ namesIn text) := by
  cases hblank : Text.isBlankText text with
  | true =>
      rw [parse_of_blank hblank, namesIn_of_blank hblank]
      exact iff_of_false nofun fun h => empty_not_mem_buttonNames (h.1 _ List.mem_cons_self)
  | false =>
      rw [parse_of_not_blank hblank, addParts_eq_ok_iff]
      refine and_congr_right fun _ => forall₂_congr fun e he => ?_
      rw [not_contains_none he, Bool.false_eq_true, false_or]
      rfl

theorem parse_eq_error_iff : parse text = .error fault ↔
    Text.isBlankText text = true ∧ fault = .empty ∨
      Text.isBlankText text = false ∧ ∃ name,
        (namesIn text).find? (fun name => name ∉ buttonNames) = some name ∧
          fault = .unknownName name := by
  cases hblank : Text.isBlankText text with
  | true =>
      rw [parse_of_blank hblank, Except.error.injEq, eq_comm]
      simp
  | false =>
      rw [parse_of_not_blank hblank, addParts_eq_error_iff]
      simp [namesIn]

/-- A text can be read exactly if all names in it are known. -/
theorem exists_parse_eq_ok_iff :
    (∃ s, parse text = .ok s) ↔ ∀ name ∈ namesIn text, name ∈ buttonNames := by
  constructor
  · rintro ⟨s, hs⟩
    exact (parse_eq_ok_iff.mp hs).1
  · intro hknown
    cases hparse : parse text with
    | ok s => exact ⟨s, rfl⟩
    | error fault =>
        rcases parse_eq_error_iff.mp hparse with ⟨hblank, -⟩ | ⟨-, name, hname, -⟩
        · rw [namesIn_of_blank hblank] at hknown
          exact absurd (hknown _ List.mem_cons_self) empty_not_mem_buttonNames
        · have hunknown := List.find?_some hname
          exact absurd (hknown name (List.mem_of_find?_eq_some hname)) (of_decide_eq_true hunknown)

/-- The name of a button can be read. -/
theorem exists_parse_of_mem_buttonNames (h : name ∈ buttonNames) : ∃ s, parse name = .ok s := by
  have hnames : namesIn (String.intercalate "|" [name]) = [name] :=
    namesIn_intercalate (List.cons_subset.mpr ⟨h, List.nil_subset _⟩) (List.cons_ne_nil name [])
  rw [String.intercalate_singleton] at hnames
  rw [exists_parse_eq_ok_iff, hnames]
  exact List.forall_mem_singleton.mpr h

/-- The names of a set, joined by bars, stand for that set. -/
theorem parse_names (h : a ≠ none) : parse (String.intercalate "|" a.names) = .ok a := by
  rw [parse_eq_ok_iff, namesIn_intercalate names_subset (names_ne_nil h)]
  exact ⟨fun name hname => names_subset hname, fun e he => (mem_names_iff he).symm⟩

/-! ### Actions -/

/-- An integer in the range of a byte is read as the buttons of its bits. -/
theorem decode_nat {n : Nat} (h : n ≤ 255) : decode (.nat n) = .ok ⟨UInt8.ofNat n⟩ := by
  have hrange : Words.minInt64 ≤ (n : Int) ∧ (n : Int) ≤ Words.maxInt64 := by
    unfold Words.minInt64 Words.maxInt64
    omega
  have hbyte : (0 : Int) ≤ n ∧ (n : Int) ≤ 255 := by omega
  simp only [decode, Json.nat, Number.asInt64?, if_pos hrange, if_pos hbyte, Int.toNat_natCast]

/-- Any other integer is a fault. -/
theorem decode_int_of_not_byte {k : Int} (h : ¬(0 ≤ k ∧ k ≤ 255)) :
    decode (.num (.int k)) ≠ .ok s := by
  simp only [decode, Number.asInt64?]
  split
  next hrange =>
    rw [Option.ite_none_right_eq_some] at hrange
    obtain rfl := Option.some.inj hrange.2
    rw [if_neg h]
    exact nofun
  next => exact nofun

/-- Of the values that are no texts just the integers of a byte can be read. -/
theorem decode_eq_ok_iff {j : Json} (htext : ∀ t, j ≠ .str t) :
    decode j = .ok s ↔ ∃ n : Nat, n ≤ 255 ∧ j = .nat n ∧ s.bits.toNat = n := by
  cases j with
  | str t => exact absurd rfl (htext t)
  | num x =>
      cases x with
      | real x => simp [decode, Number.asInt64?, Json.nat]
      | int k =>
          by_cases hbyte : 0 ≤ k ∧ k ≤ 255
          · obtain ⟨n, rfl⟩ := Int.eq_ofNat_of_zero_le hbyte.1
            have hn : n ≤ 255 := by omega
            have hread : decode (.num (.int n)) = .ok ⟨UInt8.ofNat n⟩ := decode_nat hn
            rw [hread, Except.ok.injEq]
            constructor
            · rintro rfl
              exact ⟨n, hn, rfl, UInt8.toNat_ofNat_of_lt' (Nat.lt_succ_of_le hn)⟩
            · rintro ⟨m, -, hm, hs⟩
              obtain rfl := Int.ofNat.inj (Number.int.inj (Json.num.inj hm))
              rw [← hs, UInt8.ofNat_toNat]
          · refine iff_of_false (decode_int_of_not_byte hbyte) ?_
            rintro ⟨n, hn, hk, -⟩
            have hkn : k = n := Number.int.inj (Json.num.inj hk)
            exact hbyte (by omega)
  | null | bool | arr | obj => simp [decode, Json.nat]

theorem ofAction_of_field {action : Action} {j : Json} (h : action.field? inputField = some j) :
    ofAction action = decode j := by
  rw [ofAction, h]

theorem ofAction_of_no_field {action : Action} (h : action.field? inputField = Option.none) :
    ofAction action = parse action.kind := by
  rw [ofAction, h]

/-- **Inputs are read exactly.** A text can be read if and only if what stands between its bars, white space
around it aside, are names of buttons; it stands for the buttons whose names occur, wherever and however often.
Else the fault is that it is blank or, where it is not, the first name that is unknown. The names of any set but
the empty one, joined by bars, are read as that set. An action presses what the text in its payload stands for,
or its kind if there is no input in the payload, or else the buttons of an integer, from 0 to 255. -/
theorem inputs_are_read_exactly (text : String) (action : Action) :
    ((∃ s, parse text = .ok s) ↔ ∀ name ∈ namesIn text, name ∈ buttonNames) ∧
    (∀ s, parse text = .ok s ↔ (∀ name ∈ namesIn text, name ∈ buttonNames) ∧
      ∀ e ∈ named, (s.contains e.2 = true ↔ e.1 ∈ namesIn text)) ∧
    (∀ fault, parse text = .error fault ↔
      Text.isBlankText text = true ∧ fault = .empty ∨
        Text.isBlankText text = false ∧ ∃ name,
          (namesIn text).find? (fun name => name ∉ buttonNames) = some name ∧
            fault = .unknownName name) ∧
    (∀ a : Buttons, a ≠ none → parse (String.intercalate "|" a.names) = .ok a) ∧
    (action.field? inputField = some (.str text) ∨
        action.field? inputField = Option.none ∧ action.kind = text →
      ofAction action = parse text) ∧
    ∀ j, action.field? inputField = some j → (∀ t, j ≠ .str t) → ∀ s,
      (ofAction action = .ok s ↔ ∃ n : Nat, n ≤ 255 ∧ j = .nat n ∧ s.bits.toNat = n) := by
  refine ⟨exists_parse_eq_ok_iff, fun s => parse_eq_ok_iff, fun fault => parse_eq_error_iff,
    fun a h => parse_names h, ?_, fun j hfield htext s => ?_⟩
  · rintro (hfield | ⟨hfield, rfl⟩)
    · rw [ofAction_of_field hfield, decode]
    · rw [ofAction_of_no_field hfield]
  · rw [ofAction_of_field hfield, decode_eq_ok_iff htext]

/-- Two buttons, one of them twice and with blanks around it, in a payload; the same as an integer there; and
their set. -/
theorem inputs_are_read_exactly_of_jump :
    let text := "jump|\u00a0move_left |jump"
    let joined : Action := { kind := "idle", payload := [("input", .str text)] }
    let number : Action := { kind := "idle", payload := [("input", .nat 65)] }
    ofAction joined = .ok ⟨65⟩ ∧ ofAction number = .ok ⟨65⟩ ∧
      parse (String.intercalate "|" (names ⟨65⟩)) = .ok ⟨65⟩ := by
  intro text joined number
  obtain ⟨-, hparse, -, hset, hcarried, -⟩ := inputs_are_read_exactly text joined
  obtain ⟨-, -, -, -, -, hother⟩ := inputs_are_read_exactly text number
  refine ⟨?_, ?_, hset ⟨65⟩ (by decide)⟩
  · rw [hcarried (Or.inl rfl)]
    exact (hparse ⟨65⟩).mpr (by decide +kernel)
  · exact (hother (.nat 65) rfl nofun ⟨65⟩).mpr ⟨65, by decide, rfl, rfl⟩

end Arcade.Live.Buttons
