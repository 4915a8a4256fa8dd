/-!
# White space

The characters with the Unicode property `White_Space`, and trimming by them. Every reader of
free text in this library (numbers and flags of the settings, hash strings, button names) trims
by this class and by no other.

* `isBlank` lists the class;
* `trimStart`, `trim` cut blank ends off a list of characters or a text.
-/

namespace Arcade.Text

/-- Whether a character has the Unicode property `White_Space`. -/
def isBlank (c : Char) : Bool :=
  let n := c.toNat
  (9 ≤ n && n ≤ 13) || n == 0x20 || n == 0x85 || n == 0xA0 || n == 0x1680
    || (0x2000 ≤ n && n ≤ 0x200A) || n == 0x2028 || n == 0x2029 || n == 0x202F
    || n == 0x205F || n == 0x3000

/-- The characters from the first one that is not blank. -/
def trimStart (cs : List Char) : List Char :=
  cs.dropWhile isBlank

/-- The characters up to the last one that is not blank. -/
def trimEnd (cs : List Char) : List Char :=
  (cs.reverse.dropWhile isBlank).reverse

/-- A text without the white space around it. -/
def trim (s : String) : String :=
  String.ofList (trimEnd (trimStart s.toList))

/-- Whether a text holds nothing but white space. -/
def isBlankText (s : String) : Bool :=
  s.toList.all isBlank

/-! ### What trimming leaves -/

@[simp] theorem trimStart_nil : trimStart [] = [] := rfl

theorem trimStart_cons_of_blank {c : Char} {cs : List Char} (h : isBlank c = true) :
    trimStart (c :: cs) = trimStart cs := by
  simp [trimStart, h]

theorem trimStart_cons_of_not_blank {c : Char} {cs : List Char} (h : isBlank c = false) :
    trimStart (c :: cs) = c :: cs := by
  simp [trimStart, h]

/-- Trimming the front leaves nothing exactly when everything is blank. -/
theorem trimStart_eq_nil_iff {cs : List Char} : trimStart cs = [] ↔ cs.all isBlank = true := by
  induction cs with
  | nil => simp
  | cons c cs ih =>
    cases h : isBlank c with
    | true => simp [trimStart_cons_of_blank h, ih, h]
    | false => simp [trimStart_cons_of_not_blank h, h]

/-- A list of characters without blank ones stays as it is. -/
theorem trimStart_of_not_blank {cs : List Char} (h : ∀ c ∈ cs, isBlank c = false) :
    trimStart cs = cs := by
  cases cs with
  | nil => rfl
  | cons c rest => exact trimStart_cons_of_not_blank (h c List.mem_cons_self)

/-- A text without blank characters stays as it is. -/
theorem trim_of_not_blank {s : String} (h : ∀ c ∈ s.toList, isBlank c = false) : trim s = s := by
  have hreversed : trimStart s.toList.reverse = s.toList.reverse :=
    trimStart_of_not_blank fun c hc => h c (List.mem_reverse.mp hc)
  have hend : trimEnd s.toList = s.toList := by
    rw [trimEnd, ← trimStart, hreversed, List.reverse_reverse]
  rw [trim, trimStart_of_not_blank h, hend, String.ofList_toList]

/-- Of a blank text nothing is left. -/
theorem trim_of_blank {s : String} (h : isBlankText s = true) : trim s = "" := by
  rw [trim, trimStart_eq_nil_iff.mpr h]
  rfl

end Arcade.Text
