import Arcade.Json.Basic
/-!
# Reading documents as far as they go

A text may stop being a document at some point, and what was read before that point can already
be wrong in another way. To tell which fault comes first, reading a text never fails: it gives a
`Reading`, the tree of what could be read, with a mark where it broke off. A decoder walks the
tree from left to right and reports the first fault it meets, a wrong shape or the mark.

* `Reading.ofJson` shows a value as a reading without faults, so one decoder serves both;
* `read` reads a text, `Document` also tells whether anything followed the value;
* `toJson?` is the value of a reading without faults.

Nesting is limited to `maxDepth`. What lies deeper has no value, but is read on, for it may belong
to a field that nobody asks for.
-/

namespace Arcade.Json

/-- How a list or an object ends. -/
inductive Ending where
  /-- with its closing bracket -/
  | closed
  /-- nowhere: the text breaks off or goes on with something else -/
  | broken
  /-- at a field whose name is no text for want of half a character; the flag tells whether the text
  goes on to the closing bracket nevertheless -/
  | misnamed (whole : Bool)
  deriving DecidableEq, Repr

/-- What can be read of a value. -/
inductive Reading where
  | null
  | bool (b : Bool)
  | num (n : Number)
  | str (s : String)
  | arr (items : List Reading) (ending : Ending)
  | obj (fields : List (String × Reading)) (ending : Ending)
  /-- nothing more can be read from here on -/
  | broken
  /-- a token of the right form that has no value: a number too large, half a character -/
  | refused
  /-- a list or an object that is nested too deep to have a value -/
  | tooDeep (r : Reading)

instance : Inhabited Reading := ⟨.null⟩

/-- The deepest nesting of lists and objects that has a value. -/
def maxDepth : Nat := 127

mutual

/-- A value as a reading. -/
def Reading.ofJson : Json → Reading
  | .null => .null
  | .bool b => .bool b
  | .num n => .num n
  | .str s => .str s
  | .arr items => .arr (Reading.ofItems items) .closed
  | .obj fields => .obj (Reading.ofFields fields) .closed

/-- The items of a list as readings. -/
def Reading.ofItems : List Json → List Reading
  | [] => []
  | j :: rest => Reading.ofJson j :: Reading.ofItems rest

/-- The fields of an object as readings. -/
def Reading.ofFields : List (String × Json) → List (String × Reading)
  | [] => []
  | (k, j) :: rest => (k, Reading.ofJson j) :: Reading.ofFields rest

end

mutual

/-- The value of a reading that has no fault. Of two fields with one name the later counts. -/
def Reading.toJson? : Reading → Option Json
  | .null => some .null
  | .bool b => some (.bool b)
  | .num n => some (.num n)
  | .str s => some (.str s)
  | .arr items ending =>
    match Reading.toItems? items, ending with
    | some js, .closed => some (.arr js)
    | _, _ => none
  | .obj fields ending =>
    match Reading.toFields? fields, ending with
    | some fs, .closed => some (.obj (Dict.ofList fs))
    | _, _ => none
  | .broken => none
  | .refused => none
  | .tooDeep _ => none

/-- The values of the items, if all have one. -/
def Reading.toItems? : List Reading → Option (List Json)
  | [] => some []
  | r :: rest =>
    match r.toJson?, Reading.toItems? rest with
    | some j, some js => some (j :: js)
    | _, _ => none

/-- The values of the fields, if all have one. -/
def Reading.toFields? : List (String × Reading) → Option (List (String × Json))
  | [] => some []
  | (k, r) :: rest =>
    match r.toJson?, Reading.toFields? rest with
    | some j, some fs => some ((k, j) :: fs)
    | _, _ => none

end

/-- Whether there is a closing bracket. -/
def Ending.isWhole : Ending → Bool
  | .closed => true
  | .broken => false
  | .misnamed whole => whole

mutual

/-- Whether the text could be read to the end of this value, whatever the value is. -/
def Reading.isWhole : Reading → Bool
  | .arr items ending => Reading.areWhole items && ending.isWhole
  | .obj fields ending => Reading.fieldsAreWhole fields && ending.isWhole
  | .tooDeep r => r.isWhole
  | .broken => false
  | _ => true

/-- `isWhole` for every item. -/
def Reading.areWhole : List Reading → Bool
  | [] => true
  | r :: rest => r.isWhole && Reading.areWhole rest

/-- `isWhole` for every field. -/
def Reading.fieldsAreWhole : List (String × Reading) → Bool
  | [] => true
  | (_, r) :: rest => r.isWhole && Reading.fieldsAreWhole rest

end

/-! ### Numbers

Digits are gathered into a word of 64 bits as long as they fit. Later digits of an integer only
raise the exponent, later decimal places are dropped. The word is then scaled by a power of ten in
double arithmetic, step by step for small exponents. -/

/-- A token and the text after it. `none` in the first place is a token without a value. -/
abbrev Token (α : Type) := Option (Option α × List Char)

/-- The digit's value. -/
def digitValue? (c : Char) : Option Nat :=
  if '0' ≤ c ∧ c ≤ '9' then some (c.toNat - 48) else none

/-- Digits gathered while the word has room: the word, how many were taken, and the rest, which may
go on with digits that did not fit. -/
def takeDigits (word count : Nat) : List Char → Nat × Nat × List Char
  | [] => (word, count, [])
  | c :: rest =>
    match digitValue? c with
    | none => (word, count, c :: rest)
    | some d =>
      if word * 10 + d ≤ Words.max64 then takeDigits (word * 10 + d) (count + 1) rest
      else (word, count, c :: rest)

/-- The number of leading digits, and what follows them. -/
def skipDigits : List Char → Nat × List Char
  | [] => (0, [])
  | c :: rest =>
    match digitValue? c with
    | none => (0, c :: rest)
    | some _ =>
      let (n, after) := skipDigits rest
      (n + 1, after)

/-- The power of ten, a double. -/
def powerOfTen (n : Nat) : Float :=
  Float.ofScientific 1 false n

/-- Divides by `10 ^ 308` until the remaining exponent is that of a double. The counter bounds the
divisions: a double is zero after three of them. -/
def scaleDown : Nat → Float → Nat → Float
  | 0, f, _ => f
  | fuel + 1, f, n =>
    if n ≤ 308 then f / powerOfTen n
    else if f == 0.0 then f
    else scaleDown fuel (f / powerOfTen 308) (n - 308)

/-- A word times a power of ten. There is no value where that is infinite. -/
def scale? (negative : Bool) (word : Nat) (exponent : Int) : Option Float :=
  let f := (UInt64.ofNat word).toFloat
  let signed (x : Float) : Float := if negative then -x else x
  if exponent < 0 then some (signed (scaleDown 5 f (-exponent).toNat))
  else if 308 < exponent then if f == 0.0 then some (signed f) else none
  else
    let x := f * powerOfTen exponent.toNat
    if x.isInf then none else some (signed x)

/-- The digits of an exponent, up to what a 32-bit word holds; `none` in the first place is more
than that. -/
def exponentDigits (word : Nat) : List Char → Option Nat × List Char
  | [] => (some word, [])
  | c :: rest =>
    match digitValue? c with
    | none => (some word, c :: rest)
    | some d =>
      if ((word * 10 + d : Nat) : Int) ≤ Words.maxInt32 then exponentDigits (word * 10 + d) rest
      else (none, (skipDigits (c :: rest)).2)

/-- What follows the `e` of a number with the given word and exponent so far. -/
def readExponent (negative : Bool) (word : Nat) (start : Int) (cs : List Char) : Token Number :=
  let (down, digits) :=
    match cs with
    | '+' :: rest => (false, rest)
    | '-' :: rest => (true, rest)
    | _ => (false, cs)
  match digits with
  | [] => none
  | c :: rest =>
    match digitValue? c with
    | none => none
    | some d =>
      match exponentDigits d rest with
      | (some e, after) =>
        let exponent := if down then start - e else start + e
        some ((scale? negative word exponent).map .real, after)
      | (none, after) =>
        if word ≠ 0 ∧ ¬ down then some (none, after)
        else some (some (.real (if negative then -0.0 else 0.0)), after)

/-- The end of a number whose digits are all gathered: an exponent may follow. -/
def readScale (negative : Bool) (word : Nat) (exponent : Int) (cs : List Char) : Token Number :=
  match cs with
  | 'e' :: rest => readExponent negative word exponent rest
  | 'E' :: rest => readExponent negative word exponent rest
  | _ => some ((scale? negative word exponent).map .real, cs)

/-- What follows the point of a number. -/
def readPlaces (negative : Bool) (word : Nat) (exponent : Int) (cs : List Char) : Token Number :=
  let (w, n, after) := takeDigits word 0 cs
  let (dropped, rest) := skipDigits after
  if n + dropped = 0 then none else readScale negative w (exponent - n) rest

/-- An integer without point or exponent. Below the smallest 64-bit integer, and at
negative zero, it is a double. -/
def plainNumber (negative : Bool) (word : Nat) : Number :=
  if negative then
    if word = 0 ∨ -(word : Int) < Words.minInt64 then .real (-(UInt64.ofNat word).toFloat)
    else .int (-(word : Int))
  else .int word

/-- A number without its sign. -/
def readMagnitude (negative : Bool) (cs : List Char) : Token Number :=
  match cs with
  | '0' :: rest =>
    match rest with
    | '.' :: places => readPlaces negative 0 0 places
    | c :: _ => if (digitValue? c).isSome then none else
        if c = 'e' ∨ c = 'E' then readScale negative 0 0 rest
        else some (some (plainNumber negative 0), rest)
    | [] => some (some (plainNumber negative 0), rest)
  | _ =>
    let (word, n, after) := takeDigits 0 0 cs
    let (more, rest) := skipDigits after
    if n = 0 then none
    else
      match rest with
      | '.' :: places => readPlaces negative word more places
      | c :: _ =>
        if c = 'e' ∨ c = 'E' then readScale negative word more rest
        else if more = 0 then some (some (plainNumber negative word), rest)
        else some ((scale? negative word more).map .real, rest)
      | [] =>
        if more = 0 then some (some (plainNumber negative word), rest)
        else some ((scale? negative word more).map .real, rest)

/-- A number. -/
def readNumber (cs : List Char) : Token Number :=
  match cs with
  | '-' :: rest => readMagnitude true rest
  | _ => readMagnitude false cs

/-! ### Texts -/

/-- The value of a hexadecimal digit of either case. -/
def hexValue? (c : Char) : Option Nat :=
  let n := c.toNat
  if 48 ≤ n ∧ n ≤ 57 then some (n - 48)
  else if 97 ≤ n ∧ n ≤ 102 then some (n - 87)
  else if 65 ≤ n ∧ n ≤ 70 then some (n - 55)
  else none

/-- A code unit of four digits. -/
def readUnit? : List Char → Option (Nat × List Char)
  | a :: b :: c :: d :: rest => do
    let w ← hexValue? a
    let x ← hexValue? b
    let y ← hexValue? c
    let z ← hexValue? d
    some (4096 * w + 256 * x + 16 * y + z, rest)
  | _ => none

/-- A character of one letter after the backslash. -/
def simpleEscape? (c : Char) : Option Char :=
  if c = '"' then some '"'
  else if c = '\\' then some '\\'
  else if c = '/' then some '/'
  else if c = 'b' then some (Char.ofNat 8)
  else if c = 'f' then some (Char.ofNat 12)
  else if c = 'n' then some '\n'
  else if c = 'r' then some '\r'
  else if c = 't' then some '\t'
  else none

/-- The rest of a text after its opening quote, with the characters read so far in reverse; `whole`
is false once half a character was met. The counter bounds the characters left. -/
def readText : Nat → (whole : Bool) → (done : List Char) → List Char → Token String
  | 0, _, _, _ => none
  | _ + 1, _, _, [] => none
  | fuel + 1, whole, done, c :: rest =>
    if c = '"' then some (if whole then some (String.ofList done.reverse) else none, rest)
    else if c = '\\' then
      match rest with
      | [] => none
      | 'u' :: digits =>
        match readUnit? digits with
        | none => none
        | some (unit, after) =>
          if 0xD800 ≤ unit ∧ unit ≤ 0xDBFF then
            match after with
            | '\\' :: 'u' :: more =>
              match readUnit? more with
              | none => none
              | some (low, last) =>
                if 0xDC00 ≤ low ∧ low ≤ 0xDFFF then
                  let code := 0x10000 + (unit - 0xD800) * 0x400 + (low - 0xDC00)
                  readText fuel whole (Char.ofNat code :: done) last
                else readText fuel false done last
            | _ => readText fuel false done after
          else if 0xDC00 ≤ unit ∧ unit ≤ 0xDFFF then readText fuel false done after
          else readText fuel whole (Char.ofNat unit :: done) after
      | e :: after =>
        match simpleEscape? e with
        | some x => readText fuel whole (x :: done) after
        | none => none
    else if c.toNat < 0x20 then none
    else readText fuel whole (c :: done) rest

/-- A text after its opening quote. -/
def readString (cs : List Char) : Token String :=
  readText (cs.length + 1) true [] cs

/-! ### Values -/

/-- Blanks between the tokens of a document. -/
def isSpace (c : Char) : Bool :=
  c == ' ' || c == '\n' || c == '\t' || c == '\r'

/-- The text from its first token on. -/
def skipSpace (cs : List Char) : List Char :=
  cs.dropWhile isSpace

/-- The text after the given characters, if it begins with them. -/
def after? : List Char → List Char → Option (List Char)
  | [], cs => some cs
  | _ :: _, [] => none
  | w :: ws, c :: cs => if w = c then after? ws cs else none

/-- A reading and the text after it, which is absent where reading broke off. -/
abbrev Partial := Reading × Option (List Char)

/-- The reading of a scalar token. -/
def ofToken {α : Type} (f : α → Reading) : Token α → Partial
  | none => (.broken, none)
  | some (some a, rest) => (f a, some rest)
  | some (none, rest) => (.refused, some rest)

/-- The reading of a word of the format. -/
def ofWord (word : String) (r : Reading) (cs : List Char) : Partial :=
  match after? word.toList cs with
  | some rest => (r, some rest)
  | none => (.broken, none)

/-- What was read of fields. -/
abbrev FieldsRead := List (String × Reading) × Ending × Option (List Char)

/-- A field before others. From one whose name is no text nothing is kept but whether all of it
could be read. -/
def named (key? : Option String) (r : Reading) : FieldsRead → FieldsRead
  | (fields, ending, after) =>
    match key? with
    | some key => ((key, r) :: fields, ending, after)
    | none =>
      ([], .misnamed (r.isWhole && Reading.fieldsAreWhole fields && ending.isWhole), after)

/-- A list or an object where so many levels of nesting are left. -/
def within (depth : Nat) (r : Reading) : Reading :=
  if depth = 0 then .tooDeep r else r

mutual

/-- The value at the start of a text, within the given depth. The counter bounds the tokens. -/
def readValue : Nat → (depth : Nat) → List Char → Partial
  | 0, _, _ => (.broken, none)
  | fuel + 1, depth, cs =>
    match skipSpace cs with
    | [] => (.broken, none)
    | '"' :: rest => ofToken .str (readString rest)
    | '[' :: rest =>
      match skipSpace rest with
      | ']' :: after => (within depth (.arr [] .closed), some after)
      | _ =>
        let (items, ending, after) := readItems fuel (depth - 1) rest
        (within depth (.arr items ending), after)
    | '\x7b' :: rest =>
      match skipSpace rest with
      | '\x7d' :: after => (within depth (.obj [] .closed), some after)
      | _ =>
        let (fields, ending, after) := readFields fuel (depth - 1) rest
        (within depth (.obj fields ending), after)
    | 't' :: rest => ofWord "rue" (.bool true) rest
    | 'f' :: rest => ofWord "alse" (.bool false) rest
    | 'n' :: rest => ofWord "ull" .null rest
    | token => ofToken .num (readNumber token)

/-- The items of a list from one of them on. -/
def readItems : Nat → (depth : Nat) → List Char → List Reading × Ending × Option (List Char)
  | 0, _, _ => ([], .broken, none)
  | fuel + 1, depth, cs =>
    match readValue fuel depth cs with
    | (r, none) => ([r], .broken, none)
    | (r, some rest) =>
      match skipSpace rest with
      | ',' :: more =>
        let (items, ending, after) := readItems fuel depth more
        (r :: items, ending, after)
      | ']' :: after => ([r], .closed, some after)
      | _ => ([r], .broken, none)

/-- The fields of an object from one of them on. -/
def readFields : Nat → (depth : Nat) → List Char → FieldsRead
  | 0, _, _ => ([], .broken, none)
  | fuel + 1, depth, cs =>
    match skipSpace cs with
    | '"' :: rest =>
      match readString rest with
      | some (key?, after) =>
        match skipSpace after with
        | ':' :: value =>
          match readValue fuel depth value with
          | (r, none) => named key? r ([], .broken, none)
          | (r, some rest) =>
            match skipSpace rest with
            | ',' :: more => named key? r (readFields fuel depth more)
            | '\x7d' :: last => named key? r ([], .closed, some last)
            | _ => named key? r ([], .broken, none)
        | _ => named key? .broken ([], .broken, none)
      | none => ([], .broken, none)
    | _ => ([], .broken, none)

end

/-- A text read as a document: the value, and whether the text ends with it. -/
structure Document where
  root : Reading
  ends : Bool

/-- Reads a text as far as it goes. -/
def read (s : String) : Document :=
  let cs := s.toList
  match readValue (2 * cs.length + 2) maxDepth cs with
  | (r, some rest) => ⟨r, (skipSpace rest).isEmpty⟩
  | (r, none) => ⟨r, false⟩

/-- The value of a text that is a document. -/
def ofText? (s : String) : Option Json :=
  let d := read s
  if d.ends then d.root.toJson? else none

end Arcade.Json
