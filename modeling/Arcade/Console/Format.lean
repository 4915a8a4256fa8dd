import Arcade.Console.Filters
/-!
# Texts put together

`echo` and `printf`. Both come in two forms, one inside scripts and one as a program of its own,
which differ in the escapes that they know and in the wording of their complaints.
-/

namespace Arcade.Console

/-- Which form of a program is run. -/
inductive Form where
  /-- the one that is part of the shell -/
  | inScript
  /-- the program of its own -/
  | alone
  deriving DecidableEq, Repr

/-- The value of the hexadecimal digits at the front, at most `most` of them, and what follows. -/
def hexDigits : (most : Nat) → (soFar : Nat) → List Char → Nat × List Char
  | 0, n, cs => (n, cs)
  | _, n, [] => (n, [])
  | most + 1, n, c :: cs =>
    match Hex.value? c with
    | some d => hexDigits most (16 * n + d) cs
    | none => (n, c :: cs)

/-- The byte that is written after a backslash, and what follows it. -/
def escape? (form : Form) (cs : List Char) : Option (Char × List Char) :=
  match cs with
  | [] => none
  | c :: rest =>
    match letterEscape? c with
    | some n => some (Char.ofNat n, rest)
    | none =>
      if '0' ≤ c ∧ c ≤ '7' then
        let (n, rest) := octal 3 0 cs
        some (Char.ofNat (n % 256), rest)
      else if c = 'x' && form = .alone && (rest.head?.bind Hex.value?).isSome then
        let (n, rest) := hexDigits 2 0 rest
        some (Char.ofNat n, rest)
      else if c = '"' && form = .alone then some ('"', rest)
      else none

/-- A text with its escapes replaced, and whether it was cut short. In such a text an octal number
may start with a further zero. The counter bounds the text. -/
def unescape (form : Form) : (fuel : Nat) → List Char → List Char × Bool
  | 0, _ => ([], false)
  | _, [] => ([], false)
  | fuel + 1, '\\' :: cs =>
    let cs' := match cs with
      | '0' :: d :: rest => if '0' ≤ d ∧ d ≤ '7' then d :: rest else cs
      | _ => cs
    match cs.head?, escape? form cs' with
    | some 'c', _ => ([], true)
    | _, some (c, rest) =>
      let (more, cut) := unescape form fuel rest
      (c :: more, cut)
    | _, none =>
      let (more, cut) := unescape form fuel cs
      ('\\' :: more, cut)
  | fuel + 1, c :: cs =>
    let (more, cut) := unescape form fuel cs
    (c :: more, cut)

/-- The options of `echo` outside scripts: whether a newline is written, whether escapes count, and
the words that are left. -/
def echoOptions (newline escapes : Bool) : List String → Bool × Bool × List String
  | [] => (newline, escapes, [])
  | a :: rest =>
    match a.toList with
    | '-' :: c :: cs =>
      if (c :: cs).all "neE".toList.contains then
        echoOptions (newline && !(c :: cs).contains 'n')
          (((c :: cs).filter (· != 'n')).getLast?.elim escapes (· == 'e')) rest
      else (newline, escapes, a :: rest)
    | _ => (newline, escapes, a :: rest)

/-- Words with blanks between them. -/
def echo (form : Form) (c : Call) : Done :=
  let (newline, escapes, words) := match form, c.arguments with
    | .inScript, "-n" :: words => (false, true, words)
    | .inScript, words => (true, true, words)
    | .alone, words => echoOptions true false words
  let line := (String.intercalate " " words).toList
  let (text, cut) := if escapes then unescape form line.length line else (line, false)
  { c.wrote (bytesOf (String.ofList (if newline && !cut then text ++ ['\n'] else text))) with
    left := c.input }

/-! ### Formats -/

/-- How an argument is set. -/
structure Setting where
  flags : List Char := []
  width : Nat := 0
  precision : Option Nat := none
  deriving Repr

/-- What follows a percent sign up to the letter that says what is set. -/
def readSetting (cs : List Char) : Setting × List Char :=
  let flags := cs.takeWhile "-+ 0#".toList.contains
  let cs := cs.drop flags.length
  let width := cs.takeWhile Text.isAsciiDigit
  let cs := cs.drop width.length
  let setting : Setting := { flags := flags, width := (numeral? width).getD 0 }
  match cs with
  | '.' :: cs =>
    let precision := cs.takeWhile Text.isAsciiDigit
    ({ setting with precision := some ((numeral? precision).getD 0) }, cs.drop precision.length)
  | cs => (setting, cs)

/-- Puts a text into its field. -/
def Setting.place (s : Setting) (cs : List Char) : List Char :=
  let filler := List.replicate (s.width - cs.length) ' '
  if s.flags.contains '-' then cs ++ filler else filler ++ cs

/-- Puts digits and the sign before them into their field. -/
def Setting.placeNumber (s : Setting) (sign digits : List Char) : List Char :=
  let digits := List.replicate (s.precision.getD 1 - digits.length) '0' ++ digits
  if s.flags.contains '0' && !s.flags.contains '-' && s.precision.isNone then
    sign ++ List.replicate (s.width - sign.length - digits.length) '0' ++ digits
  else s.place (sign ++ digits)

/-- What is wrong with a number. -/
inductive NumberFault where
  | notNumber
  | notWhole
  deriving DecidableEq, Repr

/-- The number that an argument writes: in base 10, 16 or 8, or as the byte after a quote. -/
def numberOf (s : String) : Int × Option NumberFault :=
  match s.toList.dropWhile (· == ' ') with
  | [] => (0, if s.isEmpty then none else some .notNumber)
  | '\'' :: c :: _ => (Int.ofNat c.toNat, none)
  | '"' :: c :: _ => (Int.ofNat c.toNat, none)
  | cs =>
    let negative := cs.head? = some '-'
    let cs := if cs.head? = some '-' || cs.head? = some '+' then cs.drop 1 else cs
    let (n, used, rest) := match cs with
      | '0' :: 'x' :: h :: more =>
        if (Hex.value? h).isSome then
          let (n, rest) := hexDigits 16 0 (h :: more)
          (n, true, rest)
        else (0, true, 'x' :: h :: more)
      | '0' :: more =>
        let (n, rest) := octal 22 0 more
        (n, true, rest)
      | cs =>
        let digits := cs.takeWhile Text.isAsciiDigit
        ((numeral? digits).getD 0, !digits.isEmpty, cs.drop digits.length)
    (if negative then -Int.ofNat n else Int.ofNat n,
      if !used then some .notNumber else if rest.isEmpty then none else some .notWhole)

/-- The wording of a number fault. -/
def NumberFault.message (form : Form) (argument : String) : NumberFault → String
  | .notNumber =>
    match form with
    | .inScript => argument ++ ": expected numeric value"
    | .alone => "'" ++ argument ++ "': expected a numeric value"
  | .notWhole =>
    match form with
    | .inScript => argument ++ ": not completely converted"
    | .alone => "'" ++ argument ++ "': value not completely converted"

/-- The digits of a number in some base. -/
def digitsIn (base n : Nat) (upper : Bool) : List Char :=
  (Nat.toDigits base n).map fun c => if upper && 'a' ≤ c && c ≤ 'f' then
    Char.ofNat (c.toNat - 32) else c

/-- What a format has come to. -/
structure Filled where
  /-- the text, in reverse -/
  text : List Char := []
  arguments : List String := []
  complaints : List String := []
  status : Nat := 0
  /-- nothing more is written -/
  ended : Bool := false

/-- Adds some text. -/
def Filled.add (f : Filled) (cs : List Char) : Filled :=
  { f with text := cs.reverse ++ f.text }

/-- Takes up the next argument, if there is one, as a number. -/
def Filled.takeNumber (f : Filled) (form : Form) : Int × Filled :=
  match f.arguments with
  | [] => (0, f)
  | a :: rest =>
    let (n, fault) := numberOf a
    let complaints := f.complaints ++ (fault.map (·.message form a)).toList
    let status := if fault.isSome then 1 else f.status
    (n, { f with arguments := rest, complaints := complaints, status := status })

/-- Stops at a mistake in the format. -/
def Filled.stop (f : Filled) (form : Form) (inScript alone : String) : Filled :=
  match form with
  | .inScript => { f with ended := true, status := 2, complaints := f.complaints ++ [inScript] }
  | .alone => { f with ended := true, status := 1, complaints := f.complaints ++ [alone] }

/-- Sets an argument as a letter says; nothing if there is no such letter. -/
def Filled.set? (f : Filled) (form : Form) (s : Setting) (letter : Char) : Option Filled :=
  let number (show' : Int → List Char × List Char) : Option Filled :=
    let (n, f) := f.takeNumber form
    let (sign, digits) := show' n
    some (f.add (s.placeNumber sign digits))
  let unsigned (n : Int) : Nat := (n % 18446744073709551616).toNat
  let text := (f.arguments.headD "").toList
  let rest := { f with arguments := f.arguments.tail }
  if letter = 's' then some (rest.add (s.place (s.precision.elim text text.take)))
  else if letter = 'c' then some (rest.add (s.place (text.take 1)))
  else if letter = 'b' then
    let (cs, cut) := unescape form text.length text
    some { rest.add (s.place (s.precision.elim cs cs.take)) with ended := cut }
  else if letter = 'd' || letter = 'i' then
    number fun n =>
      (if n < 0 then ['-'] else if s.flags.contains '+' then ['+']
        else if s.flags.contains ' ' then [' '] else [], digitsIn 10 n.natAbs false)
  else if letter = 'u' then number fun n => ([], digitsIn 10 (unsigned n) false)
  else if letter = 'o' then
    number fun n => (if s.flags.contains '#' then ['0'] else [], digitsIn 8 (unsigned n) false)
  else if letter = 'x' then
    number fun n => (if s.flags.contains '#' then ['0', 'x'] else [],
      digitsIn 16 (unsigned n) false)
  else if letter = 'X' then
    number fun n => (if s.flags.contains '#' then ['0', 'X'] else [], digitsIn 16 (unsigned n) true)
  else none

/-- Fills a format in with arguments. The counter bounds the format. -/
def fill (form : Form) : (fuel : Nat) → List Char → Filled → Filled
  | 0, _, f => f
  | _, [], f => f
  | fuel + 1, '\\' :: cs, f =>
    match cs.head?, escape? form cs with
    | some 'c', _ =>
      if form = .alone then { f with ended := true } else fill form fuel cs (f.add ['\\'])
    | _, some (c, rest) => fill form fuel rest (f.add [c])
    | _, none => fill form fuel cs (f.add ['\\'])
  | fuel + 1, '%' :: '%' :: cs, f => fill form fuel cs (f.add ['%'])
  | fuel + 1, '%' :: cs, f =>
    let (setting, after) := readSetting cs
    match after with
    | [] =>
      let what := "%" ++ String.ofList cs
      f.stop form "missing format character" (what ++ ": invalid conversion specification")
    | letter :: rest =>
      match f.set? form setting letter with
      | some f => if f.ended then f else fill form fuel rest f
      | none =>
        let what := String.ofList ('%' :: cs.take (cs.length - rest.length))
        f.stop form (what ++ ": invalid directive") (what ++ ": invalid conversion specification")
  | fuel + 1, c :: cs, f => fill form fuel cs (f.add [c])

/-- Fills a format in again and again as long as it takes up arguments. -/
def fillAll (form : Form) (format : List Char) : (fuel : Nat) → Filled → Filled
  | 0, f => f
  | fuel + 1, f =>
    let g := fill form format.length format f
    if g.ended || g.arguments.isEmpty || g.arguments.length = f.arguments.length then g
    else fillAll form format fuel g

/-- Arguments set as a format says. -/
def printf (form : Form) (c : Call) : Done :=
  match (if c.arguments.head? = some "--" then c.arguments.tail else c.arguments) with
  | [] =>
    match form with
    | .inScript => c.refuse "usage: printf format [arg ...]" 2
    | .alone => c.misused "missing operand"
  | format :: arguments =>
    match form, c.arguments.head?.map String.toList with
    | .inScript, some ('-' :: x :: _) =>
      if x = '-' then set arguments format else c.refuse ("Illegal option -" ++ x.toString) 2
    | _, _ => set arguments format
where
  set (arguments : List String) (format : String) : Done :=
    let f := fillAll form format.toList (arguments.length + 1) { arguments := arguments }
    let complaints := f.complaints.map fun e => c.program ++ ": " ++ e ++ "\n"
    { status := f.status
      output := bytesOf (String.ofList f.text.reverse)
      errors := bytesOf (String.join complaints)
      left := c.input
      files := c.files }

end Arcade.Console
