import Arcade.Pattern
import Arcade.Console.Filters
/-!
# Lines searched and edited

`grep` shows the lines in which an expression is found, `sed` changes lines by a list of edits. An
expression is made of characters, classes of characters and repetitions of these, with anchors
at the ends of the line and with alternatives, but without groups.

* `Search` is an expression that has been read, `Search.matches` are its matches in a line;
* `grep` and `sed` are the programs.
-/

namespace Arcade.Console

/-! ### Expressions -/

/-- How an expression is read. -/
structure Reading where
  /-- repetitions and alternatives are written without backslashes -/
  extended : Bool := false
  /-- capital letters count as small ones -/
  caseless : Bool := false

/-- A character as it is compared. -/
def Reading.fold (r : Reading) (c : Char) : Char :=
  if r.caseless then Text.asciiLower c else c

/-- Whether a character is one of a class with characters, ranges and named classes. The counter
bounds the class. -/
def inBrackets (c : Char) : (fuel : Nat) → List Char → Bool
  | 0, _ => false
  | _, [] => false
  | fuel + 1, '[' :: ':' :: cs =>
    let name := cs.takeWhile (· != ':')
    inClass (String.ofList name) c.toNat || inBrackets c fuel (cs.drop (name.length + 2))
  | fuel + 1, low :: '-' :: high :: cs => (low ≤ c && c ≤ high) || inBrackets c fuel cs
  | fuel + 1, x :: cs => x == c || inBrackets c fuel cs

/-- The inside of a class, from its first character on, and what follows it. -/
def bracketBody (cs : List Char) : List Char × List Char :=
  let first := cs.takeWhile (· == ']')
  let inside := (cs.drop first.length).takeWhile (· != ']')
  match cs with
  | ']' :: more =>
    let body := more.takeWhile (· != ']')
    (']' :: body, more.drop (body.length + 1))
  | cs => (inside, cs.drop (inside.length + 1))

/-- What one character of a match may be, as an expression begins, and the rest of it. -/
def atom? (r : Reading) : List Char → Option ((Char → Bool) × List Char)
  | [] => none
  | '.' :: cs => some (fun c => c != '\n', cs)
  | '[' :: '^' :: cs =>
    let (body, rest) := bracketBody cs
    some (fun c => !inBrackets (r.fold c) body.length body, rest)
  | '[' :: cs =>
    let (body, rest) := bracketBody cs
    some (fun c => inBrackets (r.fold c) body.length body || inBrackets c body.length body, rest)
  | '\\' :: 'n' :: cs => some ((· == '\n'), cs)
  | '\\' :: 't' :: cs => some ((· == '\t'), cs)
  | '\\' :: 'w' :: cs => some (fun c => inClass "alnum" c.toNat || c == '_', cs)
  | '\\' :: 'W' :: cs => some (fun c => !(inClass "alnum" c.toNat || c == '_'), cs)
  | '\\' :: 's' :: cs => some (fun c => inClass "space" c.toNat, cs)
  | '\\' :: 'S' :: cs => some (fun c => !inClass "space" c.toNat, cs)
  | '\\' :: x :: cs => some (fun c => r.fold c == r.fold x, cs)
  | x :: cs => some (fun c => r.fold c == r.fold x, cs)

/-- A sign of an expression, as it is written in either form. -/
def sign? (r : Reading) : List Char → Option (Char × List Char)
  | '\\' :: c :: cs => if !r.extended && "+?()|".toList.contains c then some (c, cs) else none
  | c :: cs => if r.extended && "+?()|".toList.contains c then some (c, cs) else none
  | [] => none

/-- The alternatives of an expression, from the one that is being read on. The counter bounds the
expression. -/
def alternatives (r : Reading) : (fuel : Nat) → (current : List Pattern) → List Char → List Pattern
  | 0, current, _ => [.all current.reverse]
  | _, current, [] => [.all current.reverse]
  | fuel + 1, current, cs =>
    match sign? r cs, cs with
    | some ('|', rest), _ => .all current.reverse :: alternatives r fuel [] rest
    | some (_, rest), _ => alternatives r fuel current rest
    | none, '\\' :: 'b' :: rest => alternatives r fuel (.wordEdge :: current) rest
    | none, '^' :: rest =>
      if current.isEmpty then alternatives r fuel [.lineStart] rest
      else alternatives r fuel (.lit "^" :: current) rest
    | none, cs =>
      match atom? r cs with
      | none => [.all current.reverse]
      | some (accepts, rest) =>
        match sign? r rest, rest with
        | _, '*' :: rest => alternatives r fuel (.run accepts :: current) rest
        | some ('+', rest), _ =>
          alternatives r fuel (.seq (.one accepts) (.run accepts) :: current) rest
        | some ('?', rest), _ => alternatives r fuel (.opt (.one accepts) :: current) rest
        | _, _ => alternatives r fuel (.one accepts :: current) rest

/-- An expression that has been read. -/
structure Search where
  pattern : Pattern
  /-- whether a match ends where the line ends -/
  toEnd : Bool := false

/-- Reads an expression. -/
def Search.read (r : Reading) (cs : List Char) : Search :=
  let (cs, toEnd) := match cs.reverse with
    | '$' :: '\\' :: _ => (cs, false)
    | '$' :: rest => (rest.reverse, true)
    | _ => (cs, false)
  { pattern := .any (alternatives r cs.length [] cs), toEnd := toEnd }

/-- Reads a plain text to be found. -/
def Search.plain (r : Reading) (cs : List Char) : Search where
  pattern := .all (cs.map fun x => .one fun c => r.fold c == r.fold x)

/-- The end of a match at a place. -/
def Search.endAt? (s : Search) (p : Place) : Option Place :=
  s.pattern.from? (fun e => if s.toEnd && !e.after.isEmpty then none else some e) p

/-- The matches of an expression from a place on: for each the text before it, itself, and the rest
after the last one. An empty match right after another does not count. -/
def Search.split (s : Search) : (fuel : Nat) → (skipped : List Char) → (mayBeEmpty : Bool) → Place →
    List (List Char × List Char) × List Char
  | 0, skipped, _, p => ([], skipped.reverse ++ p.after)
  | fuel + 1, skipped, mayBeEmpty, p =>
    let next (skipped : List Char) : List (List Char × List Char) × List Char :=
      match p.after with
      | [] => ([], skipped.reverse)
      | c :: rest => s.split fuel (c :: skipped) true ⟨c :: p.before, rest⟩
    match s.endAt? p with
    | none => next skipped
    | some e =>
      let found := p.after.take (p.after.length - e.after.length)
      if found.isEmpty then
        if mayBeEmpty then
          let (more, rest) := next []
          ((skipped.reverse, []) :: more, rest)
        else next skipped
      else
        let (more, rest) := s.split fuel [] false e
        ((skipped.reverse, found) :: more, rest)

/-- The matches in a line. -/
def Search.matches (s : Search) (line : List Char) : List (List Char × List Char) × List Char :=
  s.split (2 * line.length + 2) [] true (.start line)

/-- Whether a line has a match. -/
def Search.isIn (s : Search) (line : List Char) : Bool :=
  !(s.matches line).1.isEmpty

/-! ### Showing lines -/

/-- The lines in which an expression is found. -/
def grep (c : Call) : Done :=
  let manual : Manual := {
    flags := "vcinqFEohs", valued := "e"
    names := [("invert-match", 'v'), ("count", 'c'), ("ignore-case", 'i'), ("line-number", 'n'),
      ("quiet", 'q'), ("fixed-strings", 'F'), ("extended-regexp", 'E'), ("only-matching", 'o')]
    failed := 2 }
  manual.read c fun a =>
    match (a.value? 'e').toList ++ a.operands with
    | [] =>
      let usage := "Usage: " ++ c.program ++ " [OPTION]... PATTERNS [FILE]...\nTry '" ++ c.program
        ++ " --help' for more information.\n"
      { status := 2, errors := bytesOf usage, left := c.input, files := c.files }
    | expression :: files =>
      let reading : Reading := { extended := a.has 'E', caseless := a.has 'i' }
      let search := if a.has 'F' then Search.plain reading expression.toList
        else Search.read reading expression.toList
      let (text, errors) := c.gather files c.plainComplaint
      let lines := (linesOf text).map fun l => (textOf (bareLine l)).toList
      let kept := (lines.zipIdx 1).filter fun (l, _) => search.isIn l != a.has 'v'
      let shown := kept.flatMap fun (l, n) =>
        let parts := if a.has 'o' then ((search.matches l).1.map (·.2)).filter (!·.isEmpty) else [l]
        parts.map fun p =>
          (if a.has 'n' then toString n ++ ":" else "") ++ String.ofList p ++ "\n"
      let output := if a.has 'q' then "" else if a.has 'c' then toString kept.length ++ "\n"
        else String.join shown
      { status := if !errors.isEmpty then 2 else if kept.isEmpty then 1 else 0
        output := bytesOf output
        errors := errors
        left := if files.isEmpty || files.any Call.isInput then [] else c.input
        files := c.files }

/-! ### Editing lines -/

/-- Which lines an edit is for. -/
inductive Where where
  | line (n : Nat)
  | last
  | found (s : Search)

/-- What an edit does. -/
inductive Act where
  /-- replaces matches: all of them, or the one with a number -/
  | replace (s : Search) (new : List Char) (all : Bool) (number : Nat) (print : Bool)
  | delete
  | print
  | quit

/-- An edit: for all lines, for those at a place, or for those from a place to another. -/
structure Edit where
  from? : Option Where := none
  to? : Option Where := none
  otherwise : Bool := false
  act : Act

/-- A text up to a delimiter, and what follows that. A delimiter after a backslash does not
count. -/
def upTo? (delimiter : Char) : List Char → Option (List Char × List Char)
  | [] => none
  | '\\' :: c :: cs =>
    (upTo? delimiter cs).map fun (text, rest) =>
      (if c = delimiter then c :: text else '\\' :: c :: text, rest)
  | c :: cs =>
    if c = delimiter then some ([], cs)
    else (upTo? delimiter cs).map fun (text, rest) => (c :: text, rest)

/-- A place in the text at the front of an edit. -/
def where? (r : Reading) (cs : List Char) : Option Where × List Char :=
  match cs with
  | '$' :: rest => (some .last, rest)
  | '/' :: rest =>
    match upTo? '/' rest with
    | some (e, rest) => (some (.found (.read r e)), rest)
    | none => (none, cs)
  | cs =>
    let digits := cs.takeWhile Text.isAsciiDigit
    match numeral? digits with
    | some n => (some (.line n), cs.drop digits.length)
    | none => (none, cs)

/-- The edits of a script; otherwise how much of the script is left where it cannot be read, and
what is wrong there. The counter bounds the script. -/
def edits (r : Reading) : (fuel : Nat) → List Char → Except (Nat × String) (List Edit)
  | 0, _ => .ok []
  | _, [] => .ok []
  | fuel + 1, c :: cs =>
    if c = ' ' || c = ';' || c = '\n' || c = '\t' then edits r fuel cs
    else
      let (first, rest) := where? r (c :: cs)
      let (second, rest) := match rest with
        | ',' :: more => where? r more
        | rest => (none, rest)
      let (otherwise, rest) := match rest.dropWhile (· == ' ') with
        | '!' :: more => (true, more)
        | rest => (false, rest)
      let edit (act : Act) : Edit := ⟨first, second, otherwise, act⟩
      match rest with
      | 'd' :: more => (edits r fuel more).map (edit .delete :: ·)
      | 'p' :: more => (edits r fuel more).map (edit .print :: ·)
      | 'q' :: more => (edits r fuel more).map (edit .quit :: ·)
      | 's' :: delimiter :: more =>
        match upTo? delimiter more with
        | none => .error (0, "unterminated `s' command")
        | some (e, more) =>
          match upTo? delimiter more with
          | none => .error (0, "unterminated `s' command")
          | some (new, more) =>
            let marks := more.takeWhile fun x => "gpiI".toList.contains x || Text.isAsciiDigit x
            let more := more.drop marks.length
            if more.head?.any fun x => !"; \n\x7d".toList.contains x then
              .error (more.length - 1, "unknown option to `s'")
            else
              let caseless := marks.contains 'i' || marks.contains 'I'
              let search := Search.read { r with caseless := caseless } e
              let number := (numeral? (marks.filter Text.isAsciiDigit)).getD 1
              let act := Act.replace search new (marks.contains 'g') number (marks.contains 'p')
              (edits r fuel more).map (edit act :: ·)
      | [] => .error (0, "missing command")
      | x :: more => .error (more.length, "unknown command: `" ++ x.toString ++ "'")

/-- A replacement for a match. -/
def replacement (found : List Char) : List Char → List Char
  | [] => []
  | '&' :: cs => found ++ replacement found cs
  | '\\' :: 'n' :: cs => '\n' :: replacement found cs
  | '\\' :: 't' :: cs => '\t' :: replacement found cs
  | '\\' :: c :: cs => c :: replacement found cs
  | c :: cs => c :: replacement found cs

/-- Whether a place is a line. -/
def Where.isAt (line : List Char) (n count : Nat) : Where → Bool
  | .line m => n == m
  | .last => n == count
  | .found s => s.isIn line

/-- Whether an edit is for a line. -/
def Edit.applies (e : Edit) (line : List Char) (n count : Nat) : Bool :=
  let inside := match e.from?, e.to? with
    | none, _ => true
    | some w, none => w.isAt line n count
    | some (.line m), some (.line k) => n == m || (m ≤ n && n ≤ k)
    | some (.line m), some .last => m ≤ n
    | some w, some _ => w.isAt line n count
  inside != e.otherwise

/-- A line under edit. -/
structure Edited where
  line : List Char
  /-- what is printed besides -/
  printed : List (List Char) := []
  deleted : Bool := false
  finished : Bool := false

/-- Does one edit. -/
def Edited.apply (d : Edited) (n count : Nat) (e : Edit) : Edited :=
  if d.deleted || d.finished || !e.applies d.line n count then d
  else
    match e.act with
    | .delete => { d with deleted := true }
    | .print => { d with printed := d.printed ++ [d.line] }
    | .quit => { d with finished := true }
    | .replace s new all number print =>
      let (found, rest) := s.matches d.line
      if found.length < number then d
      else
        let line := (found.zipIdx 1).flatMap fun ((before, piece), i) =>
          before ++ if i = number || (all && number < i) then replacement piece new else piece
        let line := line ++ rest
        { d with line := line, printed := if print then d.printed ++ [line] else d.printed }

/-- Edits lines one after the other. -/
def editLines (es : List Edit) (quiet : Bool) (count : Nat) : (n : Nat) → List Bytes → List Bytes
  | _, [] => []
  | n, line :: rest =>
    let before : Edited := { line := (textOf (bareLine line)).toList }
    let d := es.foldl (fun d e => Edited.apply d n count e) before
    let shown := d.printed ++ if quiet || d.deleted then [] else [d.line]
    let ending : Bytes := if line.getLast? = some 10 then [10] else []
    let texts := shown.map fun l => bytesOf (String.ofList l)
    let out := ([10] : Bytes).intercalate texts ++ if texts.isEmpty then [] else ending
    out :: if d.finished then [] else editLines es quiet count (n + 1) rest

/-- Lines changed by edits. -/
def sed (c : Call) : Done :=
  let complain (file : String) (fault : FileFault) : String :=
    match fault with
    | .missing => c.program ++ ": can't read " ++ file ++ ": " ++ fault.message
    | .directory => c.program ++ ": couldn't edit " ++ file ++ ": not a regular file"
  let manual : Manual := {
    flags := "nErsu", valued := "e"
    names := [("quiet", 'n'), ("silent", 'n'), ("regexp-extended", 'E'), ("expression", 'e')] }
  manual.read c fun a =>
    let given := (a.options.filter fun o => o.1 == 'e').map (·.2)
    let (script, files) :=
      if given.isEmpty then (a.operands.headD "", a.operands.tail)
      else (String.intercalate "\n" given, a.operands)
    match edits { extended := a.has 'E' || a.has 'r' } script.length script.toList with
    | .error (left, complaint) =>
      c.refuse ("-e expression #1, char " ++ toString (script.length - left) ++ ": " ++ complaint)
    | .ok es =>
      c.filter files complain (fun b =>
          let lines := linesOf b
          (editLines es (a.has 'n') lines.length 1 lines).flatten)
        2

end Arcade.Console
