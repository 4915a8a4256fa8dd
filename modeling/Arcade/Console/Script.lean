import Arcade.Text.Word
/-!
# Scripts

The commands that a shell runs, and how they are written: simple commands with settings, words and
redirections, put together by pipes, lists, conditions, loops and brackets.

* `Word` is a word as it is written, `Script` a command;
* `tokens` takes a text apart, `nextCommand` reads the commands up to the end of a line.

A shell runs each line before it reads the next one, so a mistake only counts once its line is
reached. A text that cannot be taken apart therefore ends in a token that says why.
-/

namespace Arcade.Console

/-! ### Syntax -/

/-- A piece of a word. What is quoted is never split. -/
inductive Piece where
  | text (quoted : Bool) (cs : List Char)
  /-- the value under a name, or a text if there is none -/
  | value (quoted : Bool) (name : String) (instead : List Char)
  /-- how long the value under a name is -/
  | size (name : String)
  /-- what a script writes -/
  | output (quoted : Bool) (script : List Char)
  /-- the value of a sum -/
  | sum (expression : List Char)
  deriving DecidableEq, Repr

abbrev Word := List Piece

/-- What is done to a stream. -/
inductive Way where
  | read
  | write
  | append
  /-- made the same as another -/
  | same
  deriving DecidableEq, Repr

/-- A redirection of the stream with a number. -/
structure Redirection where
  number : Nat
  way : Way
  target : Word
  deriving DecidableEq, Repr

/-- A script. -/
inductive Script where
  | empty
  | simple (line : Nat) (settings : List (String × Word)) (words : List Word)
      (sends : List Redirection)
  | pipe (first second : Script)
  | seq (first second : Script)
  | both (first second : Script)
  | either (first second : Script)
  | negated (s : Script)
  | background (s : Script)
  /-- in brackets, where it cannot change the shell -/
  | apart (s : Script)
  /-- with streams of its own -/
  | sent (line : Nat) (s : Script) (sends : List Redirection)
  | choice (condition yes no : Script)
  | loop (whileOk : Bool) (condition body : Script)
  | each (line : Nat) (name : String) (words : List Word) (body : Script)
  /-- a command that is given a name -/
  | named (name : String) (body : Script)
  deriving Repr

/-! ### Tokens -/

/-- What a text is made of. -/
inductive Token where
  | word (w : Word)
  | redirect (number : Nat) (way : Way)
  | sign (s : String)
  /-- the text cannot be read further -/
  | broken (why : String)
  deriving DecidableEq, Repr

/-- A token and the number of its line. -/
abbrev Tokens := List (Nat × Token)

/-- Whether a character belongs to names. -/
def isNameChar (c : Char) : Bool :=
  Text.isAsciiLetter c || Text.isAsciiDigit c || c == '_'

/-- Whether a text is a name. -/
def isName (cs : List Char) : Bool :=
  !cs.isEmpty && cs.all isNameChar && !cs.head?.any Text.isAsciiDigit

/-- Which quotes are open. -/
inductive Quotes where
  | none
  | single
  | double
  deriving DecidableEq

/-- What stands before the closing bracket of some depth, and what follows it. -/
def upToBracket? : Quotes → (depth : Nat) → List Char → Option (List Char × List Char)
  | _, _, [] => none
  | .single, depth, c :: cs =>
    (upToBracket? (if c = '\'' then .none else .single) depth cs).map fun (a, b) => (c :: a, b)
  | q, depth, '\\' :: c :: cs => (upToBracket? q depth cs).map fun (a, b) => ('\\' :: c :: a, b)
  | .double, depth, c :: cs =>
    (upToBracket? (if c = '"' then .none else .double) depth cs).map fun (a, b) => (c :: a, b)
  | .none, depth, c :: cs =>
    let go (q : Quotes) (depth : Nat) := (upToBracket? q depth cs).map fun (a, b) => (c :: a, b)
    if c = '\'' then go .single depth
    else if c = '"' then go .double depth
    else if c = '(' then go .none (depth + 1)
    else if c = ')' then if depth = 0 then some ([], cs) else go .none (depth - 1)
    else go .none depth

/-- The quote around scripts in words. -/
def backquote : Char := Char.ofNat 96

/-- What stands before the closing backquote, and what follows it. -/
def upToBackquote? : List Char → Option (List Char × List Char)
  | [] => none
  | '\\' :: c :: cs =>
    (upToBackquote? cs).map fun (a, b) =>
      (if c = backquote || c = '\\' || c = '$' then c :: a else '\\' :: c :: a, b)
  | c :: cs =>
    if c = backquote then some ([], cs)
    else (upToBackquote? cs).map fun (a, b) => (c :: a, b)

/-- The piece that follows a dollar sign. -/
def afterDollar (quoted : Bool) (cs : List Char) : Except String (Piece × List Char) :=
  match cs with
  | '(' :: '(' :: rest =>
    match upToBracket? .none 1 rest with
    | some (expression, rest) => .ok (.sum expression.dropLast, rest)
    | none => .error "end of file unexpected (expecting \")\")"
  | '(' :: rest =>
    match upToBracket? .none 0 rest with
    | some (script, rest) => .ok (.output quoted script, rest)
    | none => .error "end of file unexpected (expecting \")\")"
  | '{' :: '#' :: rest =>
    let name := rest.takeWhile isNameChar
    match rest.drop name.length with
    | '}' :: rest => .ok (.size (String.ofList name), rest)
    | _ => .error "Missing '\x7d'"
  | '{' :: rest =>
    let inside := rest.takeWhile (· != '}')
    let special := inside.take 1
    let name := if special.all isNameChar then inside.takeWhile isNameChar else special
    match rest.drop inside.length, inside.drop name.length with
    | [], _ => .error "Missing '\x7d'"
    | _ :: rest, ':' :: '-' :: text => .ok (.value quoted (String.ofList name) text, rest)
    | _ :: rest, '-' :: text => .ok (.value quoted (String.ofList name) text, rest)
    | _ :: rest, _ => .ok (.value quoted (String.ofList name) [], rest)
  | c :: rest =>
    if Text.isAsciiDigit c || "?$#@*!-".toList.contains c then
      .ok (.value quoted c.toString [], rest)
    else if isNameChar c then
      let name := cs.takeWhile isNameChar
      .ok (.value quoted (String.ofList name) [], cs.drop name.length)
    else .ok (.text quoted ['$'], cs)
  | [] => .ok (.text quoted ['$'], [])

/-- The pieces up to the closing double quote, in reverse, and what follows it. The counter bounds
the text. -/
def doubleQuoted : (fuel : Nat) → (soFar : Word) → List Char → Except String (Word × List Char)
  | 0, soFar, cs => .ok (soFar, cs)
  | _, _, [] => .error "Unterminated quoted string"
  | _, soFar, '"' :: cs => .ok (soFar, cs)
  | fuel + 1, soFar, '\\' :: '\n' :: cs => doubleQuoted fuel soFar cs
  | fuel + 1, soFar, '\\' :: c :: cs =>
    let kept := if c = '"' || c = '\\' || c = '$' || c = backquote then [c] else ['\\', c]
    doubleQuoted fuel (.text true kept :: soFar) cs
  | fuel + 1, soFar, '$' :: cs =>
    match afterDollar true cs with
    | .ok (piece, rest) => doubleQuoted fuel (piece :: soFar) rest
    | .error e => .error (if cs.head? = some '\x7b' then "Unterminated quoted string" else e)
  | fuel + 1, soFar, c :: cs =>
    if c = backquote then
      match upToBackquote? cs with
      | some (script, rest) => doubleQuoted fuel (.output true script :: soFar) rest
      | none => .error "EOF in backquote substitution"
    else doubleQuoted fuel (.text true [c] :: soFar) cs

/-- The sign at the front of a text, and what follows it. -/
def signAt? (cs : List Char) : Option (Token × List Char) :=
  match cs with
  | '\n' :: rest => some (.sign "\n", rest)
  | '&' :: '&' :: rest => some (.sign "&&", rest)
  | '&' :: rest => some (.sign "&", rest)
  | '|' :: '|' :: rest => some (.sign "||", rest)
  | '|' :: rest => some (.sign "|", rest)
  | ';' :: ';' :: rest => some (.sign ";;", rest)
  | ';' :: rest => some (.sign ";", rest)
  | '(' :: rest => some (.sign "(", rest)
  | ')' :: rest => some (.sign ")", rest)
  | _ => none

/-- The redirection at the front of a text, of the stream with a number if one stands before it, and
what follows. -/
def redirectAt? (number : Option Nat) (cs : List Char) : Option (Token × List Char) :=
  match cs with
  | '>' :: '>' :: rest => some (.redirect (number.getD 1) .append, rest)
  | '>' :: '&' :: rest => some (.redirect (number.getD 1) .same, rest)
  | '>' :: '|' :: rest => some (.redirect (number.getD 1) .write, rest)
  | '>' :: rest => some (.redirect (number.getD 1) .write, rest)
  | '<' :: '&' :: rest => some (.redirect (number.getD 0) .same, rest)
  | '<' :: rest => some (.redirect (number.getD 0) .read, rest)
  | _ => none

/-- A word that has ended, if one was begun; its pieces are in reverse. -/
def endWord (line : Nat) : Option Word → Tokens
  | some w => [(line, .word w.reverse)]
  | none => []

/-- How many lines end in the part of a text before another part. -/
def linesBefore (rest cs : List Char) : Nat :=
  (cs.take (cs.length - rest.length)).count '\n'

/-- The tokens of a text, from the word that is being read on. The counter bounds the text. -/
def tokensFrom : (fuel : Nat) → (line : Nat) → (word : Option Word) → List Char → Tokens
  | 0, line, word, _ => endWord line word
  | _, line, word, [] => endWord line word
  | fuel + 1, line, word, c :: cs =>
    let add (piece : Piece) (rest : List Char) : Tokens :=
      tokensFrom fuel (line + linesBefore rest cs) (some (piece :: word.getD [])) rest
    let broken (why : String) : Tokens :=
      [(line + cs.count '\n', .broken why)]
    if c = ' ' || c = '\t' then endWord line word ++ tokensFrom fuel line none cs
    else if c = '#' && word.isNone then tokensFrom fuel line none (cs.dropWhile (· != '\n'))
    else if c = '\\' then
      match cs with
      | [] => add (.text true ['\\']) []
      | '\n' :: rest => tokensFrom fuel (line + 1) word rest
      | x :: rest => add (.text true [x]) rest
    else if c = '\'' then
      let inside := cs.takeWhile (· != '\'')
      match cs.drop inside.length with
      | [] => broken "Unterminated quoted string"
      | _ :: rest => add (.text true inside) rest
    else if c = '"' then
      match doubleQuoted (cs.length + 1) (.text true [] :: word.getD []) cs with
      | .ok (pieces, rest) => tokensFrom fuel (line + linesBefore rest cs) (some pieces) rest
      | .error e => broken e
    else if c = '$' then
      match afterDollar false cs with
      | .ok (piece, rest) => add piece rest
      | .error e => broken e
    else if c = backquote then
      match upToBackquote? cs with
      | some (script, rest) => add (.output false script) rest
      | none => broken "EOF in backquote substitution"
    else
      let number := match word with
        | some [.text false [d]] => if Text.isAsciiDigit d then some (d.toNat - 48) else none
        | _ => none
      match signAt? (c :: cs), redirectAt? number (c :: cs) with
      | some (token, rest), _ =>
        let after := if c = '\n' then line + 1 else line
        endWord line word ++ (line, token) :: tokensFrom fuel after none rest
      | none, some (token, rest) =>
        (if number.isSome then [] else endWord line word)
          ++ (line, token) :: tokensFrom fuel line none rest
      | none, none => tokensFrom fuel line (some (.text false [c] :: word.getD [])) cs

/-- The tokens of a text. -/
def tokens (text : List Char) : Tokens :=
  tokensFrom (text.length + 1) 1 none text

/-! ### Commands -/

/-- A mistake in a script: its line and what is wrong. -/
abbrev Mistake := Nat × String

/-- The text of a word without quotes and values. -/
def plainWord? (w : Word) : Option String :=
  (w.mapM fun
    | Piece.text false cs => some (String.ofList cs)
    | _ => none).map String.join

/-- The words that mean something where a command begins. -/
def reserved : List String := [
  "!", "\x7b", "\x7d", "case", "do", "done", "elif", "else", "esac", "fi", "for", "if", "in",
  "then", "until", "while"]

/-- The reserved word at the front. -/
def keyword? (ts : Tokens) : Option String :=
  match ts with
  | (_, .word w) :: _ => (plainWord? w).bind fun s => if reserved.contains s then some s else none
  | _ => none

/-- How a token is called in a mistake. -/
def nameOf (ts : Tokens) : String :=
  match ts with
  | [] => "end of file"
  | (_, .sign "\n") :: _ => "newline"
  | (_, .sign s) :: _ => "\"" ++ s ++ "\""
  | (_, .redirect _ _) :: _ => "redirection"
  | ts =>
    match keyword? ts with
    | some s => "\"" ++ s ++ "\""
    | none => "word"

/-- The mistake of a token that has no place. -/
def unexpected {α : Type} (ts : Tokens) (lastLine : Nat) (expected : String) :
    Except Mistake (α × Tokens) :=
  let line := ts.head?.elim lastLine (·.1)
  match ts with
  | (_, .broken why) :: _ => .error (line, why)
  | ts =>
    let hint := if expected.isEmpty then "" else " (expecting \"" ++ expected ++ "\")"
    .error (line, nameOf ts ++ " unexpected" ++ hint)

/-- Reads on after a reserved word, which has to come. -/
def expect (lastLine : Nat) (word : String) (ts : Tokens) : Except Mistake (Unit × Tokens) :=
  if keyword? ts = some word then .ok ((), ts.tail) else unexpected ts lastLine word

/-- The tokens without line ends at their front. -/
def skipLines (ts : Tokens) : Tokens :=
  ts.dropWhile fun t => t.2 == .sign "\n"

/-- The name and the value of a setting. -/
def setting? (w : Word) : Option (String × Word) :=
  let name := w.takeWhile fun
    | Piece.text false [c] => c != '='
    | _ => false
  match plainWord? name, w.drop name.length with
  | some name, .text false ['='] :: value => if isName name.toList then some (name, value) else none
  | _, _ => none

/-- A simple command that is being read. -/
structure Simple where
  settings : List (String × Word) := []
  words : List Word := []
  sends : List Redirection := []

/-- The settings, words and redirections at the front. -/
def simple (lastLine : Nat) (soFar : Simple) : Tokens → Except Mistake (Simple × Tokens)
  | (line, .redirect number way) :: ts =>
    match ts with
    | (_, .word w) :: rest =>
      simple lastLine { soFar with sends := soFar.sends ++ [⟨number, way, w⟩] } rest
    | [] => unexpected [] (max line lastLine) ""
    | ts => unexpected ts lastLine ""
  | (_, .word w) :: ts =>
    match (if soFar.words.isEmpty then setting? w else none) with
    | some s => simple lastLine { soFar with settings := soFar.settings ++ [s] } ts
    | none => simple lastLine { soFar with words := soFar.words ++ [w] } ts
  | ts => .ok (soFar, ts)

/-- The words of a loop up to the end of its line. -/
def wordsAhead : Tokens → List Word × Tokens
  | (_, .word w) :: ts =>
    let (ws, rest) := wordsAhead ts
    (w :: ws, rest)
  | ts => ([], ts)

/-- The further branches of a condition. The counter bounds them. -/
def branches (lastLine : Nat) (list : Tokens → Except Mistake (Script × Tokens)) :
    (fuel : Nat) → Tokens → Except Mistake (Script × Tokens)
  | 0, ts => unexpected ts lastLine "fi"
  | fuel + 1, ts =>
    match keyword? ts with
    | some "elif" => do
      let (condition, ts) ← list ts.tail
      let ((), ts) ← expect lastLine "then" ts
      let (yes, ts) ← list ts
      let (no, ts) ← branches lastLine list fuel ts
      return (.choice condition yes no, ts)
    | some "else" => do
      let (no, ts) ← list ts.tail
      let ((), ts) ← expect lastLine "fi" ts
      return (no, ts)
    | _ => do
      let ((), ts) ← expect lastLine "fi" ts
      return (.empty, ts)

/-- A command, given how lists of commands and the commands inside it are read. -/
def commandWith (lastLine : Nat) (list inner : Tokens → Except Mistake (Script × Tokens))
    (ts : Tokens) : Except Mistake (Script × Tokens) := do
  let line := ts.head?.elim lastLine (·.1)
  let withSends (s : Script) (ts : Tokens) : Except Mistake (Script × Tokens) := do
    let sends := ts.takeWhile fun t =>
      match t.2 with
      | .redirect _ _ => true
      | _ => false
    if sends.isEmpty then return (s, ts)
    else
      let (found, ts) ← simple lastLine {} ts
      if found.words.isEmpty && found.settings.isEmpty then return (.sent line s found.sends, ts)
      else unexpected ((line, .word []) :: ts) lastLine ""
  match keyword? ts, ts with
  | some "if", _ => do
    let (condition, ts) ← list ts.tail
    let ((), ts) ← expect lastLine "then" ts
    let (yes, ts) ← list ts
    let (no, ts) ← branches lastLine list ts.length ts
    withSends (.choice condition yes no) ts
  | some "while", _ => do
    let (condition, ts) ← list ts.tail
    let ((), ts) ← expect lastLine "do" ts
    let (body, ts) ← list ts
    let ((), ts) ← expect lastLine "done" ts
    withSends (.loop true condition body) ts
  | some "until", _ => do
    let (condition, ts) ← list ts.tail
    let ((), ts) ← expect lastLine "do" ts
    let (body, ts) ← list ts
    let ((), ts) ← expect lastLine "done" ts
    withSends (.loop false condition body) ts
  | some "for", _ => do
    let (name, ts) ← match ts.tail with
      | (_, .word w) :: rest =>
        match plainWord? w with
        | some name =>
          if isName name.toList then Except.ok (name, rest)
          else .error (line, "Bad for loop variable")
        | none => .error (line, "Bad for loop variable")
      | _ => .error (line, "Bad for loop variable")
    let ts := skipLines ts
    let (words, ts) := if keyword? ts = some "in" then wordsAhead ts.tail
      else ([[Piece.value true "@" []]], ts)
    let ts := match ts with
      | (_, .sign ";") :: rest => rest
      | ts => ts
    let ((), ts) ← expect lastLine "do" (skipLines ts)
    let (body, ts) ← list ts
    let ((), ts) ← expect lastLine "done" ts
    withSends (.each line name words body) ts
  | some "\x7b", _ => do
    let (s, ts) ← list ts.tail
    let ((), ts) ← expect lastLine "\x7d" ts
    withSends s ts
  | some _, ts => unexpected ts lastLine ""
  | none, (_, .sign "(") :: rest => do
    let (s, ts) ← list rest
    match ts with
    | (_, .sign ")") :: rest => withSends (.apart s) rest
    | ts => unexpected ts lastLine ")"
  | none, ts => do
    let (found, rest) ← simple lastLine {} ts
    if rest.length = ts.length then unexpected ts lastLine ""
    else
      match found.words, rest with
      | [w], (_, .sign "(") :: after =>
        match after, plainWord? w with
        | (_, .sign ")") :: body, some name =>
          if isName name.toList then do
            let (body, ts) ← inner (skipLines body)
            return (.named name body, ts)
          else .error (line, "Bad function name")
        | (_, .sign ")") :: _, none => .error (line, "Bad function name")
        | after, _ => unexpected after lastLine ")"
      | _, _ => return (.simple line found.settings found.words found.sends, rest)

/-- A command, given how lists of commands are read. The counter bounds the names that it is
given. -/
def command (lastLine : Nat) (list : Tokens → Except Mistake (Script × Tokens)) :
    (fuel : Nat) → Tokens → Except Mistake (Script × Tokens)
  | 0, ts => unexpected ts lastLine ""
  | fuel + 1, ts => commandWith lastLine list (command lastLine list fuel) ts

/-- Commands joined by pipes. The counter bounds them. -/
def pipes (lastLine : Nat) (list : Tokens → Except Mistake (Script × Tokens)) :
    (fuel : Nat) → Tokens → Except Mistake (Script × Tokens)
  | 0, ts => unexpected ts lastLine ""
  | fuel + 1, ts => do
    let (first, ts) ← command lastLine list (ts.length + 1) ts
    match ts with
    | (_, .sign "|") :: rest =>
      let (second, ts) ← pipes lastLine list fuel (skipLines rest)
      return (.pipe first second, ts)
    | ts => return (first, ts)

/-- A pipeline, with its outcome turned round or not. -/
def pipeline (lastLine : Nat) (list : Tokens → Except Mistake (Script × Tokens)) (ts : Tokens) :
    Except Mistake (Script × Tokens) :=
  if keyword? ts = some "!" then do
    let (s, ts) ← pipes lastLine list ts.length ts.tail
    return (.negated s, ts)
  else pipes lastLine list (ts.length + 1) ts

/-- Pipelines that depend on the one before. The counter bounds them. -/
def chain (lastLine : Nat) (list : Tokens → Except Mistake (Script × Tokens)) :
    (fuel : Nat) → (first : Script) → Tokens → Except Mistake (Script × Tokens)
  | 0, first, ts => .ok (first, ts)
  | fuel + 1, first, ts =>
    match ts with
    | (_, .sign "&&") :: rest => do
      let (second, ts) ← pipeline lastLine list (skipLines rest)
      chain lastLine list fuel (.both first second) ts
    | (_, .sign "||") :: rest => do
      let (second, ts) ← pipeline lastLine list (skipLines rest)
      chain lastLine list fuel (.either first second) ts
    | ts => .ok (first, ts)

/-- Whether the tokens go on with what can only close a list. -/
def closesList (ts : Tokens) : Bool :=
  match keyword? ts, ts with
  | some s, _ => ["\x7d", "do", "done", "elif", "else", "esac", "fi", "then"].contains s
  | none, (_, .sign s) :: _ => s == ")" || s == ";;"
  | _, _ => false

/-- A list of commands: those of a line, or those up to what closes the list. The counter bounds
it. -/
def list (lastLine : Nat) :
    (fuel : Nat) → (ofLine started : Bool) → Tokens → Except Mistake (Script × Tokens)
  | 0, _, _, ts => .ok (.empty, ts)
  | fuel + 1, ofLine, started, ts => do
    let ts := if ofLine then ts else skipLines ts
    match ts with
    | [] => return (.empty, [])
    | (_, .sign "\n") :: rest => return (.empty, rest)
    | ts =>
      if started && closesList ts && !ofLine then return (.empty, ts)
      else
        let nested := list lastLine fuel false false
        let (first, ts) ← pipeline lastLine nested ts
        let (first, ts) ← chain lastLine nested ts.length first ts
        match ts with
        | (_, .sign "&") :: rest => do
          let (more, ts) ← list lastLine fuel ofLine true rest
          return (.seq (.background first) more, ts)
        | (_, .sign ";") :: rest => do
          let (more, ts) ← list lastLine fuel ofLine true rest
          return (.seq first more, ts)
        | (_, .sign "\n") :: _ => do
          let (more, ts) ← list lastLine fuel ofLine true ts
          return (.seq first more, ts)
        | [] => return (first, [])
        | ts => if ofLine then unexpected ts lastLine "" else return (first, ts)

/-- The commands of the next line and the tokens after it. -/
def nextCommand (lastLine : Nat) (ts : Tokens) : Except Mistake (Script × Tokens) :=
  list lastLine (ts.length + 1) true false ts

end Arcade.Console
