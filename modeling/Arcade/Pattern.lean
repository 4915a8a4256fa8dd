import Arcade.Text.Word
import Arcade.Text.Blank
/-!
# Patterns

Patterns describe pieces of text, and matching prefers: an earlier start over a later one, the first
alternative over the second, one more repetition over stopping. A `Place` splits a text in two, so
that edges can look at both sides of where they stand.

* `Pattern` is the syntax, with helpers for literals, sequences and choices;
* `Pattern.from?` tries a pattern at a place and hands each end, in order of preference, to a
  continuation until that is content;
* `find?` is the first match in a text, `findAll` the matches one after the other.

A match is the pair of places where it starts and ends.
-/

namespace Arcade

open Text (isWord isBlank)

/-- A place in a text: the characters before it, nearest first, and the characters after it. -/
structure Place where
  before : List Char
  after : List Char
  deriving DecidableEq, Repr

namespace Place

/-- The place before the first character. -/
def start (cs : List Char) : Place := ⟨[], cs⟩

/-- How many bytes lie before the place, in UTF-8. -/
def offset (p : Place) : Nat :=
  p.before.foldr (fun c n => c.utf8Size + n) 0

/-- Whether a word begins or ends here. -/
def atWordEdge (p : Place) : Bool :=
  p.before.head?.any isWord != p.after.head?.any isWord

/-- Whether a line begins here. -/
def atLineStart (p : Place) : Bool :=
  p.before.head?.all (· == '\n')

end Place

/-- A description of pieces of text. -/
inductive Pattern where
  /-- nothing -/
  | empty
  /-- one character that is accepted -/
  | one (accepts : Char → Bool)
  /-- as many accepted characters as possible, or fewer -/
  | run (accepts : Char → Bool)
  /-- all accepted characters ahead, and never fewer -/
  | span (accepts : Char → Bool)
  /-- one piece, then another -/
  | seq (first second : Pattern)
  /-- one piece, or else another -/
  | alt (first second : Pattern)
  /-- as many pieces as possible, or fewer -/
  | many (piece : Pattern)
  /-- where a word begins or ends -/
  | wordEdge
  /-- where a line begins -/
  | lineStart

namespace Pattern

variable {β : Type}

/-- A run of accepted characters, then the continuation, the longest run first. -/
def runThen (accepts : Char → Bool) (k : Place → Option β) :
    (before after : List Char) → Option β
  | before, [] => k ⟨before, []⟩
  | before, c :: rest =>
    if accepts c then
      match runThen accepts k (c :: before) rest with
      | some b => some b
      | none => k ⟨before, c :: rest⟩
    else k ⟨before, c :: rest⟩

/-- The place after all accepted characters ahead. -/
def passed (accepts : Char → Bool) : (before after : List Char) → Place
  | before, [] => ⟨before, []⟩
  | before, c :: rest =>
    if accepts c then passed accepts (c :: before) rest else ⟨before, c :: rest⟩

/-- Repeated steps, then the continuation, the most steps first. A step takes at least a character,
so the text ahead bounds their number. -/
def manyThen (step : (Place → Option β) → Place → Option β) (k : Place → Option β) :
    (ahead : List Char) → Place → Option β
  | [], p => k p
  | _ :: ahead, p =>
    match step (manyThen step k ahead) p with
    | some b => some b
    | none => k p

/-- Tries a pattern at a place, and the continuation at each of its ends until that has a result. -/
def from? : Pattern → (Place → Option β) → Place → Option β
  | .empty, k, p => k p
  | .one accepts, k, p =>
    match p.after with
    | [] => none
    | c :: rest => if accepts c then k ⟨c :: p.before, rest⟩ else none
  | .run accepts, k, p => runThen accepts k p.before p.after
  | .span accepts, k, p => k (passed accepts p.before p.after)
  | .seq first second, k, p => first.from? (second.from? k) p
  | .alt first second, k, p =>
    match first.from? k p with
    | some b => some b
    | none => second.from? k p
  | .many piece, k, p => manyThen piece.from? k p.after p
  | .wordEdge, k, p => if p.atWordEdge then k p else none
  | .lineStart, k, p => if p.atLineStart then k p else none

/-- The preferred end of a match that starts at the given place. -/
def endAt? (pattern : Pattern) (p : Place) : Option Place :=
  pattern.from? some p

/-- The first match at or after a place. -/
def findFrom? (pattern : Pattern) : (before after : List Char) → Option (Place × Place)
  | before, [] => (pattern.endAt? ⟨before, []⟩).map (⟨before, []⟩, ·)
  | before, c :: rest =>
    match pattern.endAt? ⟨before, c :: rest⟩ with
    | some e => some (⟨before, c :: rest⟩, e)
    | none => findFrom? pattern (c :: before) rest

/-- The first match in a text. -/
def find? (pattern : Pattern) (cs : List Char) : Option (Place × Place) :=
  pattern.findFrom? [] cs

/-- Whether a pattern matches somewhere in a text. -/
def isIn (pattern : Pattern) (cs : List Char) : Bool :=
  (pattern.find? cs).isSome

/-- The matches from a place on, each beginning where the one before it ended or later. After an
empty match the search goes on one character further. The counter bounds the matches. -/
def findAllFrom (pattern : Pattern) : Nat → Place → List (Place × Place)
  | 0, _ => []
  | n + 1, p =>
    match pattern.findFrom? p.before p.after with
    | none => []
    | some (s, e) =>
      if e.after == s.after then
        match e.after with
        | [] => [(s, e)]
        | c :: rest => (s, e) :: findAllFrom pattern n ⟨c :: e.before, rest⟩
      else (s, e) :: findAllFrom pattern n e

/-- All matches in a text, from left to right, none overlapping another. -/
def findAll (pattern : Pattern) (cs : List Char) : List (Place × Place) :=
  pattern.findAllFrom (cs.length + 1) (.start cs)

/-! ### Writing patterns -/

/-- These characters. -/
def chars : List Char → Pattern
  | [] => .empty
  | c :: rest => .seq (.one (· == c)) (chars rest)

/-- This text. -/
def lit (s : String) : Pattern :=
  chars s.toList

/-- One piece after the other. -/
def all : List Pattern → Pattern
  | [] => .empty
  | [p] => p
  | p :: rest => .seq p (all rest)

/-- The first piece that leads to a match. -/
def any : List Pattern → Pattern
  | [] => .one (fun _ => false)
  | [p] => p
  | p :: rest => .alt p (any rest)

/-- One of these texts, earlier ones first. -/
def anyLit (texts : List String) : Pattern :=
  any (texts.map lit)

/-- A piece, or nothing if that does not lead to a match. -/
def opt (p : Pattern) : Pattern :=
  .alt p .empty

/-- One of these characters. -/
def oneOf (s : String) : Pattern :=
  .one (s.toList.contains ·)

/-- White space, or nothing. All of it is taken: what follows in a pattern never begins with white
space, so taking less would lead to no further match. -/
def blanks : Pattern :=
  .span isBlank

/-- White space. -/
def blanks1 : Pattern :=
  .seq (.one isBlank) blanks

/-- A word: an edge, these characters, an edge. -/
def wholeWord (p : Pattern) : Pattern :=
  all [.wordEdge, p, .wordEdge]

end Pattern

end Arcade
