/-!
# Taking comments out

What a submission implements is judged by its text without comments. Comments are `//` to the end
of the line and `/*` to the next `*/`; inside single, double and backward quotes they are text, and
a backslash there keeps the next character from ending the text. Line ends inside comments stay, so
lines keep their numbers.

`strip` reads the text once, in one of the modes of `Mode`.
-/

namespace Arcade.Submission

/-- What the reader of a source is in the middle of. -/
inductive Mode where
  /-- ordinary text -/
  | code
  /-- a text that the given quote ends -/
  | quoted (quote : Char)
  /-- the character after a backslash in such a text -/
  | escaped (quote : Char)
  /-- a comment up to the end of the line -/
  | lineComment
  /-- a comment up to its closing mark; the flag tells that a star was read last -/
  | blockComment (star : Bool)
  deriving DecidableEq, Repr

/-- The characters that begin and end a text. -/
def isQuote (c : Char) : Bool :=
  c == '"' || c == '\'' || c == Char.ofNat 0x60

/-- The source without its comments, from a mode on. -/
def strip : Mode → List Char → List Char
  | _, [] => []
  | .code, '/' :: '/' :: rest => strip .lineComment rest
  | .code, '/' :: '*' :: rest => strip (.blockComment false) rest
  | .code, c :: rest => if isQuote c then c :: strip (.quoted c) rest else c :: strip .code rest
  | .quoted q, c :: rest =>
    if c = '\\' then c :: strip (.escaped q) rest
    else if c = q then c :: strip .code rest
    else c :: strip (.quoted q) rest
  | .escaped q, c :: rest => c :: strip (.quoted q) rest
  | .lineComment, c :: rest =>
    if c = '\n' then c :: strip .code rest else strip .lineComment rest
  | .blockComment star, c :: rest =>
    if c = '\n' then c :: strip (.blockComment false) rest
    else if star && c == '/' then strip .code rest
    else strip (.blockComment (c == '*')) rest

/-- A source without its comments. -/
def stripComments (source : String) : String :=
  String.ofList (strip .code source.toList)

end Arcade.Submission
