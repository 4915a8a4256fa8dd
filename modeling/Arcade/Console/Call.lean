import Arcade.Dict
import Arcade.Text.Bytes
import Arcade.Text.Word
/-!
# Calls of programs

What the programs of the bare host are given and what they leave behind. Programs work on bytes, so
the texts in these modules have one character for each byte: `byteText` spreads a text out, and
`bytesOf` collects the bytes again.

* `Files` are the files that there are, `Call` is one run of a program, `Done` its outcome;
* `Manual.read` sorts the arguments of a call into options and operands.
-/

namespace Arcade.Console

/-! ### Texts of bytes -/

/-- The text with a character for each of these bytes. -/
def textOf (b : Bytes) : String :=
  String.ofList (b.map fun x => Char.ofNat x.toNat)

/-- The bytes that the characters of a text stand for. -/
def bytesOf (s : String) : Bytes :=
  s.toList.map fun c => UInt8.ofNat c.toNat

/-- A text spread out into its UTF-8 bytes. -/
def byteText (s : String) : String :=
  textOf (Bytes.ofText s)

/-- The number that decimal digits write; there has to be one at least. -/
def numeral? (cs : List Char) : Option Nat :=
  if cs.isEmpty || !cs.all Text.isAsciiDigit then none
  else some (cs.foldl (fun n c => 10 * n + (c.toNat - 48)) 0)

/-- The number with an optional sign that a text writes. -/
def integer? (s : String) : Option Int :=
  match s.toList with
  | '-' :: cs => (numeral? cs).map fun n => -Int.ofNat n
  | '+' :: cs => (numeral? cs).map Int.ofNat
  | cs => (numeral? cs).map Int.ofNat

/-- A text moved to the right end of a field. -/
def padLeft (width : Nat) (s : String) (filler : Char) : String :=
  String.ofList (List.replicate (width - s.length) filler) ++ s

/-- The lines of some bytes, each with its newline; the last one may lack it. -/
def linesOf (b : Bytes) : List Bytes :=
  b.foldr
    (fun x lines =>
      if x = 10 then [x] :: lines
      else
        match lines with
        | [] => [[x]]
        | line :: rest => (x :: line) :: rest)
    []

/-- A line without its newline. -/
def bareLine (line : Bytes) : Bytes :=
  if line.getLast? = some 10 then line.dropLast else line

/-- The pieces between the occurrences of a separator. -/
def pieces {α : Type} [BEq α] (separator : α) (xs : List α) : List (List α) :=
  xs.foldr
    (fun x pieces =>
      if x == separator then [] :: pieces
      else
        match pieces with
        | [] => [[x]]
        | piece :: rest => (x :: piece) :: rest)
    [[]]

/-! ### Files -/

/-- The files that have been written. -/
abbrev Files := Dict Bytes

/-- Why a file cannot be used. -/
inductive FileFault where
  | missing
  | directory
  deriving DecidableEq, Repr

def FileFault.message : FileFault → String
  | .missing => "No such file or directory"
  | .directory => "Is a directory"

/-- The directories of the host. -/
def directories : List String := [
  "/", "/bin", "/boot", "/dev", "/dev/fd", "/dev/pts", "/dev/shm", "/etc", "/etc/apt",
  "/etc/default", "/etc/ssl", "/home", "/lib", "/lib64", "/media", "/mnt", "/opt", "/proc",
  "/proc/self", "/root", "/run", "/sbin", "/srv", "/sys", "/tmp", "/usr", "/usr/bin",
  "/usr/games", "/usr/include", "/usr/lib", "/usr/local", "/usr/local/bin", "/usr/local/lib",
  "/usr/local/sbin", "/usr/local/share", "/usr/sbin", "/usr/share", "/usr/src", "/var",
  "/var/cache", "/var/lib", "/var/log", "/var/run", "/var/spool", "/var/tmp"]

/-- The names of a path that lead on from a directory, the last one first. -/
def climb : (above : List (List Char)) → List (List Char) → List (List Char)
  | above, [] => above
  | above, name :: rest =>
    if name.isEmpty || name == ['.'] then climb above rest
    else if name == ['.', '.'] then climb above.tail rest
    else climb (name :: above) rest

/-- A path from the root written in the shortest way. -/
def plainPath (path : String) : String :=
  match (climb [] (pieces '/' path.toList)).reverse with
  | [] => "/"
  | names => String.ofList (names.flatMap fun name => '/' :: name)

/-- Whether a path leads to a directory. -/
def isDirectory (path : String) : Bool :=
  if path.startsWith "/" then directories.contains (plainPath path)
  else [".", "..", "./", "../"].contains path

namespace Files

/-- The content of a file. -/
def read (files : Files) (path : String) : Except FileFault Bytes :=
  if path = "/dev/null" then .ok []
  else
    match files.get? path with
    | some b => .ok b
    | none => .error (if isDirectory path then .directory else .missing)

/-- The directory that a file lies in. -/
def folderOf (path : String) : String :=
  match path.toList.reverse.dropWhile (· != '/') with
  | [] => "."
  | cs => String.ofList cs.reverse

/-- Gives a file a new content. -/
def write (files : Files) (path : String) (b : Bytes) : Except FileFault Files :=
  if path = "/dev/null" then .ok files
  else if isDirectory path then .error .directory
  else if path.isEmpty || !isDirectory (folderOf path) then .error .missing
  else .ok (files.insert path b)

end Files

/-! ### Calls -/

/-- What a program is run on. -/
structure Call where
  program : String
  arguments : List String := []
  input : Bytes := []
  files : Files := []

/-- What has become of a call. -/
structure Done where
  status : Nat := 0
  output : Bytes := []
  errors : Bytes := []
  /-- what the program has left of its input -/
  left : Bytes := []
  files : Files := []

namespace Call

/-- The outcome of a call that has read its whole input and written some output. -/
def wrote (c : Call) (output : Bytes) (status : Nat := 0) : Done where
  status := status
  output := output
  files := c.files

/-- The outcome of a call that has failed with a complaint, without reading any input. -/
def refuse (c : Call) (complaint : String) (status : Nat := 1) : Done where
  status := status
  errors := bytesOf (c.program ++ ": " ++ complaint ++ "\n")
  left := c.input
  files := c.files

/-- A complaint about how a program is used. -/
def misused (c : Call) (complaint : String) (status : Nat := 1) : Done :=
  c.refuse (complaint ++ "\nTry '" ++ c.program ++ " --help' for more information.") status

/-- Whether an operand stands for the input. -/
def isInput (operand : String) : Bool :=
  operand == "-" || operand == "/dev/stdin" || operand == "/dev/fd/0"
    || operand == "/proc/self/fd/0"

/-- The operands with what is read for each: the input if there are none. The input can be read
once. -/
def sources (c : Call) : (operands : List String) → (input : Bytes) →
    List (String × Except FileFault Bytes)
  | [], _ => []
  | file :: rest, input =>
    if isInput file then (file, .ok input) :: sources c rest []
    else (file, c.files.read file) :: sources c rest input

/-- What is read for the operands, in one piece, and the complaints about the others. -/
def gather (c : Call) (operands : List String) (complain : String → FileFault → String) :
    Bytes × Bytes :=
  (c.sources (if operands.isEmpty then ["-"] else operands) c.input).foldl
    (fun (text, errors) (file, content) =>
      match content with
      | .ok b => (text ++ b, errors)
      | .error fault => (text, errors ++ bytesOf (complain file fault ++ "\n")))
    ([], [])

/-- The usual complaint about a file. -/
def plainComplaint (c : Call) (file : String) (fault : FileFault) : String :=
  c.program ++ ": " ++ file ++ ": " ++ fault.message

/-- The outcome of a program that makes its output from all that it reads. -/
def filter (c : Call) (operands : List String) (complain : String → FileFault → String)
    (work : Bytes → Bytes) (failed : Nat := 1) : Done :=
  let (text, errors) := c.gather operands complain
  { status := if errors.isEmpty then 0 else failed
    output := work text
    errors := errors
    left := if operands.isEmpty || operands.any isInput then [] else c.input
    files := c.files }

end Call

/-! ### Options -/

/-- The options of a program. -/
structure Manual where
  /-- the letters of options without a value -/
  flags : String := ""
  /-- the letters of options with a value -/
  valued : String := ""
  /-- the long names of letters -/
  names : List (String × Char) := []
  /-- the status after a wrong option -/
  failed : Nat := 1

/-- Arguments in order: the options with their values, and the operands. -/
structure Arguments where
  options : List (Char × String) := []
  operands : List String := []

namespace Arguments

/-- Whether an option is given. -/
def has (a : Arguments) (letter : Char) : Bool :=
  a.options.any fun o => o.1 == letter

/-- The value of an option: the last one counts. -/
def value? (a : Arguments) (letter : Char) : Option String :=
  (a.options.filter fun o => o.1 == letter).getLast?.map (·.2)

end Arguments

namespace Manual

/-- The options of one argument, from its letters on; and whether it takes the next argument as a
value. -/
def letters (m : Manual) (next : Option String) :
    List Char → Except String (List (Char × String) × Bool)
  | [] => .ok ([], false)
  | c :: cs =>
    if m.valued.toList.contains c then
      if !cs.isEmpty then .ok ([(c, String.ofList cs)], false)
      else
        match next with
        | some value => .ok ([(c, value)], true)
        | none => .error ("option requires an argument -- '" ++ c.toString ++ "'")
    else if m.flags.toList.contains c then
      match m.letters next cs with
      | .ok (more, takesNext) => .ok ((c, "") :: more, takesNext)
      | .error e => .error e
    else .error ("invalid option -- '" ++ c.toString ++ "'")

/-- The option of an argument with a long name. -/
def long (m : Manual) (argument : List Char) (next : Option String) :
    Except String (List (Char × String) × Bool) :=
  let name := String.ofList (argument.takeWhile (· != '='))
  match m.names.find? (fun n => n.1 == name), argument.dropWhile (· != '=') with
  | none, _ => .error ("unrecognized option '--" ++ name ++ "'")
  | some (_, c), '=' :: value => .ok ([(c, String.ofList value)], false)
  | some (_, c), _ =>
    if !m.valued.toList.contains c then .ok ([(c, "")], false)
    else
      match next with
      | some value => .ok ([(c, value)], true)
      | none => .error ("option '--" ++ name ++ "' requires an argument")

/-- Sorts arguments into options and operands. The counter bounds the arguments. -/
def sort (m : Manual) : (fuel : Nat) → List String → Except String Arguments
  | 0, _ => .ok {}
  | _, [] => .ok {}
  | fuel + 1, a :: rest =>
    match a.toList with
    | ['-', '-'] => .ok { operands := rest }
    | '-' :: c :: cs =>
      let read := if c = '-' then m.long cs rest.head? else m.letters rest.head? (c :: cs)
      match read with
      | .error e => .error e
      | .ok (options, takesNext) =>
        match m.sort fuel (if takesNext then rest.tail else rest) with
        | .error e => .error e
        | .ok more => .ok { more with options := options ++ more.options }
    | _ =>
      match m.sort fuel rest with
      | .error e => .error e
      | .ok more => .ok { more with operands := a :: more.operands }

/-- Goes on with the sorted arguments of a call, unless there is an unknown option. -/
def read (m : Manual) (c : Call) (go : Arguments → Done) : Done :=
  match m.sort c.arguments.length c.arguments with
  | .ok arguments => go arguments
  | .error complaint => c.misused complaint m.failed

end Manual

end Arcade.Console
