import Arcade.Build.Toolchain
import Arcade.Console.Format
import Arcade.Console.LineEdits
import Arcade.Console.Script
import Arcade.Console.Sum
/-!
# The shell

Runs scripts. What a script reads and writes are channels: lists of bytes, of which the first three
are what comes in, what goes out and what is complained. A stream of the shell leads to a channel,
to a file or nowhere, and a pipe is a channel between two commands, filled by the first before the
second runs.

* `Shell` is the state, `Shell.flow` says whether commands go on;
* `evalWith` is one step of running, given how the parts of a script are run;
* `run` ties the knot with a counter that bounds how deep the steps nest.
-/

namespace Arcade.Console

/-! ### State -/

/-- Where a stream leads. -/
inductive Stream where
  | channel (n : Nat)
  | file (path : String)
  | nowhere
  deriving DecidableEq, Repr

/-- Whether the commands of a script go on. -/
inductive Flow where
  | running
  | exited (status : Nat)
  /-- the process with a number has been ended by a signal -/
  | killed (process signal : Nat)
  /-- the command that was given a name has ended -/
  | returned (status : Nat)
  /-- so many loops are left -/
  | leaving (loops : Nat)
  /-- so many loops are left, and the one around them goes on -/
  | again (loops : Nat)
  deriving DecidableEq, Repr

/-- A shell that runs a script. -/
structure Shell where
  title : String := "sh"
  process : Nat := 1
  line : Nat := 1
  arguments : List String := []
  values : Dict String := []
  exported : List String := []
  /-- commands that have been given names -/
  functions : List (String × Script) := []
  /-- what is run on signals, and at the end under zero -/
  traps : List (Nat × String) := []
  streams : List (Nat × Stream) := [(0, .channel 0), (1, .channel 1), (2, .channel 2)]
  status : Nat := 0
  flow : Flow := .running
  /-- a command that fails ends the script -/
  strict : Bool := false
  /-- the outcome of the command is being looked at -/
  tested : Bool := false
  /-- how many loops are around the command -/
  loops : Nat := 0
  folder : String := ""
  channels : List Bytes := [[], [], []]
  files : Files := []

/-- How scripts are run. -/
abbrev Runner := Script → Shell → Shell

namespace Shell

/-- Where the stream with a number leads. -/
def stream? (sh : Shell) (number : Nat) : Option Stream :=
  (sh.streams.find? fun s => s.1 == number).map (·.2)

/-- Lets the stream with a number lead somewhere, or closes it. -/
def direct (sh : Shell) (number : Nat) (stream : Option Stream) : Shell :=
  let others := sh.streams.filter fun s => s.1 != number
  { sh with streams := (stream.map fun s => (number, s)).toList ++ others }

/-- Adds a channel with some bytes, under the number that comes with the new state. -/
def addChannel (sh : Shell) (b : Bytes) : Nat × Shell :=
  (sh.channels.length, { sh with channels := sh.channels ++ [b] })

/-- Writes to the stream with a number. -/
def write (sh : Shell) (number : Nat) (b : Bytes) : Shell :=
  match sh.stream? number with
  | some (.channel n) => { sh with channels := sh.channels.modify n (· ++ b) }
  | some (.file path) =>
    { sh with files := sh.files.insert path (((sh.files.get? path).getD []) ++ b) }
  | some .nowhere => sh
  | none => sh

/-- What there is to be read. -/
def input (sh : Shell) : Bytes :=
  match sh.stream? 0 with
  | some (.channel n) => (sh.channels[n]?).getD []
  | some (.file path) => (sh.files.get? path).getD []
  | _ => []

/-- Leaves only a part of what there is to be read. -/
def leave (sh : Shell) (b : Bytes) : Shell :=
  match sh.stream? 0 with
  | some (.channel n) => { sh with channels := sh.channels.set n b }
  | _ => sh

/-- Sets the status of the last command. -/
def answer (sh : Shell) (status : Nat) : Shell :=
  { sh with status := status }

/-- Complains and goes on with a status. -/
def complain (sh : Shell) (complaint : String) (status : Nat) : Shell :=
  (sh.write 2 (bytesOf (sh.title ++ ": " ++ toString sh.line ++ ": " ++ complaint ++ "\n"))).answer
    status

/-- Ends the script with a status. -/
def exit (sh : Shell) (status : Nat) : Shell :=
  { sh with status := status, flow := .exited status }

/-- Complains and ends the script. -/
def abort (sh : Shell) (complaint : String) (status : Nat := 2) : Shell :=
  (sh.complain complaint status).exit status

/-- What a command may not change is put back. -/
def keepOnly (sh after : Shell) : Shell :=
  { sh with channels := after.channels, files := after.files, status := after.status }

/-- Runs something in a copy of the shell, which has the same process number. -/
def within (sh : Shell) (go : Shell → Shell) : Shell :=
  let after := go sh
  let kept := sh.keepOnly after
  match after.flow with
  | .exited status => { kept with status := status }
  | .returned status => { kept with status := status }
  | .killed process signal => { kept with flow := .killed process signal }
  | _ => kept

/-- Runs something whose outcome is looked at. -/
def testing (sh : Shell) (go : Shell → Shell) : Shell :=
  { go { sh with tested := true } with tested := sh.tested }

/-- A failure ends a strict shell unless it is looked at. -/
def settle (sh : Shell) : Shell :=
  if sh.strict && !sh.tested && sh.status != 0 && sh.flow == .running then sh.exit sh.status else sh

/-- The value under a name. -/
def value (sh : Shell) (name : String) : String :=
  match name.toList with
  | ['?'] => toString sh.status
  | ['$'] => toString sh.process
  | ['#'] => toString sh.arguments.length
  | ['@'] => String.intercalate " " sh.arguments
  | ['*'] => String.intercalate " " sh.arguments
  | ['0'] => sh.title
  | cs =>
    match numeral? cs with
    | some n => if n = 0 then sh.title else (sh.arguments[n - 1]?).getD ""
    | none => (sh.values.get? name).getD ""

/-- Puts a value under a name. -/
def assign (sh : Shell) (name value : String) : Shell :=
  { sh with values := sh.values.insert name value }

end Shell

/-! ### Texts as scripts -/

/-- Runs the commands of a text line by line. The counter bounds the lines. -/
def runLines (run : Runner) (lastLine : Nat) : (fuel : Nat) → Tokens → Shell → Shell
  | 0, _, sh => sh
  | fuel + 1, ts, sh =>
    if sh.flow ≠ .running then sh
    else
      match skipLines ts with
      | [] => sh
      | ts =>
        match nextCommand lastLine ts with
        | .ok (script, rest) => runLines run lastLine fuel rest (run script sh)
        | .error (line, mistake) => { sh with line := line }.abort ("Syntax error: " ++ mistake)

/-- Runs a text. -/
def runText (run : Runner) (text : List Char) (sh : Shell) : Shell :=
  let ts := tokens text
  runLines run (1 + text.count '\n') (ts.length + 1) ts sh

/-! ### Words -/

/-- The words that a word stands for, while it is being put together. -/
structure Fields where
  /-- the words that are finished, in reverse -/
  finished : List String := []
  current : Option (List Char) := none

/-- Adds characters to the word at hand. -/
def Fields.add (f : Fields) (cs : List Char) : Fields :=
  { f with current := some (f.current.getD [] ++ cs) }

/-- Finishes the word at hand. -/
def Fields.finish (f : Fields) : Fields :=
  match f.current with
  | some cs => { finished := String.ofList cs :: f.finished }
  | none => f

/-- Adds characters that are split at blanks. -/
def Fields.split (f : Fields) (cs : List Char) : Fields :=
  cs.foldl (fun f c => if c = ' ' || c = '\t' || c = '\n' then f.finish else f.add [c]) f

/-- Adds a value, split unless it is quoted. -/
def Fields.addValue (f : Fields) (quoted : Bool) (cs : List Char) : Fields :=
  if quoted then f.add cs else f.split cs

/-- What a script writes, without the newlines at its end. -/
def outputOf (run : Runner) (script : List Char) (sh : Shell) : List Char × Shell :=
  let (n, inner) := sh.addChannel []
  let after := sh.within fun _ => runText run script (inner.direct 1 (some (.channel n)))
  let written := ((after.channels[n]?).getD []).filter (· != 0)
  ((textOf (written.reverse.dropWhile (· == 10)).reverse).toList, after)

/-- The value of a sum; a sum that has none ends the script. -/
def sumOf (expression : List Char) (sh : Shell) : List Char × Shell :=
  let known (name : String) : Int := (integer? (sh.value name)).getD 0
  match Sum.value known expression with
  | .ok n => ((toString n).toList, sh)
  | .error .zeroDivision =>
    let text := String.ofList expression
    ([], sh.abort ("arithmetic expression: division by zero: \"" ++ text ++ "\""))
  | .error .unreadable =>
    let text := String.ofList expression
    ([], sh.abort ("arithmetic expression: expecting primary: \"" ++ text ++ "\""))

/-- Adds what a piece of a word stands for. -/
def expandPiece (run : Runner) (f : Fields) (sh : Shell) : Piece → Fields × Shell
  | .text _ cs => (f.add cs, sh)
  | .size name => (f.add (toString (sh.value name).length).toList, sh)
  | .value true "@" _ =>
    match sh.arguments with
    | [] => (f, sh)
    | a :: rest => (rest.foldl (fun f b => (f.finish).add b.toList) (f.add a.toList), sh)
  | .value quoted name instead =>
    let value := (sh.value name).toList
    (f.addValue quoted (if value.isEmpty then instead else value), sh)
  | .sum expression =>
    let (cs, sh) := sumOf expression sh
    (f.add cs, sh)
  | .output quoted script =>
    let (cs, sh) := outputOf run script sh
    (f.addValue quoted cs, sh)

/-- The words that a word stands for. -/
def expand (run : Runner) (w : Word) (sh : Shell) : List String × Shell :=
  let onlyArguments := w == [.text true [], .value true "@" []] && sh.arguments.isEmpty
  let (f, sh) := w.foldl (fun (f, sh) piece => expandPiece run f sh piece) (({} : Fields), sh)
  (if onlyArguments then [] else f.finish.finished.reverse, sh)

/-- The words that several words stand for. -/
def expandAll (run : Runner) (ws : List Word) (sh : Shell) : List String × Shell :=
  ws.foldl
    (fun (found, sh) w =>
      let (more, sh) := expand run w sh
      (found ++ more, sh))
    ([], sh)

/-- A word as one text. -/
def expandWhole (run : Runner) (w : Word) (sh : Shell) : String × Shell :=
  let (found, sh) := expand run (w.map fun
    | .value _ name instead => .value true name instead
    | .output _ script => .output true script
    | piece => piece) sh
  (String.intercalate " " found, sh)

/-! ### Redirections -/

/-- The stream that a path stands for. -/
def deviceStream? (path : String) : Option Nat :=
  if path = "/dev/stdin" then some 0
  else if path = "/dev/stdout" then some 1
  else if path = "/dev/stderr" then some 2
  else if path.startsWith "/dev/fd/" then numeral? (path.toList.drop 8)
  else none

/-- Makes one redirection; otherwise what is wrong. -/
def redirect (run : Runner) (sh : Shell) (r : Redirection) : Except String Shell × Shell :=
  let (path, sh) := expandWhole run r.target sh
  let made : Except String Shell :=
    match r.way with
    | .same =>
      if path = "-" then .ok (sh.direct r.number none)
      else
        match numeral? path.toList with
        | none => .error "Syntax error: Bad fd number"
        | some n =>
          match sh.stream? n with
          | some s => .ok (sh.direct r.number (some s))
          | none => .error (path ++ ": Bad file descriptor")
    | way =>
      match deviceStream? path, way with
      | some n, _ => .ok (sh.direct r.number (sh.stream? n))
      | none, .read =>
        if path = "/dev/null" || isDirectory path then .ok (sh.direct r.number (some .nowhere))
        else
          match sh.files.read path with
          | .error _ => .error ("cannot open " ++ path ++ ": No such file")
          | .ok b =>
            let (n, sh) := sh.addChannel b
            .ok (sh.direct r.number (some (.channel n)))
      | none, way =>
        if path = "/dev/null" then .ok (sh.direct r.number (some .nowhere))
        else
          let before := if way = .append then (sh.files.get? path).getD [] else []
          match sh.files.write path before with
          | .ok files => .ok ({ sh with files := files }.direct r.number (some (.file path)))
          | .error .directory => .error ("cannot create " ++ path ++ ": Is a directory")
          | .error .missing => .error ("cannot create " ++ path ++ ": Directory nonexistent")
  (made, sh)

/-- Makes redirections up to the first that cannot be made. -/
def redirectAll (run : Runner) : List Redirection → Shell → Except String Shell × Shell
  | [], sh => (.ok sh, sh)
  | r :: rest, sh =>
    match redirect run sh r with
    | (.error e, sh) => (.error e, sh)
    | (.ok sh, _) => redirectAll run rest sh

/-! ### Tests -/

/-- Whether a file is there. -/
def fileExists (sh : Shell) (path : String) : Bool :=
  path == "/dev/null" || isDirectory path || (sh.files.get? path).isSome

/-- A test of one text. -/
def testOne (sh : Shell) (operator operand : String) : Option Bool :=
  match operator with
  | "-n" => some (!operand.isEmpty)
  | "-z" => some operand.isEmpty
  | "-e" => some (fileExists sh operand)
  | "-r" => some (fileExists sh operand)
  | "-w" => some (fileExists sh operand)
  | "-x" => some (isDirectory operand)
  | "-d" => some (isDirectory operand)
  | "-f" => some (sh.files.get? operand).isSome
  | "-s" => some !((sh.files.get? operand).getD []).isEmpty
  | "-t" => some false
  | _ => none

/-- A test of two texts; a complaint if one has to be a number and is none. -/
def testTwo (left operator right : String) : Option (Except String Bool) :=
  let numbers (relation : Int → Int → Bool) : Option (Except String Bool) :=
    match integer? left, integer? right with
    | some x, some y => some (.ok (relation x y))
    | none, _ => some (.error ("Illegal number: " ++ left))
    | _, none => some (.error ("Illegal number: " ++ right))
  match operator with
  | "=" => some (.ok (left == right))
  | "==" => none
  | "!=" => some (.ok (left != right))
  | "-eq" => numbers (· == ·)
  | "-ne" => numbers (· != ·)
  | "-lt" => numbers (· < ·)
  | "-le" => numbers (· ≤ ·)
  | "-gt" => numbers (· > ·)
  | "-ge" => numbers (· ≥ ·)
  | _ => none

/-- The outcome of a test of some words. The counter bounds the words. -/
def test (sh : Shell) : (fuel : Nat) → List String → Except String Bool
  | 0, _ => .ok false
  | _, [] => .ok false
  | _, [a] => .ok (!a.isEmpty)
  | fuel + 1, words =>
    let split (sign : String) : Option (List String × List String) :=
      match words.dropWhile (· != sign) with
      | _ :: after => some (words.takeWhile (· != sign), after)
      | [] => none
    match words with
    | [a, operator, b] =>
      match testTwo a operator b with
      | some r => r
      | none => if a = "!" then (test sh fuel [operator, b]).map (!·)
        else .error (operator ++ ": unexpected operator")
    | words =>
      match split "-o", split "-a" with
      | some (a, b), _ =>
        match test sh fuel a, test sh fuel b with
        | .ok x, .ok y => .ok (x || y)
        | .error e, _ => .error e
        | _, .error e => .error e
      | none, some (a, b) =>
        match test sh fuel a, test sh fuel b with
        | .ok x, .ok y => .ok (x && y)
        | .error e, _ => .error e
        | _, .error e => .error e
      | none, none =>
        match words with
        | "!" :: rest => (test sh fuel rest).map (!·)
        | [operator, a] =>
          match testOne sh operator a with
          | some r => .ok r
          | none => .error (operator ++ ": unexpected operator")
        | a :: _ => .error (a ++ ": unexpected operator")
        | [] => .ok false

/-! ### Signals -/

/-- The number of a signal, written as a number or as a name in either case. One signal has no name
in scripts. -/
def signal? (s : String) : Option Nat :=
  match numeral? s.toList with
  | some n => if n ≤ 64 then some n else none
  | none =>
    let name := s.toList.map fun c => if 'a' ≤ c && c ≤ 'z' then Char.ofNat (c.toNat - 32) else c
    if name = "STKFLT".toList then none
    else (Build.signalNames.idxOf? (String.ofList name)).map (· + 1)

/-- Whether a signal that is not looked after ends a process. -/
def endsProcess (signal : Nat) : Bool :=
  !([0, 17, 18, 19, 20, 21, 22, 23, 28].contains signal)

/-- What a shell says of a command that a signal has ended. -/
def signalText (signal : Nat) : String :=
  let texts := [
    "Hangup", "", "Quit", "Illegal instruction", "Trace/breakpoint trap", "Aborted", "Bus error",
    "Floating point exception", "Killed", "User defined signal 1", "Segmentation fault",
    "User defined signal 2", "", "Alarm clock", "Terminated", "Stack fault"]
  (texts[signal - 1]?).getD ("Signal " ++ toString signal)

/-- Sets what is run on signals. -/
def trap (sh : Shell) (arguments : List String) : Shell :=
  let number (s : String) : Option Nat := if s = "EXIT" then some 0 else signal? s
  match arguments with
  | [] => sh.answer 0
  | action :: signals =>
    let numbers := signals.filterMap number
    let others := sh.traps.filter fun t => !numbers.contains t.1
    let set := if action = "-" then [] else numbers.map fun n => (n, action)
    { sh.answer 0 with traps := set ++ others }

/-- How `kill` is used. -/
def killUsage : String :=
  "Usage: kill [-s sigspec | -signum | -sigspec] [pid | job]... or\nkill -l [exitstatus]"

/-- What the shell does on a signal. -/
def receive (run : Runner) (sh : Shell) (signal : Nat) : Shell :=
  match (if signal = 9 then none else sh.traps.lookup signal) with
  | some action => (runText run action.toList sh).answer 0
  | none =>
    if endsProcess signal then { sh with flow := .killed sh.process signal } else sh.answer 0

/-- Sends a signal to processes. Only the shell itself is known. -/
def sendSignal (run : Runner) (sh : Shell) (signal : Nat) (processes : List String) : Shell :=
  match processes with
  | [] => sh.complain ("kill: " ++ killUsage) 2
  | _ =>
    processes.foldl
      (fun (sh : Shell) p =>
        match numeral? p.toList with
        | none => sh.complain ("kill: Illegal number: " ++ p) 2
        | some n =>
          if n ≠ sh.process then sh.complain "kill: No such process\n" 1
          else receive run sh signal)
      (sh.answer 0)

/-- The command `kill`. -/
def kill (run : Runner) (sh : Shell) (arguments : List String) : Shell :=
  match arguments with
  | "-s" :: name :: processes =>
    match signal? name with
    | some n => sendSignal run sh n processes
    | none => sh.complain ("kill: invalid signal number or name: " ++ name) 2
  | "--" :: processes => sendSignal run sh 15 processes
  | a :: processes =>
    match a.toList with
    | '-' :: c :: cs =>
      match signal? (String.ofList (c :: cs)) with
      | some n =>
        sendSignal run sh n (if processes.head? = some "--" then processes.tail else processes)
      | none => sh.complain ("kill: Illegal option -" ++ c.toString) 2
    | _ => sendSignal run sh 15 arguments
  | [] => sendSignal run sh 15 []

/-! ### Commands -/

/-- The shells by the names that they have. -/
def shellNames : List String := ["bash", "dash", "sh"]

/-- The programs by name, apart from shells. -/
def tools : List (String × (Call → Done)) :=
  filters ++ [
    ("echo", echo .alone), ("grep", grep), ("printf", printf .alone), ("sed", sed),
    ("false", fun c => { c.wrote [] 1 with left := c.input }),
    ("true", fun c => { c.wrote [] with left := c.input })]

/-- The name of a program without the directory that programs are in. -/
def plainName (program : String) : String :=
  let cs := program.toList
  if "/usr/bin/".toList.isPrefixOf cs then String.ofList (cs.drop 9)
  else if "/bin/".toList.isPrefixOf cs then String.ofList (cs.drop 5)
  else program

/-- Paths of files that are there but cannot be run. -/
def plainFiles : List String := [
  "/dev/full", "/dev/null", "/dev/random", "/dev/stderr", "/dev/stdin", "/dev/stdout", "/dev/tty",
  "/dev/urandom", "/dev/zero", "/etc/bash.bashrc", "/etc/debian_version", "/etc/environment",
  "/etc/fstab", "/etc/group", "/etc/host.conf", "/etc/hostname", "/etc/hosts", "/etc/issue",
  "/etc/ld.so.conf", "/etc/nsswitch.conf", "/etc/os-release", "/etc/passwd", "/etc/profile",
  "/etc/resolv.conf", "/etc/shadow", "/etc/shells", "/proc/cpuinfo", "/proc/meminfo",
  "/proc/version"]

/-- Runs a program on the streams of the shell. -/
def runTool (tool : Call → Done) (program : String) (arguments : List String) (sh : Shell) :
    Shell :=
  let call : Call := {
    program := program, arguments := arguments, input := sh.input, files := sh.files }
  let done := tool call
  let read := { sh with files := done.files }.leave done.left
  ((read.write 2 done.errors).write 1 done.output).answer done.status

/-- A shell with options before its script; nothing if there is an unknown one. -/
def shellOptions (strict : Bool) : List String → Except String (Bool × List String)
  | [] => .ok (strict, [])
  | a :: rest =>
    match a.toList with
    | '-' :: c :: cs =>
      match (c :: cs).find? fun x => !"ceuxs".toList.contains x with
      | some x => .error ("Illegal option -" ++ x.toString)
      | none =>
        let strict := strict || (c :: cs).contains 'e'
        if (c :: cs).contains 'c' then .ok (strict, "-c" :: rest) else shellOptions strict rest
    | _ => .ok (strict, a :: rest)

/-- Runs what a shell does at its end, if there is something. -/
def atEnd (run : Runner) (sh : Shell) : Shell :=
  let stopped : Option Nat := match sh.flow with
    | .killed _ _ => none
    | .exited status => some status
    | .returned status => some status
    | _ => some sh.status
  match stopped with
  | none => sh
  | some status =>
    match sh.traps.lookup 0 with
    | none => { sh with flow := .exited status }
    | some action =>
      let after := runText run action.toList { sh with flow := .running, traps := [] }
      if after.flow = .running then { after with flow := .exited status } else after

/-- Runs the script of a shell of its own. Without a script it runs what it reads. -/
def ownScript (run : Runner) (program : String) (arguments : List String) (sh : Shell) : Shell :=
  let inherited := sh.values.filter fun v => sh.exported.contains v.1
  let fresh : Shell := {
    title := program, values := inherited, exported := sh.exported, process := sh.process
    streams := sh.streams, channels := sh.channels, files := sh.files }
  match shellOptions false arguments with
  | .error complaint => { fresh with line := 0 }.abort complaint
  | .ok (_, ["-c"]) => { fresh with line := 0 }.abort "-c requires an argument"
  | .ok (strict, "-c" :: script :: rest) =>
    runText run script.toList
      { fresh with strict := strict, title := rest.headD program, arguments := rest.tail }
  | .ok (_, file :: _) =>
    match sh.files.read file with
    | .ok b => runText run (textOf b).toList { fresh with title := file }
    | .error _ => { fresh with line := 0 }.abort ("cannot open " ++ file ++ ": No such file")
  | .ok (strict, []) =>
    runText run (textOf fresh.input).toList { fresh.leave [] with strict := strict }

/-- Starts a shell of its own. -/
def startShell (run : Runner) (program : String) (arguments : List String) (sh : Shell) : Shell :=
  atEnd run (ownScript run program arguments sh)

/-- The state after a shell that was a process of its own. -/
def endShell (sh after : Shell) : Shell :=
  let kept := sh.keepOnly after
  match after.flow with
  | .killed process signal =>
    if process ≠ after.process then { kept with flow := .killed process signal }
    else
      let text := signalText signal
      (kept.write 2 (bytesOf (if text.isEmpty then "" else text ++ "\n"))).answer (128 + signal)
  | .exited status => kept.answer status
  | _ => kept

/-- Exports names, with new values if there are any. -/
def exportAll (sh : Shell) (arguments : List String) : Shell :=
  arguments.foldl
    (fun (sh : Shell) a =>
      let name := String.ofList (a.toList.takeWhile (· != '='))
      let sh := { sh with exported := name :: sh.exported }
      match a.toList.dropWhile (· != '=') with
      | _ :: value => sh.assign name (String.ofList value)
      | [] => sh)
    (sh.answer 0)

/-- Whether the host has a program. -/
def isProgram (program : String) : Bool :=
  let name := plainName program
  name == "env" || shellNames.contains name || (tools.lookup name).isSome

/-- Runs a program by its name, unless it is `env`. -/
def runNamed (run : Runner) (program : String) (arguments : List String) (sh : Shell) : Shell :=
  let name := plainName program
  if shellNames.contains name then
    endShell sh (startShell run program arguments { sh with process := sh.process + 1 })
  else
    match tools.lookup name with
    | some tool => runTool tool program arguments sh
    | none =>
      if program.isEmpty then sh.complain ": Permission denied" 127
      else if program.toList.contains '/'
          && (isDirectory program || plainFiles.contains program || fileExists sh program) then
        sh.complain (program ++ ": Permission denied") 126
      else sh.complain (program ++ ": not found") 127

/-- Runs a program by its name. The program `env` runs another one, with settings. -/
def runProgram (run : Runner) (program : String) (arguments : List String) (sh : Shell) : Shell :=
  if plainName program ≠ "env" then runNamed run program arguments sh
  else
    match arguments.dropWhile fun a => a.toList.contains '=' with
    | [] => sh.answer 0
    | inner :: rest =>
      if isProgram inner then
        let settings := arguments.takeWhile fun a => a.toList.contains '='
        sh.keepOnly (runNamed run inner rest (exportAll sh settings))
      else
        let complaint := program ++ ": '" ++ inner ++ "': No such file or directory\n"
        (sh.write 2 (bytesOf complaint)).answer 127

/-- Reads a line into variables. -/
def readLine (sh : Shell) (names : List String) : Shell :=
  let b := sh.input
  let line := b.takeWhile (· != 10)
  let sh := sh.leave (b.drop (line.length + 1))
  let isGap (c : Char) : Bool := c == ' ' || c == '\t'
  let rec fillIn (cs : List Char) (sh : Shell) : List String → Shell
    | [] => sh
    | [name] => sh.assign name (String.ofList (cs.reverse.dropWhile isGap).reverse)
    | name :: rest =>
      let word := cs.takeWhile fun c => !isGap c
      fillIn ((cs.drop word.length).dropWhile isGap) (sh.assign name (String.ofList word)) rest
  (fillIn ((textOf line).toList.dropWhile isGap) sh names).answer
    (if b.length = line.length then 1 else 0)

/-- The commands that end the shell when their redirections fail. -/
def specialCommands : List String := [
  ":", ".", "break", "continue", "eval", "exec", "exit", "export", "readonly", "return", "set",
  "shift", "trap", "unset"]

/-- The number that `exit` is given. -/
def exitStatus (sh : Shell) (command : String) (arguments : List String) : Except String Nat :=
  match arguments with
  | [] => .ok sh.status
  | a :: _ =>
    match integer? a with
    | some n =>
      if 0 ≤ n && n ≤ 2147483647 then .ok (n.toNat % 256)
      else .error (command ++ ": Illegal number: " ++ a)
    | none => .error (command ++ ": Illegal number: " ++ a)

/-- Sets options of the shell, or its arguments. -/
def setOptions (sh : Shell) (arguments : List String) : Shell :=
  match arguments with
  | "--" :: rest => { sh.answer 0 with arguments := rest }
  | a :: rest =>
    match a.toList with
    | '-' :: cs => { sh.answer 0 with strict := sh.strict || cs.contains 'e' }
    | '+' :: cs => { sh.answer 0 with strict := sh.strict && !cs.contains 'e' }
    | _ => { sh.answer 0 with arguments := a :: rest }
  | [] => sh.answer 0

/-- Runs a command that was given a name, with arguments of its own. -/
def callFunction (run : Runner) (body : Script) (arguments : List String) (sh : Shell) : Shell :=
  let after := run body { sh with arguments := arguments, loops := 0 }
  let after := { after with arguments := sh.arguments, loops := sh.loops }
  match after.flow with
  | .returned status => { after with status := status, flow := .running }
  | _ => after

/-- Runs a command of the shell or a program. -/
def performNamed (run : Runner) (words : List String) (sh : Shell) : Shell :=
  match words with
  | [] => sh
  | name :: arguments =>
    let asTool (tool : Call → Done) : Shell :=
      runTool tool (sh.title ++ ": " ++ toString sh.line ++ ": " ++ name) arguments sh
    let tested (words : List String) : Shell :=
      match test sh (words.length + 1) words with
      | .ok true => sh.answer 0
      | .ok false => sh.answer 1
      | .error e => sh.complain (name ++ ": " ++ e) 2
    let loops := (arguments.head?.bind fun a => numeral? a.toList).getD 1
    match name with
    | ":" => sh.answer 0
    | "true" => sh.answer 0
    | "false" => sh.answer 1
    | "echo" => asTool (echo .inScript)
    | "printf" => asTool (printf .inScript)
    | "test" => tested arguments
    | "[" =>
      if arguments.getLast? = some "]" then tested arguments.dropLast
      else sh.complain "[: missing ]" 2
    | "exit" =>
      match exitStatus sh name arguments with
      | .ok status => sh.exit status
      | .error e => sh.abort e
    | "return" =>
      match exitStatus sh name arguments with
      | .ok status => { sh with status := status, flow := .returned status }
      | .error e => sh.abort e
    | "break" =>
      if sh.loops = 0 then sh.answer 0
      else { sh.answer 0 with flow := .leaving (min loops sh.loops) }
    | "continue" =>
      if sh.loops = 0 then sh.answer 0
      else { sh.answer 0 with flow := .again (min loops sh.loops) }
    | "kill" => kill run sh arguments
    | "eval" => runText run (String.intercalate " " arguments).toList (sh.answer 0)
    | "exec" =>
      match arguments with
      | [] => sh.answer 0
      | program :: rest =>
        if shellNames.contains (plainName program) then
          let after := startShell run program rest sh
          let kept := sh.keepOnly after
          match after.flow with
          | .killed process signal => { kept with flow := .killed process signal }
          | _ => kept.exit (endShell sh after).status
        else if !isProgram program then
          sh.abort ("exec: " ++ program ++ ": not found") 127
        else
          let after := runProgram run program rest sh
          after.exit after.status
    | "command" => match arguments with
      | [] => sh.answer 0
      | program :: rest => runProgram run program rest sh
    | "read" => readLine sh (arguments.filter (· != "-r"))
    | "cd" =>
      match arguments with
      | folder :: _ =>
        if isDirectory folder then { sh.answer 0 with folder := plainPath folder }
        else sh.complain ("cd: can't cd to " ++ folder) 2
      | [] => { sh.answer 0 with folder := "/root" }
    | "pwd" => (sh.write 1 (bytesOf (sh.folder ++ "\n"))).answer 0
    | "export" => exportAll sh arguments
    | "unset" =>
      { sh.answer 0 with values := sh.values.filter fun v => !arguments.contains v.1 }
    | "set" => setOptions sh arguments
    | "shift" =>
      if sh.arguments.length < loops then sh.abort "shift: can't shift that many"
      else { sh.answer 0 with arguments := sh.arguments.drop loops }
    | "." => sh.abort (".: " ++ arguments.headD "" ++ ": not found")
    | "trap" => trap sh arguments
    | "umask" => sh.answer 0
    | "wait" => sh.answer 0
    | name => runProgram run name arguments sh

/-- Runs a command that has been put together. A name that was given to a command counts before all
others but those of special commands. -/
def perform (run : Runner) (words : List String) (sh : Shell) : Shell :=
  match words with
  | [] => sh
  | name :: arguments =>
    match (if specialCommands.contains name then none else sh.functions.lookup name) with
    | some body => callFunction run body arguments sh
    | none => performNamed run words sh

/-- Puts the values of settings under their names. -/
def assignAll (run : Runner) (settings : List (String × Word)) (sh : Shell) : Shell :=
  settings.foldl
    (fun (sh : Shell) (name, w) =>
      let (value, sh) := expandWhole run w sh
      sh.assign name value)
    sh

/-- Runs a simple command. Its settings last if it has no words, and its redirections if it is
`exec` alone. -/
def evalSimple (run : Runner) (settings : List (String × Word)) (words : List Word)
    (sends : List Redirection) (sh : Shell) : Shell :=
  let before := sh.status
  let (found, sh) := expandAll run words sh
  if sh.flow ≠ .running then sh
  else if found.isEmpty then
    match redirectAll run sends sh with
    | (.error e, after) => (sh.keepOnly after).complain e 2
    | (.ok after, _) =>
      let cleared := (sh.keepOnly after).answer (if words.isEmpty then 0 else after.status)
      assignAll run settings cleared
  else
    match redirectAll run sends { sh with status := before } with
    | (.error e, after) =>
      let kept := sh.keepOnly after
      if specialCommands.contains (found.headD "") then kept.abort e else kept.complain e 2
    | (.ok directed, _) =>
      let set := assignAll run settings directed
      let set := { set with exported := settings.map (·.1) ++ set.exported, status := before }
      let after := perform run found set
      if found = ["exec"] then { after with exported := sh.exported }
      else
        let values := if settings.isEmpty then after.values
          else settings.foldl (fun vs (name, _) =>
            match sh.values.get? name with
            | some v => vs.insert name v
            | none => vs.filter fun entry => entry.1 != name) after.values
        { after with
          streams := sh.streams
          values := values
          exported := if settings.isEmpty then after.exported else sh.exported }

/-- The state after the body of a loop, and whether the loop goes on. -/
def afterBody (sh : Shell) : Shell × Bool :=
  match sh.flow with
  | .leaving n => ({ sh with flow := if n ≤ 1 then .running else .leaving (n - 1) }, false)
  | .again n =>
    if n ≤ 1 then ({ sh with flow := .running }, true)
    else ({ sh with flow := .again (n - 1) }, false)
  | .running => (sh, true)
  | _ => (sh, false)

/-- Runs a body for each of some words. -/
def evalEach (run : Runner) (name : String) (body : Script) : List String → Shell → Shell
  | [], sh => sh
  | w :: rest, sh =>
    match afterBody (run body (sh.assign name w)) with
    | (sh, true) => evalEach run name body rest sh
    | (sh, false) => sh

/-- Runs a script, given how its parts are run. -/
def evalWith (run : Runner) (script : Script) (sh : Shell) : Shell :=
  if sh.flow ≠ .running then sh
  else
    match script with
    | .empty => sh
    | .simple line settings words sends =>
      (evalSimple run settings words sends { sh with line := line }).settle
    | .seq a b => run b (run a sh)
    | .both a b =>
      let sh := sh.testing (run a)
      if sh.status = 0 then run b sh else sh
    | .either a b =>
      let sh := sh.testing (run a)
      if sh.status = 0 then sh else run b sh
    | .negated a =>
      let sh := sh.testing (run a)
      if sh.flow = .running then sh.answer (if sh.status = 0 then 1 else 0) else sh
    | .pipe a b =>
      let (n, opened) := sh.addChannel []
      let filled := opened.within fun s => run a (s.direct 1 (some (.channel n)))
      let emptied := filled.within fun s =>
        run b ({ s with status := sh.status }.direct 0 (some (.channel n)))
      emptied.settle
    | .background a =>
      (sh.within fun s => run a (s.direct 0 (some .nowhere))).answer 0
    | .apart a => (sh.within (run a)).settle
    | .sent line a sends =>
      match redirectAll run sends { sh with line := line } with
      | (.error e, after) => (sh.keepOnly after).complain e 2
      | (.ok directed, _) => { run a directed with streams := sh.streams }
    | .choice condition yes no =>
      let sh := sh.testing (run condition)
      if sh.flow ≠ .running then sh
      else if sh.status = 0 then run yes sh
      else run no (sh.answer 0)
    | .loop whileOk condition body =>
      let sh := sh.testing (run condition)
      if sh.flow ≠ .running then sh
      else if (sh.status == 0) != whileOk then sh.answer 0
      else
        match afterBody (run body { sh with loops := sh.loops + 1 }) with
        | (after, true) => run (.loop whileOk condition body) { after with loops := sh.loops }
        | (after, false) => { after with loops := sh.loops }
    | .each line name words body =>
      let (found, sh) := expandAll run words { sh with line := line }
      let after := evalEach run name body found { sh.answer 0 with loops := sh.loops + 1 }
      { after with loops := sh.loops }
    | .named name body => { sh.answer 0 with functions := (name, body) :: sh.functions }

/-- Runs a script. The counter bounds how deep its steps nest. -/
def run : (fuel : Nat) → Runner
  | 0 => fun _ sh => sh
  | fuel + 1 => evalWith (run fuel)

end Arcade.Console
