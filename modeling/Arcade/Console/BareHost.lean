import Arcade.Console.Shell
/-!
# A bare host

A host with a shell and a handful of small programs, on which toolchains that run commands can be
tried out. It has no files but those that scripts write, and nothing in it depends on time, place
or chance.

`startFault?` says which programs cannot be started and why, `bareHost` is the host.
-/

namespace Arcade.Console

open Build (Exit CommandHost StartFault)

/-- How many bytes a name may have, and how many a path. -/
def longestName : Nat := 255
def longestPath : Nat := 4095

/-- The paths that lead to a path, from the front. -/
def pathsAbove (path : String) : List String :=
  let cs := path.toList
  (cs.zipIdx.filter fun c => c.1 == '/').filterMap fun (_, i) =>
    if i = 0 then none else some (String.ofList (cs.take i))

/-- Whether a path leads to something that is not a directory. -/
def isPlainFile (path : String) : Bool :=
  plainFiles.contains path || (path.toList.contains '/' && plainName path != path && isProgram path)

/-- The last name of a path. -/
def lastName (path : String) : List Char :=
  (path.toList.reverse.takeWhile (· != '/')).reverse

/-- Why a path cannot be looked up or run, if so: the first of the paths above it that is not a
directory decides. -/
def pathFault? (path : String) : Option StartFault :=
  let whole := if path.toList.getLast? = some '/' then [] else [path]
  match (pathsAbove path ++ whole).find? fun p => !isDirectory p with
  | none => some .forbidden
  | some p =>
    if p ≠ path && isPlainFile p then some .notDirectory
    else if plainFiles.contains p then some .forbidden
    else if p = path && plainName p ≠ p && isProgram p then none
    else if longestName < (lastName p).length then some .longName
    else some .missing

/-- Why a program cannot be started, if so. A name without a slash is looked up where programs are;
anything else is a path. -/
def startFault? (program : String) : Option StartFault :=
  if program.isEmpty then some .missing
  else if program.toList.contains '/' then
    if longestPath < program.length then some .longName else pathFault? program
  else if longestName < program.length then some .longName
  else if program = "." || program = ".." then some .forbidden
  else if isProgram program then none
  else some .missing

/-- How deep the steps of a script may nest. -/
def deepest : Nat := 10000

/-- The bare host. -/
def bareHost : CommandHost := fun program arguments input =>
  let program := byteText program
  let arguments := arguments.map byteText
  match startFault? program with
  | some fault => .error fault
  | none =>
    let sh : Shell := { title := program, channels := [input, [], []] }
    let after :=
      if shellNames.contains (plainName program) then startShell (run deepest) program arguments sh
      else runProgram (run deepest) program arguments sh
    .ok {
      ending := match after.flow with
        | .killed _ signal => .killed signal
        | .exited status => .exited status
        | .returned status => .exited status
        | _ => .exited after.status
      output := (after.channels[1]?).getD []
      errors := (after.channels[2]?).getD [] }

end Arcade.Console
