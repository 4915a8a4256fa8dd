import Arcade.Text.Blank
import Arcade.Text.Bytes
/-!
# Toolchains

A toolchain turns a reviewed source into the bytes that are run. It may be built in or a program of
the host; what it does with a source is all that a build knows of it.

`Toolchain.command` is a toolchain that hands the source to a program on its standard input and
takes what it writes. How programs run is given by a `CommandHost`.
-/

namespace Arcade.Build

/-- What a toolchain has made of a source. -/
structure Product where
  bytes : Bytes
  /-- which parts of the bytes come from where in the source -/
  sourceMap : Option String := none
  deriving DecidableEq, Repr

/-- Why a toolchain has made nothing. -/
inductive ToolFault where
  /-- the program could not be started -/
  | notRun (program reason : String)
  /-- the program has failed -/
  | failed (program status stderr : String)
  /-- the program has written nothing -/
  | noOutput (program : String)
  deriving DecidableEq, Repr

def ToolFault.message : ToolFault → String
  | .notRun program reason => "failed to run " ++ program ++ ": " ++ reason
  | .failed program status stderr => program ++ " exited with " ++ status ++ ": " ++ stderr
  | .noOutput program => program ++ " produced no output"

/-- A toolchain, under the name that its products carry. -/
structure Toolchain where
  name : String
  build : (source : String) → Except ToolFault Product

/-! ### Programs -/

/-- How a program has ended. -/
inductive Ending where
  /-- by itself, with a status -/
  | exited (status : Nat)
  /-- by a signal -/
  | killed (signal : Nat)
  deriving DecidableEq, Repr

/-- The names of the signals from 1 on. -/
def signalNames : List String := [
  "HUP", "INT", "QUIT", "ILL", "TRAP", "ABRT", "BUS", "FPE", "KILL", "USR1", "SEGV", "USR2", "PIPE",
  "ALRM", "TERM", "STKFLT", "CHLD", "CONT", "STOP", "TSTP", "TTIN", "TTOU", "URG", "XCPU", "XFSZ",
  "VTALRM", "PROF", "WINCH", "IO", "PWR", "SYS"]

/-- The name of a signal, if it has one. -/
def signalName? (signal : Nat) : Option String :=
  if signal = 0 then none else signalNames[signal - 1]?

def Ending.text : Ending → String
  | .exited status => "exit status: " ++ toString status
  | .killed signal =>
    "signal: " ++ toString signal ++
      match signalName? signal with
      | some name => " (SIG" ++ name ++ ")"
      | none => ""

/-- How a program has ended, and what it has written. -/
structure Exit where
  ending : Ending := .exited 0
  output : Bytes := []
  errors : Bytes := []
  deriving DecidableEq, Repr

/-- Why a program has not been started. -/
inductive StartFault where
  /-- there is no such file -/
  | missing
  /-- the file is not one that may be run -/
  | forbidden
  /-- the path goes on below a file -/
  | notDirectory
  /-- the name is longer than names may be -/
  | longName
  /-- the program or an argument has a zero byte -/
  | zeroByte
  deriving DecidableEq, Repr

def StartFault.message : StartFault → String
  | .missing => "No such file or directory (os error 2)"
  | .forbidden => "Permission denied (os error 13)"
  | .notDirectory => "Not a directory (os error 20)"
  | .longName => "File name too long (os error 36)"
  | .zeroByte => "nul byte found in provided data"

/-- What becomes of a program that is run with some arguments and an input. -/
abbrev CommandHost :=
  (program : String) → (arguments : List String) → (input : Bytes) → Except StartFault Exit

/-- Whether a text may be handed to a program: texts for programs end at a zero byte. -/
def isSendable (s : String) : Bool :=
  !s.toList.contains '\x00'

/-- Starts a program, unless the program or an argument cannot be written down for it. -/
def start (host : CommandHost) (program : String) (arguments : List String) (input : Bytes) :
    Except StartFault Exit :=
  if (program :: arguments).all isSendable then host program arguments input
  else .error .zeroByte

/-- What a program that has ended gives to a build. -/
def productOf (program : String) (exit : Exit) : Except ToolFault Product :=
  if exit.ending ≠ .exited 0 then
    .error (.failed program exit.ending.text (Text.trim (Bytes.toTextLossy exit.errors)))
  else if exit.output.isEmpty then .error (.noOutput program)
  else .ok { bytes := exit.output }

/-- The toolchain that runs a program of the host. -/
def Toolchain.command (host : CommandHost) (program : String) (arguments : List String) :
    Toolchain where
  name := program
  build source :=
    match start host program arguments (Bytes.ofText source) with
    | .error fault => .error (.notRun program fault.message)
    | .ok exit => productOf program exit

end Arcade.Build
