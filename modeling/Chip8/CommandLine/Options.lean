import Chip8.CommandLine.Token
import Chip8.Config
import Chip8.Files.Path
import Chip8.Text.Numeral

/-!
# Options of a command line

Options may stand anywhere and the last one of a kind counts. The first plain word that is no
option's value names the program; what is left over is an error, but a missing program is the
greater one.
-/

namespace Chip8.CommandLine

open Text

/-- What a command line asks for. -/
structure Options where
  program : Path
  request : Request := {}
  deriving DecidableEq, Repr

/-- The two things to do. -/
inductive Invocation where
  | showHelp
  | play (options : Options)
  deriving DecidableEq, Repr

/-- What has been read of a command line. -/
structure Reading where
  program : Option String := none
  request : Request := {}
  /-- The arguments without a meaning, newest first. -/
  leftOver : List String := []

/-- The characters behind a short option without a value. Each has to be the same option again; from
the first that is not, they are a value that the option does not take. -/
def cluster (flag : Flag) : List Char → Except UsageError Unit
  | [] => .ok ()
  | c :: rest =>
    if flagNames.lookup (String.ofList ['-', c]) = some flag then cluster flag rest
    else .error (.ignoredValue flag (String.ofList (c :: rest)))

/-- Refuses a value where an option takes none. -/
def refuseValue (flag : Flag) : Option Attached → Except UsageError Unit
  | none => .ok ()
  | some (.joined value) => .error (.ignoredValue flag (String.ofList value))
  | some (.clustered value) => cluster flag value

/-- The number that the value of an option denotes. -/
def wholeValue (flag : Flag) (value : String) : Except UsageError Int :=
  match numeral? value with
  | some n => .ok n
  | none => .error (.notWhole flag value)

/-- The value of an option, which has to be one of those offered. -/
def offeredValue (flag : Flag) (value : String) : Except UsageError String :=
  if (flag.choices.getD []).contains value then .ok value else .error (.notOffered flag value)

/-- The request with the value of an option entered. -/
def enter (r : Request) (flag : Flag) (value : String) : Except UsageError Request :=
  match flag with
  | .clockRate => (wholeValue flag value).map fun n => { r with clockRate := some n }
  | .scale => (wholeValue flag value).map fun n => { r with scale := some n }
  | .colour => (offeredValue flag value).map fun name => { r with colour := some name }
  | .dialect => (offeredValue flag value).map fun name => { r with dialect := some name }
  | .help | .debug => .ok r

/-- The request with an option left blank. -/
def leaveBlank (r : Request) : Flag → Request
  | .clockRate => { r with clockRate := none }
  | .scale => { r with scale := none }
  | .colour => { r with colour := none }
  | .dialect => { r with dialect := none }
  | .help | .debug => r

/-- The request with an attached value of an option entered. A separator in place of the value
leaves the option blank. -/
def enterAttached (r : Request) (flag : Flag) (attached : Attached) : Except UsageError Request :=
  if attached.value = ['-', '-'] then .ok (leaveBlank r flag)
  else enter r flag (String.ofList attached.value)

/-- What the command line asks for when all of it has been read. -/
def conclude (r : Reading) : Except UsageError Invocation :=
  match r.program with
  | none => .error .missingProgram
  | some program =>
    if r.leftOver.isEmpty then
      .ok (.play { program := Path.ofString program, request := r.request })
    else .error (.unrecognized r.leftOver.reverse)

/-- Reads tokens from left to right. A request for help ends the reading. `named` says whether the
last token was the plain word that names the program: a separator right behind it, or right before
it, is part of it. -/
def read (named : Bool) (r : Reading) : List Token → Except UsageError Invocation
  | [] => conclude r
  | .plain text :: rest =>
    match r.program with
    | none => read true { r with program := some text } rest
    | some _ => read false { r with leftOver := text :: r.leftOver } rest
  | .separator :: rest =>
    if named || (r.program.isNone && !rest.isEmpty) then read false r rest
    else read false { r with leftOver := "--" :: r.leftOver } rest
  | .unknown text :: rest => read false { r with leftOver := text :: r.leftOver } rest
  | .switch flag attached :: rest =>
    match refuseValue flag attached with
    | .error e => .error e
    | .ok () =>
      if flag = .help then .ok .showHelp
      else read false { r with request := { r.request with debug := true } } rest
  | .valued flag (some attached) :: rest =>
    match enterAttached r.request flag attached with
    | .error e => .error e
    | .ok request => read false { r with request := request } rest
  | .valued flag none :: .plain value :: rest =>
    match enter r.request flag value with
    | .error e => .error e
    | .ok request => read false { r with request := request } rest
  | .valued flag none :: _ => .error (.missingValue flag)

/-- What the arguments of a command line ask for. -/
def parse (arguments : List String) : Except UsageError Invocation := do
  read false {} (← Token.ofArguments arguments)

end Chip8.CommandLine
