import Chip8.Colour
import Chip8.Dialect
import Chip8.Text.DecimalDigit
import Chip8.Text.Quoted

/-!
# Tokens of a command line

An argument is a plain word, the separator `--`, an option or something that only looks like one. A
long option may be cut short as long as it stays unambiguous, and its value may follow an equals
sign in the same argument. Behind the separator every argument is a plain word.
-/

namespace Chip8.CommandLine

open Text

/-- The options of the command. -/
inductive Flag where
  | help
  | clockRate
  | scale
  | colour
  | dialect
  | debug
  deriving DecidableEq, Repr

/-- The ways in which options are written, in the order in which they are offered. -/
def flagNames : List (String × Flag) :=
  [("-h", .help), ("--help", .help), ("--hz", .clockRate), ("--scale", .scale),
    ("--color", .colour), ("--quirks", .dialect), ("--debug", .debug)]

/-- An option as messages call it: all its names. -/
def Flag.name (flag : Flag) : String :=
  "/".intercalate ((flagNames.filter fun f => f.2 == flag).map Prod.fst)

/-- The values that an option offers, if it offers a choice. -/
def Flag.choices : Flag → Option (List String)
  | .colour => some (Palette.foregrounds.map Prod.fst)
  | .dialect => some Dialect.names
  | _ => none

/-- Whether an option takes a value. -/
def Flag.takesValue : Flag → Bool
  | .help | .debug => false
  | _ => true

/-- A value written in the same argument as its option. -/
inductive Attached where
  /-- Behind an equals sign. -/
  | joined (value : List Char)
  /-- Right behind a short option. -/
  | clustered (value : List Char)
  deriving DecidableEq, Repr

/-- The characters of an attached value. -/
def Attached.value : Attached → List Char
  | .joined value => value
  | .clustered value => value

/-- A value behind an equals sign. Behind the short name of an option it counts as written right
behind the name, unless it is empty. -/
def Attached.behindEquals (name value : List Char) : Attached :=
  if name.length = 2 && !value.isEmpty then .clustered value else .joined value

/-- What an argument is. -/
inductive Token where
  | plain (text : String)
  | separator
  /-- An option that takes no value. -/
  | switch (flag : Flag) (attached : Option Attached)
  /-- An option that takes a value. -/
  | valued (flag : Flag) (attached : Option Attached)
  /-- What looks like an option and is none. -/
  | unknown (text : String)
  deriving DecidableEq, Repr

/-- The ways in which a command line is wrong. -/
inductive UsageError where
  /-- An option is cut too short. -/
  | ambiguous (text : String) (names : List String)
  /-- An option without a value is given one. -/
  | ignoredValue (flag : Flag) (value : String)
  /-- An option lacks its value. -/
  | missingValue (flag : Flag)
  /-- The value is no whole number. -/
  | notWhole (flag : Flag) (value : String)
  /-- The value is none of those offered. -/
  | notOffered (flag : Flag) (value : String)
  /-- No program is named. -/
  | missingProgram
  /-- Some arguments have no meaning. -/
  | unrecognized (texts : List String)
  deriving DecidableEq, Repr

/-- What is wrong with an option. -/
def Flag.complaint (flag : Flag) (text : String) : String :=
  s!"argument {flag.name}: {text}"

/-- The error in words. -/
def UsageError.message : UsageError → String
  | .ambiguous text names => s!"ambiguous option: {text} could match " ++ ", ".intercalate names
  | .ignoredValue flag value => flag.complaint s!"ignored explicit argument {quoted value}"
  | .missingValue flag => flag.complaint "expected one argument"
  | .notWhole flag value => flag.complaint s!"invalid int value: {quoted value}"
  | .notOffered flag value =>
    let offered := ", ".intercalate ((flag.choices.getD []).map quoted)
    flag.complaint s!"invalid choice: {quoted value} (choose from {offered})"
  | .missingProgram => "the following arguments are required: rom"
  | .unrecognized texts => "unrecognized arguments: " ++ " ".intercalate texts

namespace Token

/-- An option with a value that may be attached to it. -/
def option (flag : Flag) (attached : Option Attached) : Token :=
  if flag.takesValue then .valued flag attached else .switch flag attached

/-- Whether a text is not empty and holds digits alone. -/
def isDigits (cs : List Char) : Bool :=
  !cs.isEmpty && cs.all fun c => (digitValue? c).isSome

/-- Whether a text is a minus sign and a number, perhaps with a fraction, perhaps at the end of a
line. -/
def isNegativeNumber (cs : List Char) : Bool :=
  match cs with
  | '-' :: rest =>
    let number := if rest.getLast? = some '\n' then rest.dropLast else rest
    let whole := number.takeWhile (· != '.')
    match number.dropWhile (· != '.') with
    | [] => isDigits whole
    | _ :: fraction => (whole.isEmpty || isDigits whole) && isDigits fraction
  | _ => false

/-- The part before the first equals sign, and the value behind it if there is one. -/
def splitValue (cs : List Char) : List Char × Option Attached :=
  match cs.dropWhile (· != '=') with
  | [] => (cs, none)
  | _ :: value =>
    let name := cs.takeWhile (· != '=')
    (name, some (.behindEquals name value))

/-- The options that an argument may stand for when no name equals it: for two dashes all names
that begin with it, for one dash the short name with a value right behind it. -/
def candidates (cs : List Char) : List (String × Token) :=
  if cs.take 2 = ['-', '-'] then
    let (start, attached) := splitValue cs
    (flagNames.filter fun f => start.isPrefixOf f.1.toList).map fun (name, flag) =>
      (name, option flag attached)
  else
    (flagNames.filter fun f => f.1.toList == cs.take 2).map fun (name, flag) =>
      (name, option flag (some (.clustered (cs.drop 2))))

/-- What an argument is that begins with a dash and has no value split off. -/
def ofDashed (text : String) : Except UsageError Token :=
  let cs := text.toList
  match candidates cs with
  | [(_, token)] => .ok token
  | [] =>
    if isNegativeNumber cs || cs.contains ' ' then .ok (.plain text) else .ok (.unknown text)
  | several => .error (.ambiguous text (several.map Prod.fst))

/-- What an argument is, the separator and all behind it apart. -/
def ofArgument (text : String) : Except UsageError Token :=
  let cs := text.toList
  if cs.head? != some '-' then .ok (.plain text)
  else
    match flagNames.lookup text with
    | some flag => .ok (option flag none)
    | none =>
      if cs = ['-'] then .ok (.plain text)
      else
        let (start, attached) := splitValue cs
        match attached, flagNames.lookup (String.ofList start) with
        | some a, some flag => .ok (option flag (some a))
        | _, _ => ofDashed text

/-- What all arguments are. -/
def ofArguments : List String → Except UsageError (List Token)
  | [] => .ok []
  | text :: rest =>
    if text = "--" then .ok (.separator :: rest.map .plain)
    else do
      let token ← ofArgument text
      let tokens ← ofArguments rest
      return token :: tokens

end Token

end Chip8.CommandLine
