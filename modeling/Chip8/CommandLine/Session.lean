import Chip8.CommandLine.Options
import Chip8.CommandLine.Usage
import Chip8.Host.Basic

/-!
# Sessions

A run of the command from its arguments to its end: what it prints, what it does to the window and
the sound device, and how it ends.
-/

namespace Chip8.CommandLine

/-- What the command has no answer to. -/
inductive Failure where
  | config (error : ConfigError)
  | start (error : StartError)
  | load (error : LoadError)
  deriving DecidableEq, Repr

/-- The failure in words. -/
def Failure.message : Failure → String
  | .config e => e.message
  | .start e => e.message
  | .load e => e.message

/-- How the command ends. -/
inductive Exit where
  | normal
  | code (code : Nat)
  /-- It gives up with a message. -/
  | message (text : String)
  /-- It breaks off. -/
  | failure (failure : Failure)
  deriving DecidableEq, Repr

/-- What the command finds when it starts. -/
structure Surroundings where
  files : Files := {}
  /-- The value of the variable that asks for debugging, if it is set. -/
  debugVariable : Option String := none
  /-- The sound device, or the reason for which there is none. -/
  device : Except String Unit := .ok ()
  chance : Nat → UInt8 := fun _ => 0
  /-- The name under which the host reports. -/
  hostName : String := "meowchip.frontend"
  /-- The events of the frames to come. -/
  batches : List (List Event) := []

/-- What a session amounts to. -/
structure Session where
  exit : Exit
  output : String := ""
  /-- What is printed as errors but for the log. -/
  complaint : String := ""
  /-- The least important level that the log shows. -/
  threshold : Level := .info
  hostName : String := "meowchip.frontend"
  effects : List Effect := []

namespace Session

/-- A report as a line of the log. -/
def logLine (hostName : String) (r : Report) : String :=
  s!"[{r.level.name}] {r.reporter.name hostName}: {r.text}\n"

/-- The line of the log for an effect, if it is a report that matters enough. -/
def logged (threshold : Level) (hostName : String) : Effect → Option String
  | .report r => if r.level.reaches threshold then some (logLine hostName r) else none
  | _ => none

/-- All that is printed as errors. -/
def errors (s : Session) : String :=
  s.complaint ++ String.join (s.effects.filterMap (logged s.threshold s.hostName))

end Session

/-- The end of a session whose command line is wrong. -/
def refuse (e : UsageError) : Session where
  exit := .code 2
  complaint := s!"{usage}meowchip: error: {e.message}\n"

/-- The end of a session that cannot load its program: the window is closed, and the session ends
with a message. A path that cannot be one breaks it off. -/
def giveUp (session : Session) (program : Path) (effects : List Effect) (e : LoadError) : Session :=
  match e with
  | .file ⟨.nameHoldsNul, _⟩ => { session with exit := .failure (.load e), effects := effects }
  | _ =>
    { session with
      exit := .message s!"meowchip: cannot load {program.text}: {e.message}"
      effects := effects ++ [.close] }

/-- How the command ends when it cannot make its settings: with a message, unless one is blank or
the colour is unknown. -/
def exitOfConfig (e : ConfigError) : Exit :=
  match e with
  | .rateNotPositive | .scaleNotPositive | .unknownDialect _ => .message s!"meowchip: {e.message}"
  | _ => .failure (.config e)

/-- Loads the program and runs the main loop. -/
def playOn (around : Surroundings) (program : Path) (session : Session) (started : Turn) :
    Session :=
  let loaded := started.andThen fun host => host.load around.files program
  match loaded.failure with
  | some e => giveUp session program loaded.effects e
  | none =>
    let ended := loaded.andThen (Host.run around.files around.batches)
    { session with
      exit := (ended.failure.map fun e => Exit.failure (.load e)).getD .normal
      effects := ended.effects }

/-- Starts the host, loads the program and runs the main loop. -/
def play (around : Surroundings) (options : Options) (config : Config) : Session :=
  let session : Session := {
    exit := .normal
    output := controls
    threshold := if config.debug then .debug else .info
    hostName := around.hostName }
  match Host.start config around.chance around.device with
  | .error e => { session with exit := .failure (.start e) }
  | .ok started => playOn around options.program session started

/-- Runs the command. -/
def run (around : Surroundings) (arguments : List String) : Session :=
  match parse arguments with
  | .error e => refuse e
  | .ok .showHelp => { exit := .code 0, output := help }
  | .ok (.play options) =>
    match Config.ofRequest options.request around.debugVariable with
    | .error e => { exit := exitOfConfig e }
    | .ok config => play around options config

end Chip8.CommandLine
