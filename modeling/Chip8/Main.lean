import Chip8.Chance
import Chip8.CommandLine.Script
import Chip8.CommandLine.Session

/-!
# The command

Runs the command in a terminal. Each line of standard input holds the events of one frame, and the
end of the input closes the window.
-/

namespace Chip8

/-- The file tree as far as a path is concerned. -/
def readTree (path : Path) : IO Files := do
  try
    let bytes ← IO.FS.readBinFile path.text
    return (Files.write {} path bytes.toList).files
  catch
    | .noFileOrDirectory .. => return {}
    | _ => return (Files.makeDirectory {} path).files

/-- The remaining lines of a stream. -/
partial def readLines (input : IO.FS.Stream) (past : List String) : IO (List String) := do
  let line ← input.getLine
  if line.isEmpty then return past.reverse
  readLines input (line :: past)

/-- What the command finds when it is about to play. -/
def surroundings (path : Path) : IO CommandLine.Surroundings := do
  let lines ← readLines (← IO.getStdin) []
  let seed ← IO.rand 0 0xFFFFFFFF
  return {
    files := ← readTree path
    debugVariable := ← IO.getEnv "CHIP8_DEBUG"
    device := .error "no audio device"
    chance := Chance.byte (UInt64.ofNat seed)
    batches := lines.map CommandLine.eventsOfLine }

/-- What the command finds when it starts. -/
def surroundingsOf (arguments : List String) : IO CommandLine.Surroundings :=
  match CommandLine.parse arguments with
  | .ok (.play options) => surroundings options.program
  | _ => return {}

end Chip8

/-- Runs the command and ends as its session ends. -/
def main (arguments : List String) : IO UInt32 := do
  let session := Chip8.CommandLine.run (← Chip8.surroundingsOf arguments) arguments
  IO.print session.output
  IO.eprint session.errors
  match session.exit with
  | .normal => return 0
  | .code code => return UInt32.ofNat code
  | .message text =>
    IO.eprintln text
    return 1
  | .failure failure =>
    IO.eprintln failure.message
    return 1
