import Chip8.Host.Event

/-!
# Scripts of events

The events of a frame as a line of words: a plus sign and a key code for a key that goes down, a
minus sign and a key code for one that goes up, and `quit` to close the window. Other words stand
for events of no interest.
-/

namespace Chip8.CommandLine

/-- The event that a word stands for. -/
def eventOfWord (word : String) : Event :=
  if word = "quit" then .quit
  else
    match word.toList with
    | '+' :: code => ((String.ofList code).toNat?.map fun n => Event.keyDown n).getD .other
    | '-' :: code => ((String.ofList code).toNat?.map fun n => Event.keyUp n).getD .other
    | _ => .other

/-- The events of the frame that a line stands for. -/
def eventsOfLine (line : String) : List Event :=
  ((line.trimAscii.toString.splitOn " ").filter fun word => word != "").map eventOfWord

end Chip8.CommandLine
