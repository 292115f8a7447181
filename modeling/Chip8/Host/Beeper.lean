import Chip8.Host.Effect
import Chip8.Tone

/-!
# The beeper

The tone is switched on and off at the edges of a signal: the device is called only when what is
asked for differs from what is playing. Without a device nothing ever plays.
-/

namespace Chip8

/-- The tone and whether it is playing. -/
structure Beeper where
  available : Bool := true
  playing : Bool := false
  deriving DecidableEq, Repr

namespace Beeper

/-- The beeper with a tone of a frequency on a device, or without a tone when there is a reason for
which there is no device. -/
def start (frequency : Int) (device : Except String Unit) :
    Except ToneError (Beeper × List Effect) :=
  match device with
  | .ok () => (Tone.frequency frequency).map fun _ => ({}, [])
  | .error reason => .ok ({ available := false }, [.report (.audioDisabled reason)])

/-- Makes the tone play or not. -/
def update (b : Beeper) (active : Bool) : Beeper × List Effect :=
  if !b.available || active == b.playing then (b, [])
  else ({ b with playing := active }, [.sound (if active then .play else .stop)])

end Beeper

end Chip8
