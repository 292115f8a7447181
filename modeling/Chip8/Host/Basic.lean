import Chip8.Config
import Chip8.Host.Beeper
import Chip8.Host.Event
import Chip8.Loading
import Chip8.Render.Layers

/-!
# The host

The window around an interpreter: it feeds key strokes to the keypad, runs frames, sounds the tone,
and obeys a few keys of its own. Every operation yields the host afterwards and the effects it had,
also when it fails half way.
-/

namespace Chip8

/-- The host and everything it remembers. -/
structure Host where
  config : Config := {}
  interpreter : Interpreter := {}
  beeper : Beeper := {}
  /-- Whether the main loop goes on. -/
  running : Bool := true
  paused : Bool := false
  /-- Whether the overlay is shown. -/
  overlay : Bool := false
  saved : Option Snapshot := none
  /-- Where the program was loaded from. -/
  programPath : Option Path := none
  programName : String := "no ROM"

/-- The ways in which the host cannot start. -/
inductive StartError where
  /-- The scale yields no window. -/
  | zoom (error : ZoomError)
  | tone (error : ToneError)
  deriving DecidableEq, Repr

/-- The error in words. -/
def StartError.message : StartError → String
  | .zoom e => e.message
  | .tone e => e.message

/-- What an operation of the host amounts to: whether it failed, the host afterwards, and the
effects in order. -/
structure Turn where
  failure : Option LoadError := none
  host : Host
  effects : List Effect := []

namespace Turn

/-- Goes on with another operation unless the last one failed. -/
def andThen (t : Turn) (next : Host → Turn) : Turn :=
  match t.failure with
  | some _ => t
  | none =>
    let u := next t.host
    { u with effects := t.effects ++ u.effects }

/-- Goes on with an effect unless the last operation failed. -/
def andEmit (t : Turn) (effect : Effect) : Turn :=
  t.andThen fun host => { host := host, effects := [effect] }

end Turn

namespace Host

/-- A host with nothing loaded, on the given sound device. -/
def start (config : Config) (chance : Nat → UInt8) (device : Except String Unit) :
    Except StartError Turn :=
  match Zoom.ofScale config.scale, Beeper.start config.toneRate device with
  | .error e, _ => .error (.zoom e)
  | .ok _, .error e => .error (.tone e)
  | .ok _, .ok (beeper, effects) =>
    .ok {
      host := {
        config := config
        interpreter := { dialect := config.dialect, chance := chance }
        beeper := beeper
        overlay := config.debug }
      effects := effects }

/-- The caption with a remark, or without one if it is empty. -/
def captionText (h : Host) (remark : String) : String :=
  let title := s!"Cat's CHIP-8 Emulator - {h.programName}"
  if remark = "" then title else s!"{title} [{remark}]"

/-- Sets the caption. -/
def setCaption (h : Host) (remark : String) : Effect :=
  .caption (h.captionText remark)

/-- Makes the tone play or not. -/
def beep (h : Host) (active : Bool) : Turn :=
  let (beeper, effects) := h.beeper.update active
  { host := { h with beeper := beeper }, effects := effects }

/-- The effects of reports. -/
def reported (reports : List Report) : List Effect :=
  reports.map .report

/-! ### Commands -/

/-- Loads the program in a file. If that fails nothing changes. -/
def load (h : Host) (files : Files) (path : Path) : Turn :=
  let o := h.interpreter.loadFile files path path.text
  let effects := reported o.reports
  match o.answer with
  | .error e => { failure := some e, host := { h with interpreter := o.interpreter }, effects }
  | .ok () =>
    let next := { h with
      interpreter := o.interpreter
      programPath := some path
      programName := path.stem }
    { host := next, effects := effects ++ [next.setCaption ""] }

/-- Loads the program again, or resets the machine if there is none. -/
def reset (h : Host) (files : Files) : Turn :=
  match h.programPath with
  | some path => h.load files path
  | none =>
    let o := h.interpreter.reset
    { host := { h with interpreter := o.interpreter }, effects := reported o.reports }

/-- Pauses, with the tone off, or goes on. -/
def togglePause (h : Host) : Turn :=
  let next := { h with paused := !h.paused }
  let silenced : Turn := if next.paused then next.beep false else { host := next }
  silenced.andThen fun host =>
    { host := host, effects := [host.setCaption (if host.paused then "Paused" else "")] }

/-- Keeps a snapshot of the machine in place of the last one. -/
def save (h : Host) : Turn where
  host := { h with saved := some h.interpreter.snapshot }
  effects := [.report .snapshotSaved]

/-- Comes back to the snapshot, if there is one. -/
def restore (h : Host) : Turn :=
  match h.saved with
  | none => { host := h, effects := [.report .noSnapshot] }
  | some snapshot =>
    let o := h.interpreter.restore snapshot
    { host := { h with interpreter := o.interpreter }
      effects := reported o.reports ++ [h.setCaption ""] }

/-- Changes the machine alone. -/
def onMachine (h : Host) (f : Machine → Machine) : Turn where
  host := { h with interpreter := h.interpreter.onMachine f }

/-- Obeys a key that goes down. -/
def obey (h : Host) (files : Files) : HotKey → Turn
  | .leave => { host := { h with running := false } }
  | .pause => h.togglePause
  | .overlay => { host := { h with overlay := !h.overlay } }
  | .reset => h.reset files
  | .save => h.save
  | .restore => h.restore
  | .keypad key => h.onMachine fun m => m.keyDown key.val

/-! ### Events, frames and the main loop -/

/-- Takes notice of an event. -/
def handle (h : Host) (files : Files) : Event → Turn
  | .quit => { host := { h with running := false } }
  | .keyDown code =>
    match HotKey.ofCode? code with
    | some key => h.obey files key
    | none => { host := h }
  | .keyUp code =>
    match Key.ofCode? code with
    | some key => h.onMachine fun m => m.keyUp key.val
    | none => { host := h }
  | .other => { host := h }

/-- Takes notice of events one after the other; a failure loses those behind it. -/
def handleAll (files : Files) : List Event → Host → Turn
  | [], h => { host := h }
  | event :: events, h => (h.handle files event).andThen (handleAll files events)

/-- What the host does about a fault that has just stopped the machine. -/
def reportCrash (h : Host) (fault : Fault) : List Effect :=
  [h.setCaption s!"Halted: {fault.message}", .report (.crashed h.interpreter.machine.status)]

/-- Whether the tone should sound: the sound timer has not run out and the machine is not
halted. -/
def wantsTone (h : Host) : Bool :=
  h.interpreter.machine.sound.active && !h.interpreter.machine.isHalted

/-- Runs a frame of the machine, unless it is paused or halted, and sets the tone. -/
def update (h : Host) : Turn :=
  if h.paused || h.interpreter.machine.isHalted then { host := h }
  else
    let o := h.interpreter.frame h.config.cyclesPerFrame
    let next := { h with interpreter := o.interpreter }
    let crash :=
      match o.answer with
      | .error fault => next.reportCrash fault
      | .ok _ => []
    let toned := next.beep next.wantsTone
    { toned with effects := reported o.reports ++ crash ++ toned.effects }

/-- The layers that are shown: those of the screen, in the shades and at the scale of the
settings. -/
def layers (h : Host) (scaling : Scaling) : Except ShowError Layers :=
  Layers.ofScreen scaling h.interpreter.machine.screen h.config.scale h.config.foreground
    h.config.background

/-- Shows the screen. It is taken that there are `layers` to show: that is a matter of the settings
and the window system, and there are for the settings of a request where blocks are copied. -/
def render (h : Host) : Turn where
  host := { h with interpreter := { h.interpreter with redraw := false } }

/-- One frame: events, update, render. -/
def frame (files : Files) (events : List Event) (h : Host) : Turn :=
  ((handleAll files events h).andThen update).andThen render

/-- The end of the main loop: the tone goes off and the window closes. -/
def close (h : Host) : Turn :=
  (h.beep false).andEmit .close

/-- The main loop, one batch of events for each frame. When the batches are used up the window is
asked to close. -/
def run (files : Files) : List (List Event) → Host → Turn
  | [], h =>
    if h.running then ((frame files [.quit] h).andEmit (.pace Timer.rate)).andThen close
    else h.close
  | events :: batches, h =>
    if h.running then
      ((frame files events h).andEmit (.pace Timer.rate)).andThen (run files batches)
    else h.close

end Host

end Chip8
