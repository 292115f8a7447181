import Chip8.Colour
import Chip8.Dialect
import Chip8.Text.Blank
import Chip8.Text.Quoted
import Chip8.Timer

/-!
# Settings

What the host needs to know before it starts, and how it is made from what the user asks for.
-/

namespace Chip8

open Text

/-- The settings of the host. -/
structure Config where
  /-- Instructions per second. -/
  clockRate : Int := 500
  /-- The width of a pixel on the window. -/
  scale : Int := 12
  foreground : Shade := Palette.green.shade
  background : Shade := Palette.dark.shade
  /-- The frequency of the tone. -/
  toneRate : Int := 440
  dialect : Dialect := {}
  /-- Whether the overlay is shown and everything is logged. -/
  debug : Bool := false
  deriving DecidableEq, Repr

/-- The number of instructions in a frame: as many as fall on a sixtieth of a second, at least
one. -/
def Config.cyclesPerFrame (c : Config) : Int :=
  max 1 (c.clockRate / Timer.rate)

/-- What the user asks for. A setting that the user has left blank is `none`. -/
structure Request where
  clockRate : Option Int := some 500
  scale : Option Int := some 12
  colour : Option String := some "green"
  dialect : Option String := some "chip8"
  debug : Bool := false
  deriving DecidableEq, Repr

/-- The ways in which a request cannot be met. -/
inductive ConfigError where
  | rateBlank
  | rateNotPositive
  | scaleBlank
  | scaleNotPositive
  | colourBlank
  | dialectBlank
  | unknownColour (name : String)
  | unknownDialect (name : String)
  deriving DecidableEq, Repr

/-- The error in words. -/
def ConfigError.message : ConfigError → String
  | .rateBlank => "--hz is blank"
  | .rateNotPositive => "--hz must be positive"
  | .scaleBlank => "--scale is blank"
  | .scaleNotPositive => "--scale must be positive"
  | .colourBlank => "--color is blank"
  | .dialectBlank => "--quirks is blank"
  | .unknownColour name => quoted ("fg_" ++ name)
  | .unknownDialect name =>
    s!"Unknown quirks preset {quoted name}, expected one of " ++
      "[" ++ ", ".intercalate (Dialect.names.map quoted) ++ "]"

/-- The dialect of a given name. -/
def Dialect.ofName (name : String) : Except ConfigError Dialect :=
  match Dialect.named? name with
  | some dialect => .ok dialect
  | none => .error (.unknownDialect name)

/-- The colour for lit pixels of a given name. -/
def Colour.ofName (name : String) : Except ConfigError Colour :=
  match Palette.foregrounds.lookup name with
  | some colour => .ok colour
  | none => .error (.unknownColour name)

/-- Whether the value of a variable switches a feature on: anything does but an empty text, zero
and the words for no. -/
def switchesOn (value : String) : Bool :=
  let word := String.ofList ((strip isBlank value.toList).map Char.toLower)
  ["", "0", "false", "no"].all fun off => off != word

/-- A setting that must not be blank. -/
def given {α : Type} (setting : Option α) (blank : ConfigError) : Except ConfigError α :=
  match setting with
  | some value => .ok value
  | none => .error blank

/-- A setting that must not be blank and has to be a positive number. -/
def positive (setting : Option Int) (blank notPositive : ConfigError) : Except ConfigError Int :=
  match setting with
  | some n => if n ≤ 0 then .error notPositive else .ok n
  | none => .error blank

/-- The settings for a request, given the value of the variable that asks for debugging, if it is
set. The first of several errors is the one of the clock rate, then of the scale, the colour and
the dialect. -/
def Config.ofRequest (r : Request) (debugVariable : Option String) :
    Except ConfigError Config := do
  let clockRate ← positive r.clockRate .rateBlank .rateNotPositive
  let scale ← positive r.scale .scaleBlank .scaleNotPositive
  let foreground ← Colour.ofName (← given r.colour .colourBlank)
  let dialect ← Dialect.ofName (← given r.dialect .dialectBlank)
  return {
    clockRate := clockRate
    scale := scale
    foreground := foreground.shade
    dialect := dialect
    debug := r.debug || switchesOn (debugVariable.getD "0") }

end Chip8
