import Chip8.Signed

/-!
# The tone

One second of a square wave that can be played over and over. A sample is high in the first half of
its period and low in the second. Samples times frequency are counted in 64 bits, and the phase is
computed in double precision.
-/

namespace Chip8

/-- The way in which a tone cannot be made. -/
inductive ToneError where
  /-- The frequency does not fit 64 bits. -/
  | frequencyOutOfRange
  deriving DecidableEq, Repr

/-- The error in words. -/
def ToneError.message : ToneError → String
  | .frequencyOutOfRange => "the frequency of the tone does not fit 64 bits"

namespace Tone

/-- The number of samples in a second. -/
def sampleRate : Nat := 44100

/-- The height of the loudest sample. -/
def peak : Float := 32767

/-- The frequency of a tone from a number. -/
def frequency (hertz : Int) : Except ToneError Int64 :=
  match Signed.ofInt? hertz with
  | some frequency => .ok frequency
  | none => .error .frequencyOutOfRange

/-- Where in its period sample `k` lies: from zero to one. -/
def phase (frequency : Int64) (rate k : Nat) : Float :=
  let periods := (Int64.ofNat k * frequency).toFloat / Float.ofNat rate
  periods - periods.floor

/-- The low sixteen bits of a number with its fraction dropped. A number that does not fit 32 bits
counts as the least that does. -/
def lowBits (a : Float) : Int16 :=
  (if -2147483649 < a && a < 2147483648 then a.toInt32 else Int32.minValue).toInt16

/-- The height of a sample at a phase. -/
def height (volume phase : Float) : Int16 :=
  let sign : Float := if phase < 0.5 then 1 else -1
  lowBits (sign * volume * peak)

/-- The samples of a second. -/
def samples (frequency : Int64) (rate : Nat) (volume : Float) : List Int16 :=
  (List.range rate).map fun k => height volume (phase frequency rate k)

/-- Consecutive equal samples as one, with their number. -/
def runs (samples : List Int16) : List (Int16 × Nat) :=
  samples.foldr (fun sample rest =>
    match rest with
    | (value, count) :: more =>
      if value = sample then (value, count + 1) :: more else (sample, 1) :: rest
    | [] => [(sample, 1)]) []

end Tone

end Chip8
