import Chip8.Proofs.BaseLayer
import Chip8.Proofs.Happenings

/-!
# Every frame can be shown

Rendering has no error of its own: that there are layers to show is a matter of the settings, which
nothing that happens to a host changes. Main statement: for the settings of a request and a window
system that copies blocks at their scale, there are layers to show at every point of a run, and the
screen of the machine can be read off the window, whatever the colour that was asked for.
-/

namespace Chip8

/-- In one part or another, every colour for lit pixels is far from the colour of dark ones. -/
theorem Palette.exists_apart {name : String} {colour : Colour}
    (offered : (name, colour) ∈ Palette.foregrounds) :
    ∃ channel, Layers.Apart channel colour Palette.dark := by
  simp only [Palette.foregrounds, List.mem_cons, Prod.mk.injEq, List.not_mem_nil,
    or_false] at offered
  rcases offered with ⟨-, rfl⟩ | ⟨-, rfl⟩ | ⟨-, rfl⟩ | ⟨-, rfl⟩
  · exact ⟨.green, by decide⟩
  · exact ⟨.red, by decide⟩
  · exact ⟨.red, by decide⟩
  · exact ⟨.blue, by decide⟩

/-- What goes on after a step that may fail has come past it. -/
theorem ok_of_bind {ε α β : Type} {first : Except ε α} {next : α → Except ε β} {b : β}
    (done : (first >>= next) = .ok b) : ∃ a, first = .ok a ∧ next a = .ok b := by
  cases first with
  | error e => cases done
  | ok a => exact ⟨a, rfl, done⟩

/-- A setting that is taken is positive. -/
theorem pos_of_positive {setting : Option Int} {blank notPositive : ConfigError} {n : Int}
    (taken : positive setting blank notPositive = .ok n) : 0 < n := by
  cases setting with
  | none => cases taken
  | some m =>
    rw [positive] at taken
    split at taken
    · cases taken
    next low =>
      cases taken
      omega

/-- A colour that is known by name is offered. -/
theorem mem_foregrounds_of_ofName {name : String} {colour : Colour}
    (known : Colour.ofName name = .ok colour) : (name, colour) ∈ Palette.foregrounds := by
  rw [Colour.ofName] at known
  split at known
  next found =>
    cases known
    obtain ⟨before, after, split, -⟩ := List.lookup_eq_some_iff.mp found
    rw [split]
    exact List.mem_append_right _ List.mem_cons_self
  next => cases known

/-- A request is met with a positive scale, a colour of the palette and the dark colour. -/
theorem Config.shown_of_ofRequest {r : Request} {debug : Option String} {config : Config}
    (made : Config.ofRequest r debug = .ok config) :
    0 < config.scale ∧ config.background = Palette.dark.shade ∧
      ∃ name colour, (name, colour) ∈ Palette.foregrounds ∧
        config.foreground = colour.shade := by
  obtain ⟨_, _, made⟩ := ok_of_bind made
  obtain ⟨scale, taken, made⟩ := ok_of_bind made
  obtain ⟨name, _, made⟩ := ok_of_bind made
  obtain ⟨colour, known, made⟩ := ok_of_bind made
  obtain ⟨_, _, made⟩ := ok_of_bind made
  obtain ⟨_, _, made⟩ := ok_of_bind made
  cases made
  exact ⟨pos_of_positive taken, rfl, name, colour, mem_foregrounds_of_ofName known, rfl⟩

namespace Host

/-- The settings stay, whatever happens. -/
theorem kept_config (config : Config) : Kept fun _ h => h.config = config := by
  intro past h x same
  have happened := h.happened x
  generalize h.meet x = turn at happened
  cases happened <;> exact same

/-- A host is started with the settings it is given. -/
theorem config_start {config : Config} {chance : Nat → UInt8} {device : Except String Unit}
    {t : Turn} (started : start config chance device = .ok t) : t.host.config = config := by
  rw [start] at started
  split at started
  · cases started
  · cases started
  · cases started
    rfl

/-- At every point of a run with the settings of a request there are layers to show, as long as the
window system copies blocks at their scale. The screen of the machine can be read off the base
layer, and off the window too if smoothing brightens nothing. -/
theorem window_tells_screen {r : Request} {debug : Option String} {config : Config}
    (made : Config.ofRequest r debug = .ok config) {chance : Nat → UInt8}
    {device : Except String Unit} {t : Turn} (started : start config chance device = .ok t)
    {scaling : Scaling} {scale : Nat} (asked : config.scale = scale)
    (copies : scaling.CopiesBlocks scale) (calls : List HostCall) :
    let h := t.host.play calls
    ∃ (positive : 0 < scale) (colour : Colour) (base glow : Surface (64 * scale) (32 * scale)),
      h.layers scaling = .ok ⟨64 * scale, 32 * scale, base, glow⟩ ∧
      Surface.readBack positive colour base = h.interpreter.machine.screen ∧
      (scaling.NeverBrightens (64 * scale) (32 * scale) → ∃ channel,
        Surface.readThrough positive channel colour Palette.dark
          (Layers.window ⟨64 * scale, 32 * scale, base, glow⟩) =
            h.interpreter.machine.screen) := by
  intro h
  have settings : h.config = config :=
    @Kept.play _ [] _ (kept_config config) calls (config_start started)
  obtain ⟨some, ground, name, colour, offered, shade⟩ := Config.shown_of_ofRequest made
  obtain ⟨channel, apart⟩ := Palette.exists_apart offered
  have positive : 0 < scale := by omega
  refine ⟨positive, colour, _, _, ?_, Surface.readBack_base positive apart.ne _,
    fun dims => ⟨channel, Layers.readThrough_window positive dims apart _⟩⟩
  rw [layers, settings, asked, shade, ground]
  exact Layers.ofScreen_eq_ok copies _ colour Palette.dark

end Host

end Chip8
