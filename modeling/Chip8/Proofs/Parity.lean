import Chip8.Proofs.Sprites
import Chip8.Proofs.Trail
import Mathlib.Algebra.Group.Nat.Even
import Mathlib.Data.List.DropRight

/-!
# The parity of the screen

Drawing inverts pixels, and nothing but drawing and clearing touches the screen, so what it shows is
a matter of counting. Main statement: at every moment of a run from a fresh machine, a pixel is lit
exactly when an odd number of the sprites drawn since the screen was last cleared put a one on it,
in whatever order they were drawn; and every sprite that is drawn sets the flag exactly when it puts
a one on a pixel that was lit.
-/

namespace Chip8

/-- Whether a sprite of so many rows puts a one on a lit pixel. -/
def Machine.Collides (m : Machine) (x y : Register) (rows : Nibble) : Prop :=
  ∃ r c, m.Marks x y rows r c ∧ m.screen.get r c = true

namespace Interpreter

/-- Whether the next step clears the screen. -/
def clears (i : Interpreter) : Bool :=
  decide (i.executes = some .clear)

/-- Whether the next step draws a sprite that puts a one on a pixel. -/
def inverts (r : Fin 32) (c : Fin 64) (i : Interpreter) : Bool :=
  match i.executes with
  | some (.draw x y rows) => decide (i.machine.Marks x y rows r c)
  | _ => false

/-- How many of the steps made so far have put a one on a pixel since the screen was last cleared,
or since the first step if it never was. -/
def inversions (past : List Interpreter) (r : Fin 32) (c : Fin 64) : Nat :=
  (past.rtakeWhile fun i => !i.clears).countP (inverts r c)

/-- Whether exactly the pixels are lit that the steps made so far have inverted an odd number of
times. -/
def ShowsParity (past : List Interpreter) (i : Interpreter) : Prop :=
  ∀ r c, i.machine.screen.get r c = true ↔ Odd (inversions past r c)

/-- An interpreter after a reset, or after a program has been loaded. -/
inductive Fresh : Interpreter → Prop
  | reset (i : Interpreter) : Fresh i.reset.interpreter
  | load (i : Interpreter) (program : List UInt8)
      (accepted : (i.load program).answer = .ok ()) : Fresh (i.load program).interpreter

/-- The screen of a fresh interpreter is dark. -/
theorem Fresh.screen {i : Interpreter} (fresh : i.Fresh) :
    i.machine.screen = Picture.blank 64 32 := by
  cases fresh with
  | reset i => rfl
  | load i program accepted =>
    unfold Interpreter.load at accepted ⊢
    cases written : Machine.initial.memory.loadProgram program with
    | error fault =>
      rw [written] at accepted
      cases accepted
    | ok memory => rfl

/-- One more step, at the end: clearing begins the count anew. -/
theorem inversions_snoc (past : List Interpreter) (i : Interpreter) (r : Fin 32) (c : Fin 64) :
    inversions (past ++ [i]) r c =
      if i.clears then 0 else inversions past r c + if i.inverts r c then 1 else 0 := by
  -- The last step is the first one that the count, which goes back in time, looks at.
  rw [inversions, List.rtakeWhile_concat]
  cases i.clears with
  | true => rfl
  | false =>
    rw [if_pos Bool.not_false, List.countP_append, List.countP_singleton]
    rfl

/-- A step clears the screen, or it inverts the pixels that the sprite of its instruction marks. -/
theorem get_screen_step (i : Interpreter) (r : Fin 32) (c : Fin 64) :
    i.step.interpreter.machine.screen.get r c =
      if i.clears then false else i.machine.screen.get r c ^^ i.inverts r c := by
  rw [clears, inverts]
  rcases i.executes_or_still with ⟨instruction, executed, _⟩ | ⟨nothing, still⟩
  · rw [executed, (Machine.stored (machine_execute_of_executes executed)).screen]
    cases instruction with
    | clear => exact Grid.get_replicate false r c
    | draw x y rows => exact i.machine.get_screenAfter_draw x y rows r c
    | _ => exact (Bool.xor_false _).symm
  · rw [nothing, still.screen]
    exact (Bool.xor_false _).symm

/-- Steps, ticks and keys keep the parity. -/
theorem kept_showsParity : Kept ShowsParity where
  step past i shows_ r c := by
    rw [get_screen_step, inversions_snoc]
    have before := shows_ r c
    cases i.clears with
    | true => exact iff_of_false Bool.false_ne_true Nat.not_odd_zero
    | false =>
      cases i.inverts r c with
      | true =>
        rw [if_neg Bool.false_ne_true, if_neg Bool.false_ne_true, if_pos rfl, Nat.odd_add_one,
          ← before, Bool.xor_true, Bool.not_eq_true', Bool.not_eq_true]
      | false =>
        rw [if_neg Bool.false_ne_true, if_neg Bool.false_ne_true, if_neg Bool.false_ne_true,
          Bool.xor_false]
        exact before
  tick _ _ shows_ := shows_
  keyDown _ _ _ shows_ := shows_
  keyUp _ _ _ shows_ := shows_

/-- A sprite that is drawn sets the flag if it puts a one on a lit pixel, and clears it
otherwise. -/
theorem flag_of_draw {i : Interpreter} {x y : Register} {rows : Nibble}
    (executed : i.executes = some (.draw x y rows)) :
    (i.machine.Collides x y rows → i.step.interpreter.machine.registers.get Register.flag = 1) ∧
    (¬i.machine.Collides x y rows →
      i.step.interpreter.machine.registers.get Register.flag = 0) := by
  -- The flag is stored after the coordinates are read, so a sprite may be placed by the flag itself.
  have stored := Machine.stored (machine_execute_of_executes executed)
  have collides := i.machine.spriteCollides_iff x y rows
  rw [stored.registers, Machine.contentsAfter, if_pos rfl]
  exact ⟨fun hit => if_pos (collides.mpr hit), fun miss => if_neg (mt collides.mp miss)⟩

/-- At every moment of a run from a fresh interpreter, at its end and in front of each of its steps,
a pixel is lit exactly when the sprites drawn since the last clearing put a one on it an odd number
of times. Every step that draws a sprite sets the flag exactly when the sprite puts a one on a pixel
that was lit just before. -/
theorem play_showsParity {i : Interpreter} (fresh : i.Fresh) (actions : List Action) :
    ShowsParity (i.trail actions) (i.play actions) ∧
    ∀ before j after, i.trail actions = before ++ j :: after →
      ShowsParity before j ∧
      ∀ x y rows, j.executes = some (.draw x y rows) →
        (j.machine.Collides x y rows →
          j.step.interpreter.machine.registers.get Register.flag = 1) ∧
        (¬j.machine.Collides x y rows →
          j.step.interpreter.machine.registers.get Register.flag = 0) := by
  have dark : ShowsParity [] i := by
    intro r c
    rw [fresh.screen]
    exact iff_of_false (ne_true_of_eq_false (Grid.get_replicate false r c)) Nat.not_odd_zero
  obtain ⟨along, last⟩ := kept_showsParity.play actions dark
  exact ⟨last, fun before j after parts =>
    ⟨along before j after parts, fun x y rows executed => flag_of_draw executed⟩⟩

/-- A program that draws the same glyph twice at the same place. In front of its third step the
glyph is lit, that step finds it so, and afterwards it is dark again. -/
theorem play_showsParity_twice :
    let i := (({} : Interpreter).load [0xA0, 0x00, 0xD0, 0x05, 0xD0, 0x05]).interpreter
    let second := i.step.interpreter
    let third := second.step.interpreter
    i.Fresh ∧ i.trail [.frame 3] = [i, second] ++ third :: [] ∧
      Odd (inversions [i, second] 0 0) ∧
      third.step.interpreter.machine.registers.get Register.flag = 1 ∧
      ¬Odd (inversions (i.trail [.frame 3]) 0 0) := by
  intro i second third
  have evaluated : (({} : Interpreter).load [0xA0, 0x00, 0xD0, 0x05, 0xD0, 0x05]).answer = .ok () ∧
      i.step.answer = .ok .running ∧ second.step.answer = .ok .running ∧
      third.step.answer = .ok .running ∧
      third.executes = some (.draw Nibble.zero Nibble.zero (Nibble.ofNat 5)) ∧
      third.machine.screen.get 0 0 = true ∧
      third.machine.Marks Nibble.zero Nibble.zero (Nibble.ofNat 5) 0 0 ∧
      (i.play [.frame 3]).machine.screen.get 0 0 = false := by decide +kernel
  obtain ⟨accepted, one, two, three, executed, lit, marked, dark⟩ := evaluated
  have fresh : i.Fresh := .load _ _ accepted
  have parts : i.trail [.frame 3] = [i, second] ++ third :: [] := by
    have steps : stepsTrail 3 i = [i, second, third] := by
      rw [stepsTrail_succ 2 one, stepsTrail_succ 1 two, stepsTrail_succ 0 three, stepsTrail]
    exact (List.append_nil _).trans steps
  obtain ⟨last, along⟩ := play_showsParity fresh [.frame 3]
  obtain ⟨before, flag⟩ := along _ third [] parts
  have hit : third.machine.Collides Nibble.zero Nibble.zero (Nibble.ofNat 5) :=
    ⟨0, 0, marked, lit⟩
  have even : ¬Odd (inversions (i.trail [.frame 3]) 0 0) := fun odd =>
    Bool.false_ne_true (dark.symm.trans ((last 0 0).mpr odd))
  exact ⟨fresh, parts, (before 0 0).mp lit, (flag _ _ _ executed).1 hit, even⟩

end Interpreter

end Chip8
