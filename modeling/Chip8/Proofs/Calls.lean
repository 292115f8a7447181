import Chip8.Proofs.Invariant
import Chip8.Proofs.Trail

/-!
# Calls and returns

A call puts the address behind it on the stack. Only the newest address can be taken away, so what
lies below stays untouched until everything above it is gone. Main statement: whatever the program
does after a call, and however the host drives it, the addresses under the call and the one it added
stay where they are as long as the stack is deeper than before the call; and the first step that
brings it back to that depth is a return, which leads to the address behind the call.
-/

namespace Chip8

namespace Interpreter

/-- Whether the stack holds an address right above the given older ones, newest first. -/
def Guards (address : Int) (below : List Int) (i : Interpreter) : Prop :=
  ∃ above, i.machine.stack.frames = above ++ address :: below

/-- Whether none of the steps that have been made ended at a depth of the stack. -/
def Avoids (depth : Nat) (past : List Interpreter) : Prop :=
  ∀ i ∈ past, i.step.interpreter.machine.stack.depth ≠ depth

variable {address : Int} {below : List Int} {i : Interpreter}

/-- A step leaves the guarded addresses untouched, or it executes a return to the topmost of
them. -/
theorem Guards.step (guards : i.Guards address below) :
    i.step.interpreter.Guards address below ∨
      i.executes = some .ret ∧ i.step.interpreter.machine.stack.frames = below ∧
        i.step.interpreter.machine.registers.pc = UInt16.ofInt address := by
  obtain ⟨above, frames⟩ := guards
  rcases i.executes_or_still with ⟨instruction, executed, _⟩ | ⟨_, still⟩
  · have after := Machine.executed (machine_execute_of_executes executed)
    cases instruction with
    | ret =>
      have popped : i.step.interpreter.machine.stack.frames = i.machine.stack.frames.tail :=
        after.frames
      have target : i.step.interpreter.machine.registers.pc =
          UInt16.ofInt (i.machine.stack.frames.headD 0) := after.pc
      rw [frames] at popped target
      cases above with
      | nil => exact .inr ⟨executed, popped, target⟩
      | cons newest above => exact .inl ⟨above, popped⟩
    | call target =>
      have pushed : i.step.interpreter.machine.stack.frames =
          i.machine.nextPC :: i.machine.stack.frames := after.frames
      rw [frames] at pushed
      exact .inl ⟨i.machine.nextPC :: above, pushed⟩
    | _ => exact .inl ⟨above, after.frames.trans frames⟩
  · exact .inl ⟨above, (congrArg CallStack.frames still.stack).trans frames⟩

/-- The guarded addresses stay as long as no step ends at the depth below them. -/
theorem kept_guards (address : Int) (below : List Int) :
    Kept fun past i => Avoids below.length past → i.Guards address below where
  step past i holds avoids := by
    have guards := holds fun j member => avoids j (List.mem_append_left _ member)
    rcases guards.step with guards | ⟨_, frames, _⟩
    · exact guards
    · have back := avoids i (List.mem_append_right _ List.mem_cons_self)
      rw [CallStack.depth, frames] at back
      exact absurd rfl back
  tick _ _ holds := holds
  keyDown _ _ _ holds := holds
  keyUp _ _ _ holds := holds

/-- A step that executes a call puts the address behind it on the stack. -/
theorem frames_step_call {w : Word} {target : Address} (running : i.machine.runState = .running)
    (seen : i.peek = .ok (w, .call target)) (room : i.machine.stack.depth < 16) :
    i.step.interpreter.machine.stack.frames = (i.machine.pc + 2) :: i.machine.stack.frames := by
  let pushed : CallStack 16 := ⟨i.machine.nextPC :: i.machine.stack.frames⟩
  have free : i.machine.stack.push i.machine.nextPC = .ok pushed := if_neg (Nat.not_le.mpr room)
  have ran : i.execute (.call target) =
      .ok { i with machine := { i.machine with stack := pushed }.goTo target.val } := by
    rw [execute, Machine.execute, free]
    rfl
  rw [(step_of_execute running seen ran).2]
  rfl

/-- From a call on, as long as no step has ended at the depth of the stack before the call, the
addresses below and the one behind the call are on the stack, at the end of every run and in front
of every step; and the first step that ends at that depth executes a return, which leaves the
addresses below and goes on behind the call. -/
theorem call_returns {w : Word} {target : Address} (running : i.machine.runState = .running)
    (seen : i.peek = .ok (w, .call target)) (room : i.machine.stack.depth < 16)
    (actions : List Action) :
    let called := i.step.interpreter
    let below := i.machine.stack.frames
    let behind := i.machine.pc + 2
    (Avoids below.length (called.trail actions) →
      (called.play actions).Guards behind below) ∧
    ∀ before j after, called.trail actions = before ++ j :: after →
      Avoids below.length before →
      j.Guards behind below ∧
      (j.step.interpreter.machine.stack.depth = below.length →
        j.executes = some .ret ∧ j.step.interpreter.machine.stack.frames = below ∧
          j.step.interpreter.machine.pc = behind) := by
  intro called below behind
  have low := i.machine.pc_nonneg
  obtain ⟨fetched, _, _⟩ := (peek_eq_ok_iff i w _).mp seen
  have begun : called.machine.stack.frames = behind :: below := frames_step_call running seen room
  have kept := kept_guards behind below
  have start : Avoids below.length [] → called.Guards behind below := fun _ => ⟨[], begun⟩
  obtain ⟨along, last⟩ := @Kept.play _ kept actions [] called start
  refine ⟨last, fun before j after parts avoids => ?_⟩
  have guards := along before j after parts avoids
  refine ⟨guards, fun depth => ?_⟩
  rcases guards.step with ⟨above, frames⟩ | ⟨returned, frames, pc⟩
  -- While the address is guarded the stack is deeper than before the call.
  · rw [CallStack.depth, frames, List.length_append, List.length_cons] at depth
    omega
  -- A call is fetched below the last byte of memory, so the address behind it fits.
  · refine ⟨returned, frames, ?_⟩
    rw [Machine.pc, pc]
    exact Machine.toNat_ofInt behind (by omega) (by omega)

/-- A program that calls, calls once more from there, and returns twice. Run as one frame after the
first call, its third step ends at the depth before that call. -/
theorem call_returns_nested :
    let b := (Bench.fresh {} fun _ => 0).run [.load [0x22, 0x04, 0x00, 0xE0, 0x22, 0x08, 0x00, 0xEE,
      0x00, 0xEE]]
    let called := b.interpreter.step.interpreter
    let last := called.step.interpreter.step.interpreter
    b.Reachable ∧ called.trail [.frame 3] = [called, called.step.interpreter] ++ last :: [] ∧
      last.executes = some .ret ∧ last.step.interpreter.machine.stack.frames = [] ∧
      last.step.interpreter.machine.pc = 0x202 := by
  intro b called last
  have evaluated : b.interpreter.machine.runState = .running ∧
      b.interpreter.peek = .ok (0x2204, .call 0x204) ∧
      b.interpreter.machine.stack.frames = [] ∧
      called.step.answer = .ok .running ∧
      called.step.interpreter.machine.stack.depth = 2 ∧
      called.step.interpreter.step.answer = .ok .running ∧
      called.step.interpreter.step.interpreter.machine.stack.depth = 1 ∧
      called.step.interpreter.step.interpreter.step.answer = .ok .running ∧
      last.step.interpreter.machine.stack.depth = 0 := by decide +kernel
  obtain ⟨running, seen, empty, first, two, second, one, third, zero⟩ := evaluated
  have parts : called.trail [.frame 3] = [called, called.step.interpreter] ++ last :: [] := by
    have steps : stepsTrail 3 called = [called, called.step.interpreter, last] := by
      rw [stepsTrail_succ 2 first, stepsTrail_succ 1 second, stepsTrail_succ 0 third, stepsTrail]
    exact (List.append_nil _).trans steps
  have room : b.interpreter.machine.stack.depth < 16 := by
    rw [CallStack.depth, empty]
    decide
  have returns := (call_returns running seen room [.frame 3]).2 _ last [] parts
  rw [empty] at returns
  have deeper : Avoids 0 [called, called.step.interpreter] := by
    simp [Avoids, one, two]
  obtain ⟨_, back⟩ := returns deeper
  have ends := back zero
  exact ⟨⟨_, _, _, rfl⟩, parts, ends⟩

end Interpreter

end Chip8
