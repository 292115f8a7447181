import Chip8.Proofs.Decoding
import Chip8.Proofs.Frame

/-!
# Words that are executed out of turn

A host may execute the instruction that a word stands for on any interpreter, whatever the machine
is doing. Main statements: this succeeds exactly when nothing stands in the way of the instruction,
and then the parts of the machine are what the instruction makes of them.
-/

namespace Chip8

/-- A block stands in the way of nothing if it ends in memory. -/
theorem Machine.block_free_iff (m : Machine) (length : Nat) :
    (if 4096 < m.blockStart + length then some (Fault.outOfBounds 4096) else none) = none ↔
      m.blockStart + length ≤ 4096 := by
  by_cases beyond : 4096 < m.blockStart + length
  · simp [beyond]
  · simp [beyond]
    omega

/-- An instruction without a block has none that stands in its way. -/
theorem Machine.no_block_free (m : Machine) :
    (if 4096 < m.blockStart + 0 then some (Fault.outOfBounds 4096) else none) = none :=
  (m.block_free_iff 0).mpr m.blockStart_lt.le

namespace Interpreter

/-- Executes the instruction that a word stands for out of turn. A word that stands for none changes
nothing. -/
def performWord (i : Interpreter) (w : Word) : Outcome Fault Unit :=
  match Instruction.decode w i.machine.pc with
  | .error fault => { answer := .error fault, interpreter := i }
  | .ok instruction => i.perform instruction

variable {i : Interpreter} {instruction : Instruction}

/-- The word of an instruction executes that instruction. -/
theorem performWord_word (i : Interpreter) (instruction : Instruction)
    (proper : instruction.Proper) :
    i.performWord instruction.word = i.perform instruction := by
  have decoded := Instruction.ofWord?_word proper
  simp only [performWord, Instruction.decode, decoded]

/-- An instruction is executed unless something stands in its way. -/
theorem perform_done_iff (i : Interpreter) (instruction : Instruction) :
    (i.perform instruction).answer = .ok () ↔ i.machine.obstacle instruction = none := by
  rw [perform, Work.carryOut_run]
  cases ran : i.execute instruction with
  | error fault =>
    have stuck : i.machine.obstacle instruction = some fault :=
      (Machine.execute_eq_error_iff _ _ _ _ _).mp (map_eq_error_iff.mp ran)
    simp [Work.ending, stuck]
  | ok next =>
    have free : i.machine.obstacle instruction = none := by
      by_contra some_
      obtain ⟨fault, stuck⟩ := Option.ne_none_iff_exists'.mp some_
      have failed : i.execute instruction = .error fault :=
        map_eq_error_iff.mpr ((Machine.execute_eq_error_iff _ _ _ _ _).mpr stuck)
      rw [ran] at failed
      cases failed
    simp [Work.ending, free]

/-- An instruction that is executed stores what it stores in its turn. -/
theorem stored_of_done (done : (i.perform instruction).answer = .ok ()) :
    Machine.Stored i.machine i.dialect (i.chance i.taken) instruction
      (i.perform instruction).interpreter.machine := by
  obtain ⟨machine, ran, next⟩ := ok_of_map_ok (execute_of_done done)
  rw [← next]
  exact Machine.stored ran

end Interpreter

end Chip8
