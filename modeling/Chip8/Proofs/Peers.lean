import Chip8.Proofs.Resume

/-!
# Interpreters with the same machine

What an interpreter does next depends on its dialect, its machine and the random bytes to come, and
on nothing else: not on how many bytes were taken before, and not on the mark on the screen. Main
statement: interpreters that agree on these answer all actions alike, and their machines stay the
same.
-/

namespace Chip8

namespace Interpreter

/-- Two interpreters with the same dialect, the same machine and the same random bytes to come, of
which the first has taken so many more bytes before. -/
structure Peer (ahead : Nat) (i j : Interpreter) : Prop where
  dialect : i.dialect = j.dialect
  machine : i.machine = j.machine
  chance : i.SameChance j
  taken : i.taken = ahead + j.taken

namespace Peer

variable {ahead : Nat} {i j : Interpreter}

/-- Peers stay peers under the same change of both machines. -/
theorem onMachine (peer : Peer ahead i j) (f : Machine → Machine) :
    Peer ahead (i.onMachine f) (j.onMachine f) where
  dialect := peer.dialect
  machine := congrArg f peer.machine
  chance := peer.chance
  taken := peer.taken

/-- Peers that stop at the same fault stay peers. -/
theorem stopped (peer : Peer ahead i j) (fault : Fault) :
    Peer ahead (i.stopped fault) (j.stopped fault) :=
  peer.onMachine fun m => { m with runState := .halted fault, fault := some fault }

/-- Peers stay peers when both take the same number of random bytes. -/
theorem advance (peer : Peer ahead i j) (machine : Machine) (bytes : Nat) (mark mark' : Bool) :
    Peer ahead { i with machine := machine, taken := i.taken + bytes, redraw := mark }
      { j with machine := machine, taken := j.taken + bytes, redraw := mark' } where
  dialect := peer.dialect
  machine := rfl
  chance n := by
    have later := peer.chance (bytes + n)
    rw [← Nat.add_assoc, ← Nat.add_assoc] at later
    exact later
  taken := by
    change i.taken + bytes = ahead + (j.taken + bytes)
    rw [peer.taken, Nat.add_assoc]

/-- Peers see the same instruction at the program counter. -/
theorem peek (peer : Peer ahead i j) : j.peek = i.peek := by
  simp only [Interpreter.peek, fetch, peer.machine]

/-- Peers make the same of an instruction. -/
theorem execute (peer : Peer ahead i j) (instruction : Instruction) :
    j.machine.execute j.dialect (j.chance j.taken) instruction =
      i.machine.execute i.dialect (i.chance i.taken) instruction := by
  have next : j.chance j.taken = i.chance i.taken := (peer.chance 0).symm
  rw [next, peer.machine, peer.dialect]

/-- Peers answer a step alike and stay peers. -/
theorem step (peer : Peer ahead i j) :
    j.step.answer = i.step.answer ∧ Peer ahead i.step.interpreter j.step.interpreter := by
  simp only [Interpreter.step, ← peer.machine]
  cases doing : i.machine.runState with
  | halted fault => exact ⟨rfl, peer⟩
  | awaitingKey =>
    simp only [stepAwaitingKey, ← peer.machine]
    cases i.machine.keypad.newlyPressed with
    | none => exact ⟨rfl, peer⟩
    | some key => exact ⟨rfl, peer.onMachine (storeKey · key)⟩
  | running =>
    simp only [stepRunning, peer.peek]
    cases i.peek with
    | error fault => exact ⟨rfl, peer.stopped fault⟩
    | ok pair =>
      simp only [Work.carryOut_run, Interpreter.execute, peer.execute]
      cases i.machine.execute i.dialect (i.chance i.taken) pair.2 with
      | error fault => exact ⟨rfl, peer.stopped fault⟩
      | ok machine => exact ⟨rfl, peer.advance machine pair.2.takes _ _⟩

/-- Peers go in lockstep. -/
theorem lockstep (ahead : Nat) : Lockstep (Peer ahead) where
  runState peer := by rw [peer.machine]
  step := step
  tick peer := peer.onMachine Machine.tick
  keyDown k peer := peer.onMachine fun m => m.keyDown k
  keyUp k peer := peer.onMachine fun m => m.keyUp k

end Peer

end Interpreter

end Chip8
