import Chip8.Proofs.Sprites

/-!
# What an instruction leaves alone

Which parts of the machine an instruction may touch is read off the instruction and the dialect: the
bytes it writes, the registers it replaces, the index register, screen, timers, stack and wait. Main
statement: an instruction that does not fault, in whatever state it is executed, changes nothing
else but the program counter.
-/

namespace Chip8

/-- Whether an operation on two registers stores a flag. -/
def AluOp.storesFlag (d : Dialect) : AluOp → Bool
  | .copy => false
  | .or | .and | .xor => d.bitwiseClearsFlag
  | .add | .subtract | .subtractFrom | .shiftRight | .shiftLeft => true

namespace Instruction

/-- The number of bytes that an instruction writes from where the index register points. -/
def writtenLength : Instruction → Nat
  | .storeDecimal _ => 3
  | .storeRegisters x => x + 1
  | _ => 0

/-- Whether an instruction may replace the contents of the register `v`. -/
def Replaces (d : Dialect) (v : Register) : Instruction → Prop
  | .loadByte x _ | .addByte x _ | .random x _ | .readDelay x => v = x
  | .alu op x _ => v = x ∨ op.storesFlag d = true ∧ v = Register.flag
  | .loadRegisters x => v ≤ x
  | .draw .. => v = Register.flag
  | .addIndex _ => d.indexSetsFlag = true ∧ v = Register.flag
  | _ => False

/-- Whether an instruction may move the index register. -/
def movesIndex (d : Dialect) : Instruction → Bool
  | .setIndex _ | .addIndex _ | .pointAtGlyph _ => true
  | .storeRegisters _ | .loadRegisters _ => d.blockMovesIndex
  | _ => false

end Instruction

/-- An operation stores no flag exactly when its result has none. -/
theorem AluOp.flag_result_eq_none {d : Dialect} {op : AluOp} (silent : ¬op.storesFlag d = true)
    (a b : UInt8) : (op.result d a b).flag = none := by
  cases op with
  | copy => rfl
  | or => exact if_neg silent
  | and => exact if_neg silent
  | xor => exact if_neg silent
  | _ => exact absurd rfl silent

namespace Registers

/-- An operation on two registers replaces the first one and, if it stores a flag, the flag. -/
theorem get_operate_of_other (r : Registers) (d : Dialect) (op : AluOp) (x y : Register)
    {v : Register} (other : v ≠ x) (unflagged : ¬(op.storesFlag d = true ∧ v = Register.flag)) :
    (r.operate d op x y).get v = r.get v := by
  simp only [get_operate]
  by_cases stores : op.storesFlag d = true
  · have apart : Register.flag ≠ v := fun same => unflagged ⟨stores, same.symm⟩
    cases (op.result d (r.get x) (r.get y)).flag with
    | none => exact if_neg other.symm
    | some flag => exact (if_neg apart).trans (if_neg other.symm)
  · simp only [AluOp.flag_result_eq_none stores]
    exact if_neg other.symm

end Registers

namespace Machine

variable {m : Machine} {d : Dialect} {instruction : Instruction}

/-- Only the bytes of the block that an instruction writes change. -/
theorem byteAt_memoryAfter_of_outside {a : Nat}
    (outside : ¬(m.blockStart ≤ a ∧ a < m.blockStart + instruction.writtenLength)) :
    (m.memoryAfter instruction).byteAt a = m.memory.byteAt a := by
  cases instruction with
  | storeDecimal x =>
    have length : (decimalDigits (m.registers.get x)).length = 3 := rfl
    rw [memoryAfter, Memory.byteAt_putAll, length]
    exact if_neg fun inside => outside ⟨inside.1, inside.2.1⟩
  | storeRegisters x =>
    rw [memoryAfter, Memory.byteAt_putAll, Registers.length_firstThrough]
    exact if_neg fun inside => outside ⟨inside.1, inside.2.1⟩
  | _ => rfl

/-- Only clearing the screen and a sprite above it change a pixel. -/
theorem get_screenAfter_of_beside {r : Fin 32} {c : Fin 64} (kept : instruction ≠ .clear)
    (beside : ∀ x y rows, instruction = .draw x y rows → ¬m.UnderSprite x y rows r c) :
    (m.screenAfter instruction).get r c = m.screen.get r c := by
  cases instruction with
  | clear => exact absurd rfl kept
  | draw x y rows => exact m.get_screenAfter_draw_of_beside x y rows r c (beside x y rows rfl)
  | _ => rfl

/-- The index register stays where it is under an instruction that does not move it. -/
theorem indexAfter_of_still (still : ¬instruction.movesIndex d = true) :
    m.indexAfter d instruction = m.registers.index := by
  cases instruction with
  | setIndex address => exact absurd rfl still
  | addIndex x => exact absurd rfl still
  | pointAtGlyph x => exact absurd rfl still
  | storeRegisters x => exact if_neg still
  | loadRegisters x => exact if_neg still
  | _ => rfl

/-- A register keeps its contents under an instruction that does not replace them. -/
theorem contentsAfter_of_kept {chance : UInt8} {v : Register}
    (kept : ¬instruction.Replaces d v) :
    m.contentsAfter d chance v instruction = m.registers.get v := by
  cases instruction with
  | loadByte x byte => exact if_neg fun same => kept same.symm
  | addByte x byte => exact if_neg fun same => kept same.symm
  | random x mask => exact if_neg fun same => kept same.symm
  | readDelay x => exact if_neg fun same => kept same.symm
  | alu op x y =>
    obtain ⟨other, unflagged⟩ := not_or.mp kept
    exact m.registers.get_operate_of_other d op x y other unflagged
  | loadRegisters x => exact if_neg kept
  | draw x y rows => exact if_neg fun same => kept same.symm
  | addIndex x =>
    have unflagged : ¬(d.indexSetsFlag && decide (Register.flag = v)) = true := by
      rw [Bool.and_eq_true, decide_eq_true_eq]
      rintro ⟨sets, same⟩
      exact kept ⟨sets, same.symm⟩
    exact if_neg unflagged
  | _ => rfl

end Machine

/-- What an instruction leaves alone, the program counter aside: every part of the machine may
change only under the instructions that are for it, and only where they are for it. -/
structure Interpreter.Framed (i : Interpreter) (instruction : Instruction) (next : Interpreter) :
    Prop where
  memory : ∀ a, next.machine.memory.byteAt a ≠ i.machine.memory.byteAt a →
    i.machine.blockStart ≤ a ∧ a < i.machine.blockStart + instruction.writtenLength
  screen : ∀ r c, next.machine.screen.get r c ≠ i.machine.screen.get r c →
    instruction = .clear ∨
      ∃ x y rows, instruction = .draw x y rows ∧ i.machine.UnderSprite x y rows r c
  /-- A call adds one return address, and a return takes the newest one away. -/
  stack : next.machine.stack ≠ i.machine.stack →
    (∃ target address, instruction = .call target ∧
      next.machine.stack.frames = address :: i.machine.stack.frames) ∨
    (∃ address, instruction = .ret ∧
      i.machine.stack.frames = address :: next.machine.stack.frames)
  delay : next.machine.delay ≠ i.machine.delay → ∃ x, instruction = .setDelay x
  sound : next.machine.sound ≠ i.machine.sound → ∃ x, instruction = .setSound x
  runState : next.machine.runState ≠ i.machine.runState → ∃ x, instruction = .awaitKey x
  keyRegister : next.machine.keyRegister ≠ i.machine.keyRegister → ∃ x, instruction = .awaitKey x
  keypad : next.machine.keypad ≠ i.machine.keypad → ∃ x, instruction = .awaitKey x
  pressed : next.machine.keypad.pressed = i.machine.keypad.pressed
  fault : next.machine.fault = i.machine.fault
  index : next.machine.registers.index ≠ i.machine.registers.index →
    instruction.movesIndex i.dialect = true
  registers : ∀ v, next.machine.registers.get v ≠ i.machine.registers.get v →
    instruction.Replaces i.dialect v
  /-- The mark on the screen is never taken away. -/
  marked : i.redraw = true → next.redraw = true
  marks : next.redraw ≠ i.redraw → instruction = .clear ∨ ∃ x y rows, instruction = .draw x y rows
  taken : next.taken ≠ i.taken → ∃ x mask, instruction = .random x mask ∧ next.taken = i.taken + 1
  chance : next.chance = i.chance
  dialect : next.dialect = i.dialect

namespace Machine

variable {m next : Machine} {d : Dialect} {chance : UInt8} {instruction : Instruction}

/-- The delay timer changes only when it is set. -/
theorem Stored.delay_changed (stored : Stored m d chance instruction next)
    (changed : next.delay ≠ m.delay) : ∃ x, instruction = .setDelay x := by
  cases instruction with
  | setDelay x => exact ⟨x, rfl⟩
  | _ => exact absurd stored.delay changed

/-- The sound timer changes only when it is set. -/
theorem Stored.sound_changed (stored : Stored m d chance instruction next)
    (changed : next.sound ≠ m.sound) : ∃ x, instruction = .setSound x := by
  cases instruction with
  | setSound x => exact ⟨x, rfl⟩
  | _ => exact absurd stored.sound changed

/-- A pixel changes only when the screen is cleared or a sprite is drawn above it. -/
theorem Stored.pixel_changed (stored : Stored m d chance instruction next) {r : Fin 32}
    {c : Fin 64} (changed : next.screen.get r c ≠ m.screen.get r c) :
    instruction = .clear ∨
      ∃ x y rows, instruction = .draw x y rows ∧ m.UnderSprite x y rows r c := by
  by_contra neither
  obtain ⟨kept, beside⟩ := not_or.mp neither
  have same : (m.screenAfter instruction).get r c = m.screen.get r c :=
    get_screenAfter_of_beside kept fun x y rows drawn under => beside ⟨x, y, rows, drawn, under⟩
  rw [stored.screen] at changed
  exact changed same

/-- The run state changes only when a wait begins. -/
theorem Executed.runState_changed (after : Executed m d instruction next)
    (changed : next.runState ≠ m.runState) : ∃ x, instruction = .awaitKey x := by
  cases instruction with
  | awaitKey x => exact ⟨x, rfl⟩
  | _ => exact absurd after.runState changed

/-- The register for the key changes only when a wait begins. -/
theorem Executed.keyRegister_changed (after : Executed m d instruction next)
    (changed : next.keyRegister ≠ m.keyRegister) : ∃ x, instruction = .awaitKey x := by
  cases instruction with
  | awaitKey x => exact ⟨x, rfl⟩
  | _ => exact absurd after.keyRegister changed

/-- The keypad changes only when a wait begins. -/
theorem Executed.keypad_changed (after : Executed m d instruction next)
    (changed : next.keypad ≠ m.keypad) : ∃ x, instruction = .awaitKey x := by
  cases instruction with
  | awaitKey x => exact ⟨x, rfl⟩
  | _ => exact absurd after.keypad changed

/-- No instruction moves a key. -/
theorem Executed.pressed (after : Executed m d instruction next) :
    next.keypad.pressed = m.keypad.pressed := by
  rw [after.keypad]
  cases instruction with
  | _ => rfl

/-- A return that does not fault finds a return address. -/
theorem exists_frame_of_ret (ran : m.execute d chance .ret = .ok next) :
    ∃ address, m.stack.frames = address :: next.stack.frames := by
  have after := (executed ran).frames
  cases frames : m.stack.frames with
  | nil =>
    have stuck : m.execute d chance .ret = .error .stackUnderflow :=
      (execute_eq_error_iff m d chance .ret _).mpr (if_pos frames)
    rw [stuck] at ran
    cases ran
  | cons address rest =>
    rw [callers, frames, List.tail_cons] at after
    exact ⟨address, by rw [after]⟩

/-- The stack changes only by a call, which adds one address, and by a return, which takes the
newest one away. -/
theorem stack_changed (ran : m.execute d chance instruction = .ok next)
    (changed : next.stack ≠ m.stack) :
    (∃ target address, instruction = .call target ∧
      next.stack.frames = address :: m.stack.frames) ∨
    (∃ address, instruction = .ret ∧ m.stack.frames = address :: next.stack.frames) := by
  have after := (executed ran).frames
  cases instruction with
  | call target => exact .inl ⟨target, m.nextPC, rfl, after⟩
  | ret =>
    obtain ⟨address, found⟩ := exists_frame_of_ret ran
    exact .inr ⟨address, rfl, found⟩
  | _ => exact absurd (congrArg CallStack.mk after) changed

end Machine

namespace Interpreter

/-- Executing an instruction out of turn without a fault comes to what it makes of the interpreter
all at once. -/
theorem execute_of_done {i : Interpreter} {instruction : Instruction}
    (done : (i.perform instruction).answer = .ok ()) :
    i.execute instruction = .ok (i.perform instruction).interpreter := by
  rw [perform, Work.carryOut_run] at done ⊢
  cases ran : i.execute instruction with
  | error fault =>
    rw [ran] at done
    cases done
  | ok next => rfl

/-- An instruction that is executed without a fault, in whatever state of the machine and whatever
the dialect, changes nothing but the program counter and what it is for. -/
theorem perform_framed {i : Interpreter} {instruction : Instruction}
    (done : (i.perform instruction).answer = .ok ()) :
    i.Framed instruction (i.perform instruction).interpreter := by
  have executed := execute_of_done done
  generalize (i.perform instruction).interpreter = next at executed
  obtain ⟨machine, ran, rfl⟩ := ok_of_map_ok executed
  have stored := Machine.stored ran
  have after := Machine.executed ran
  constructor
  case memory =>
    intro a changed
    by_contra outside
    have same := Machine.byteAt_memoryAfter_of_outside outside
    rw [← stored.memory] at same
    exact changed same
  case screen => exact fun r c changed => stored.pixel_changed changed
  case stack => exact Machine.stack_changed ran
  case delay => exact stored.delay_changed
  case sound => exact stored.sound_changed
  case runState => exact after.runState_changed
  case keyRegister => exact after.keyRegister_changed
  case keypad => exact after.keypad_changed
  case pressed => exact after.pressed
  case fault => exact after.fault
  case index =>
    intro changed
    by_contra still
    exact changed (stored.index.trans (Machine.indexAfter_of_still still))
  case registers =>
    intro v changed
    by_contra kept
    exact changed ((stored.registers v).trans (Machine.contentsAfter_of_kept kept))
  case marked =>
    intro set
    rw [set, Bool.or_true]
  case marks =>
    intro changed
    cases instruction with
    | clear => exact .inl rfl
    | draw x y rows => exact .inr ⟨x, y, rows, rfl⟩
    | _ => exact absurd rfl changed
  case taken =>
    intro changed
    cases instruction with
    | random x mask => exact ⟨x, mask, rfl, rfl⟩
    | _ => exact absurd rfl changed
  case chance => rfl
  case dialect => rfl

/-- A program that stores `V0` and `V1` at the last two bytes of memory, in a dialect that leaves
the index register where it is, and with the register above them in use. -/
theorem perform_framed_store :
    let i : Interpreter := {
      dialect := Dialect.modern
      machine := ((Machine.initial.setIndex 0x3FFE).setRegister 1 7).setRegister 2 9 }
    let o := i.perform (.storeRegisters 1)
    o.answer = .ok () ∧ o.interpreter.machine.memory.byteAt 0xFFF = 7 ∧
      i.Framed (.storeRegisters 1) o.interpreter :=
  ⟨by decide +kernel, by decide +kernel, perform_framed (by decide +kernel)⟩

end Interpreter

end Chip8
