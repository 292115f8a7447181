import Chip8.Proofs.Invariant
import Mathlib.Data.List.Induction

/-!
# Waiting for a key

Which key ends a wait, told from the history of the wait alone. A key that goes down counts if it
was up when the wait began, or has gone up since. Main statement: as long as no key counts, every
step finds the machine waiting and changes nothing; the first step after that stores the smallest of
the keys that count, whether or not they are still down, and goes on behind the instruction.
-/

namespace Chip8

/-- Whether an action is one event, not a row of steps. -/
def Action.Single : Action → Prop
  | .frame _ => False
  | _ => True

/-- Whether some key counts in the history of a wait: it goes down there, and was not down when the
wait began or has gone up before. -/
def Counts (down : KeySet) (history : List Action) (k : Key) : Prop :=
  ∃ before after, history = before ++ .keyDown k.val :: after ∧
    (down.contains k = false ∨ .keyUp k.val ∈ before)

/-- Whether no step in the history of a wait comes after a key that counts. -/
def Unanswered (down : KeySet) (history : List Action) : Prop :=
  ∀ before after, history = before ++ .step :: after → ∀ k, ¬Counts down before k

namespace Counts

variable {down : KeySet} {history : List Action} {action : Action} {k : Key}

/-- No key counts before anything has happened. -/
theorem not_nil : ¬Counts down [] k := by
  rintro ⟨before, after, parts, _⟩
  cases before with
  | nil => cases parts
  | cons first rest => cases parts

/-- A key that counts in a longer history has counted before, or the last action makes it count. -/
theorem snoc_iff :
    Counts down (history ++ [action]) k ↔
      Counts down history k ∨
        action = .keyDown k.val ∧ (down.contains k = false ∨ .keyUp k.val ∈ history) := by
  constructor
  · rintro ⟨before, after, parts, free⟩
    rcases snoc_eq_parts_iff.mp parts with ⟨rfl, rfl, rfl⟩ | ⟨rest, rfl, rfl⟩
    · exact .inr ⟨rfl, free⟩
    · exact .inl ⟨before, rest, rfl, free⟩
  · rintro (⟨before, after, rfl, free⟩ | ⟨rfl, free⟩)
    · exact ⟨before, after ++ [action], by simp, free⟩
    · exact ⟨history, [], rfl, free⟩

end Counts

namespace Unanswered

variable {down : KeySet} {history : List Action} {action : Action}

/-- A history without an answered step has none at its beginning either. -/
theorem of_snoc (open_ : Unanswered down (history ++ [action])) : Unanswered down history := by
  rintro before after rfl
  exact open_ before (after ++ [action]) (by simp)

/-- A history in which no key counts has no answered step. -/
theorem of_not_counts (none : ∀ k, ¬Counts down history k) : Unanswered down history := by
  rintro before after rfl k ⟨front, back, rfl, free⟩
  exact none k ⟨front, back ++ .step :: after, by simp, free⟩

/-- A step at the end of a history comes before all keys that count. -/
theorem not_counts (open_ : Unanswered down (history ++ [.step])) (k : Key) :
    ¬Counts down history k :=
  open_ history [] rfl k

end Unanswered

/-- The interpreter after the key `k` has ended the wait for the register `x`: the key is in the
register, the program goes on behind the instruction, and the keypad is off the watch. -/
def Interpreter.answered (x : Register) (k : Key) (i : Interpreter) : Interpreter :=
  i.onMachine fun m => { m with
    registers := (m.registers.set x (UInt8.ofNat k)).setPC (m.pc + 2)
    keypad := { m.keypad with taps := {}, armed := false }
    runState := .running }

/-- An interpreter whose wait for a key for the register `x` has the given history and goes on.
The book of the keypad agrees with the history. -/
structure Interpreter.Pending (down : KeySet) (x : Register) (history : List Action)
    (i : Interpreter) : Prop where
  waiting : i.machine.runState = .awaitingKey
  keyRegister : i.machine.keyRegister = x
  pc_le : i.machine.pc ≤ 0xFFE
  armed : i.machine.keypad.armed = true
  held : ∀ k, i.machine.keypad.held.contains k = true ↔
    down.contains k = true ∧ .keyUp k.val ∉ history
  taps : ∀ k, i.machine.keypad.taps.contains k = true ↔ Counts down history k
  consistent : i.machine.keypad.Consistent

namespace Interpreter.Pending

variable {down : KeySet} {x : Register} {history : List Action} {i : Interpreter}

/-- The keys that would end the wait are those that count. -/
theorem candidates (pending : Pending down x history i) (k : Key) :
    i.machine.keypad.candidates.contains k = true ↔ Counts down history k := by
  rw [pending.consistent.candidates_eq pending.armed, pending.taps k]

/-- A step of a pending wait in which no key counts finds the machine waiting. -/
theorem step_idle (pending : Pending down x history i) (none : ∀ k, ¬Counts down history k) :
    i.step.answer = .ok .awaitingKey ∧ i.step.interpreter = i := by
  have silent : i.machine.keypad.newlyPressed = Option.none := by
    rw [Keypad.newlyPressed, KeySet.least?_eq_none_iff]
    intro k
    rw [← Bool.not_eq_true, pending.candidates k]
    exact none k
  simp only [step, pending.waiting, stepAwaitingKey, silent, and_self]

/-- A key that goes down belongs to the history. -/
theorem keyDown (pending : Pending down x history i) (k : Int) :
    Pending down x (history ++ [.keyDown k]) (i.onMachine fun m => m.keyDown k) where
  waiting := pending.waiting
  keyRegister := pending.keyRegister
  pc_le := pending.pc_le
  armed := by
    change (i.machine.keypad.press k).armed = true
    rw [Keypad.armed_press, pending.armed]
  held l := by
    change (i.machine.keypad.press k).held.contains l = true ↔ _
    rw [Keypad.held_press, pending.held l]
    simp
  taps l := by
    change (i.machine.keypad.press k).taps.contains l = true ↔ _
    have free : i.machine.keypad.held.contains l = false ↔
        down.contains l = false ∨ .keyUp l.val ∈ history := by
      rw [← Bool.not_eq_true, pending.held l]
      by_cases up : Action.keyUp l.val ∈ history
      · simp [up]
      · simp [up]
    rw [Keypad.taps_press, Counts.snoc_iff, Bool.or_eq_true, pending.taps l, pending.armed,
      Bool.true_and, Bool.and_eq_true, Bool.not_eq_true', free, decide_eq_true_eq,
      Action.keyDown.injEq, and_comm]
  consistent := pending.consistent.press k

/-- A key that goes up belongs to the history. -/
theorem keyUp (pending : Pending down x history i) (k : Int) :
    Pending down x (history ++ [.keyUp k]) (i.onMachine fun m => m.keyUp k) where
  waiting := pending.waiting
  keyRegister := pending.keyRegister
  pc_le := pending.pc_le
  armed := by
    change (i.machine.keypad.release k).armed = true
    rw [Keypad.armed_release, pending.armed]
  held l := by
    change (i.machine.keypad.release k).held.contains l = true ↔ _
    rw [Keypad.held_release, Bool.and_eq_true, pending.held l, List.mem_append,
      List.mem_singleton, not_or, Action.keyUp.injEq, eq_comm (a := (l.val : Int)), and_assoc,
      Bool.not_eq_true', decide_eq_false_iff_not]
  taps l := by
    change (i.machine.keypad.release k).taps.contains l = true ↔ _
    rw [Keypad.taps_release, Counts.snoc_iff, pending.taps l]
    simp
  consistent := pending.consistent.release k

/-- An action that moves no key leaves the history of the keys as it is. -/
theorem snoc_still (pending : Pending down x history i) {action : Action}
    (still : action = .step ∨ action = .tick) : Pending down x (history ++ [action]) i where
  waiting := pending.waiting
  keyRegister := pending.keyRegister
  pc_le := pending.pc_le
  armed := pending.armed
  held l := by
    rw [pending.held l]
    rcases still with rfl | rfl
    · simp
    · simp
  taps l := by
    rw [pending.taps l, Counts.snoc_iff]
    rcases still with rfl | rfl
    · simp
    · simp
  consistent := pending.consistent

/-- A tick touches nothing that the wait depends on. -/
theorem tick (pending : Pending down x history i) : Pending down x history i.tick where
  waiting := pending.waiting
  keyRegister := pending.keyRegister
  pc_le := pending.pc_le
  armed := pending.armed
  held := pending.held
  taps := pending.taps
  consistent := pending.consistent

/-- A wait that no step has answered goes on. -/
theorem play (begun : Pending down x [] i) (history : List Action)
    (single : ∀ action ∈ history, action.Single) (unanswered : Unanswered down history) :
    Pending down x history (i.play history) := by
  induction history using List.reverseRecOn with
  | nil => exact begun
  | append_singleton history action ih =>
    have past := ih (fun other member => single other (List.mem_append_left _ member))
      unanswered.of_snoc
    rw [Interpreter.play, List.foldl_append]
    change Pending down x (history ++ [action]) ((i.play history).act action).2
    cases action with
    | step =>
      have idle := past.step_idle unanswered.not_counts
      rw [act, idle.2]
      exact past.snoc_still (.inl rfl)
    | frame cycles =>
      exact absurd (single (.frame cycles) (by simp)) not_false
    | tick => exact past.tick.snoc_still (.inr rfl)
    | keyDown k => exact past.keyDown k
    | keyUp k => exact past.keyUp k

/-- A step of a pending wait in which some key counts ends the wait with the smallest such key. -/
theorem step_answered (pending : Pending down x history i) (some : ∃ k, Counts down history k) :
    ∃ key, Counts down history key ∧ (∀ l, Counts down history l → key ≤ l) ∧
      i.step.answer = .ok .running ∧ i.step.interpreter = i.answered x key ∧
      (i.answered x key).machine.pc = i.machine.pc + 2 := by
  have low := i.machine.pc_nonneg
  have high := pending.pc_le
  cases struck : i.machine.keypad.newlyPressed with
  | none =>
    obtain ⟨k, counts⟩ := some
    have absent := (KeySet.least?_eq_none_iff _).mp struck k
    rw [(pending.candidates k).mpr counts] at absent
    cases absent
  | some key =>
    obtain ⟨member, least⟩ := (KeySet.least?_eq_some_iff _ _).mp struck
    refine ⟨key, (pending.candidates key).mp member, ?_, ?_, ?_, ?_⟩
    · intro l counts
      exact least l ((pending.candidates l).mpr counts)
    · simp only [step, pending.waiting, stepAwaitingKey, struck]
    · simp only [step, pending.waiting, stepAwaitingKey, struck]
      rw [← pending.keyRegister]
      rfl
    · exact Machine.toNat_ofInt _ (by omega) (by omega)

end Interpreter.Pending

/-- Whether a snapshot has been taken of an interpreter in use. -/
def Snapshot.Taken (s : Snapshot) : Prop :=
  ∃ b : Bench, b.Reachable ∧ s ∈ b.snapshots

/-- The interpreters with which a wait for a key for the register `x` begins: a step has executed
the instruction that waits, or a snapshot of a waiting machine has been restored. -/
inductive Interpreter.WaitBegins (x : Register) : Interpreter → Prop
  | executed (i : Interpreter) (w : Word) (running : i.machine.runState = .running)
      (seen : i.peek = .ok (w, .awaitKey x)) : WaitBegins x i.step.interpreter
  | restored (i : Interpreter) (s : Snapshot) (taken : s.Taken)
      (waits : s.machine.runState = .awaitingKey) (register : s.machine.keyRegister = x) :
      WaitBegins x (i.restore s).interpreter

namespace Interpreter

/-- A wait that begins is pending, with no history. -/
theorem Pending.of_beginWait {i : Interpreter} (keypad : Keypad)
    (begun : i.machine.keypad = keypad.beginWait) (waiting : i.machine.runState = .awaitingKey)
    (pc_le : i.machine.pc ≤ 0xFFE) :
    Pending i.machine.keypad.pressed i.machine.keyRegister [] i where
  waiting := waiting
  keyRegister := rfl
  pc_le := pc_le
  armed := by
    rw [begun]
    rfl
  held k := by
    rw [begun]
    exact ⟨fun member => ⟨member, List.not_mem_nil⟩, fun member => member.1⟩
  taps k := by
    rw [begun]
    constructor
    · intro member
      rw [Keypad.beginWait, KeySet.contains_empty] at member
      cases member
    · intro counts
      exact absurd counts Counts.not_nil
  consistent := by
    rw [begun]
    exact Keypad.consistent_beginWait keypad

/-- Every wait begins so. -/
theorem WaitBegins.pending {x : Register} {start : Interpreter} (begins : WaitBegins x start) :
    Pending start.machine.keypad.pressed x [] start := by
  cases begins with
  | executed i w running seen =>
    obtain ⟨fetched, _, _⟩ := (peek_eq_ok_iff i w _).mp seen
    have begun : i.step.interpreter = i.onMachine fun m => m.awaitKey x :=
      (step_of_execute running seen rfl).2
    rw [begun]
    exact Pending.of_beginWait i.machine.keypad rfl rfl fetched
  | restored i s taken waits register =>
    obtain ⟨b, reached, member⟩ := taken
    have stands := (reached.sound.snapshots s member).waiting waits
    have awaiting := Machine.isAwaitingKey_iff.mpr waits
    rw [← register]
    refine Pending.of_beginWait i.machine.keypad ?_ waits stands.pc_le
    simp only [restore, replaceMachine, resumed, awaiting, if_true]

/-- After a wait has begun, every step before which no key counts finds the machine waiting and
changes nothing; and if some key counts before a step, and none did before the earlier steps, then
the step stores the smallest key that counts and goes on behind the instruction. -/
theorem wait_follows_history {x : Register} {start : Interpreter} (begins : WaitBegins x start)
    (history : List Action) (single : ∀ action ∈ history, action.Single) :
    let down := start.machine.keypad.pressed
    let i := start.play history
    ((∀ k, ¬Counts down history k) →
      i.step.answer = .ok .awaitingKey ∧ i.step.interpreter = i) ∧
    (Unanswered down history → (∃ k, Counts down history k) →
      ∃ key, Counts down history key ∧ (∀ l, Counts down history l → key ≤ l) ∧
        i.step.answer = .ok .running ∧ i.step.interpreter = i.answered x key ∧
        (i.answered x key).machine.pc = i.machine.pc + 2) := by
  intro down i
  constructor
  · intro none
    have pending := begins.pending.play history single (Unanswered.of_not_counts none)
    exact pending.step_idle none
  · intro unanswered some
    have pending := begins.pending.play history single unanswered
    exact pending.step_answered some

/-- The key `1` is down when a wait for the register `V3` begins. It goes down once more, which does
not count, then the keys `7` and `4` are struck. -/
theorem wait_follows_history_taps :
    let b := (Bench.fresh {} fun _ => 0).run [.load [0xF3, 0x0A], .act (.keyDown 1)]
    let history := [.keyDown 1, .keyDown 7, .keyDown 4, .keyUp 4, .tick]
    let start := b.interpreter.step.interpreter
    start.WaitBegins 3 ∧ Unanswered start.machine.keypad.pressed history ∧
      Counts start.machine.keypad.pressed history 4 ∧
      ∃ key, Counts start.machine.keypad.pressed history key ∧ key ≤ 4 ∧
        (start.play history).step.interpreter = (start.play history).answered 3 key := by
  intro b history start
  have seen : b.interpreter.peek = .ok (0xF30A, .awaitKey 3) :=
    (peek_eq_ok_iff _ _ _).mpr ⟨by decide +kernel, by decide +kernel, by decide +kernel⟩
  have begins : start.WaitBegins 3 := .executed b.interpreter 0xF30A (by decide +kernel) seen
  have unanswered : Unanswered start.machine.keypad.pressed history := by
    intro before after parts
    have member : Action.step ∈ history := by
      rw [parts]
      exact List.mem_append_right before List.mem_cons_self
    exact absurd member (by decide)
  have counts : Counts start.machine.keypad.pressed history 4 :=
    ⟨[.keyDown 1, .keyDown 7], [.keyUp 4, .tick], rfl, .inl (by decide +kernel)⟩
  have single : ∀ action ∈ history, action.Single := by
    simp [history, Action.Single]
  obtain ⟨key, holds, least, _, answered, _⟩ :=
    (wait_follows_history begins history single).2 unanswered ⟨4, counts⟩
  exact ⟨begins, unanswered, counts, key, holds, least 4 counts, answered⟩

end Interpreter

end Chip8
