import Chip8.Proofs.Keypad
import Mathlib.Data.List.Induction

/-!
# The book of a keypad in use

Keys go down and up, under any integers as their numbers, and waits begin and end, in any order: a
wait may begin within a wait or end while keys are down. Main statement: after any calls the book of
the keypad is consistent, has numbers of keys only, and says of each number what the calls since the
last beginning of a wait say; and during a wait the answer is the smallest key that has been struck,
which no stroke can raise.
-/

namespace Chip8

/-- What changes a keypad. -/
inductive KeypadCall where
  | press (k : Int)
  | release (k : Int)
  | beginWait
  | endWait
  deriving DecidableEq, Repr

namespace KeySet

/-- The numbers of the keys of the set, in ascending order. -/
def numbers (s : KeySet) : List Int :=
  s.toList.map fun k => (k.val : Int)

/-- All numbers of a set are numbers of keys. -/
theorem range_of_mem_numbers {s : KeySet} {n : Int} (member : n ∈ s.numbers) :
    0 ≤ n ∧ n ≤ 15 := by
  obtain ⟨k, _, rfl⟩ := List.mem_map.mp member
  have bound := k.isLt
  omega

/-- What tells the keys of a set apart from the others tells its numbers apart from the others that
keys have. -/
theorem mem_numbers_iff {s : KeySet} {P : Int → Prop}
    (keys : ∀ k : Key, s.contains k = true ↔ P k.val) (n : Int) :
    n ∈ s.numbers ↔ (0 ≤ n ∧ n ≤ 15) ∧ P n := by
  constructor
  · intro member
    have range := range_of_mem_numbers member
    obtain ⟨k, listed, rfl⟩ := List.mem_map.mp member
    exact ⟨range, (keys k).mp ((mem_toList s k).mp listed)⟩
  · rintro ⟨range, holds⟩
    rcases Key.named_or_not n with ⟨k, rfl⟩ | other
    · exact List.mem_map_of_mem ((mem_toList s k).mpr ((keys k).mpr holds))
    · exact absurd (Int.toNat_of_nonneg range.1).symm (other ⟨n.toNat, by omega⟩)

/-- A set without keys has no numbers. -/
theorem numbers_eq_nil_iff {s : KeySet} : s.numbers = [] ↔ ∀ k, s.contains k = false := by
  rw [numbers, List.map_eq_nil_iff, List.eq_nil_iff_forall_not_mem]
  simp only [mem_toList, Bool.not_eq_true]

end KeySet

/-! ### The calls -/

namespace KeypadCall

variable {calls since : List KeypadCall} {call : KeypadCall} {n : Int} {down : Prop}

/-- Whether a number has been pressed and not released since. -/
def Down (calls : List KeypadCall) (n : Int) : Prop :=
  ∃ before after, calls = before ++ .press n :: after ∧ .release n ∉ after

/-- Whether a number has been struck in the calls since a wait began: it was pressed, and it was not
`down` at the beginning or had been released before. -/
def Struck (down : Prop) (since : List KeypadCall) (n : Int) : Prop :=
  ∃ front back, since = front ++ .press n :: back ∧ (¬down ∨ .release n ∈ front)

/-- At the beginning no number is down. -/
theorem not_down_nil : ¬Down [] n := by
  rintro ⟨before, after, parts, _⟩
  exact absurd parts.symm (List.append_ne_nil_of_right_ne_nil _ (List.cons_ne_nil _ _))

/-- At the beginning of a wait no number has been struck. -/
theorem not_struck_nil : ¬Struck down [] n := by
  rintro ⟨front, back, parts, _⟩
  exact absurd parts.symm (List.append_ne_nil_of_right_ne_nil _ (List.cons_ne_nil _ _))

/-- A number is down when it has just been pressed, or was down and has not just been released. -/
theorem down_snoc_iff :
    Down (calls ++ [call]) n ↔ call = .press n ∨ Down calls n ∧ call ≠ .release n := by
  constructor
  · rintro ⟨before, after, parts, kept⟩
    rcases snoc_eq_parts_iff.mp parts with ⟨rfl, rfl, rfl⟩ | ⟨rest, rfl, rfl⟩
    · exact .inl rfl
    · obtain ⟨kept, other⟩ := not_mem_snoc_iff.mp kept
      exact .inr ⟨⟨before, rest, rfl, kept⟩, other.symm⟩
  · rintro (rfl | ⟨⟨before, after, rfl, kept⟩, other⟩)
    · exact ⟨calls, [], rfl, List.not_mem_nil⟩
    · exact ⟨before, after ++ [call], by simp, not_mem_snoc_iff.mpr ⟨kept, other.symm⟩⟩

/-- A number has been struck when it was before, or the last call strikes it. -/
theorem struck_snoc_iff :
    Struck down (since ++ [call]) n ↔
      Struck down since n ∨ call = .press n ∧ (¬down ∨ .release n ∈ since) := by
  constructor
  · rintro ⟨front, back, parts, fresh⟩
    rcases snoc_eq_parts_iff.mp parts with ⟨rfl, rfl, rfl⟩ | ⟨rest, rfl, rfl⟩
    · exact .inr ⟨rfl, fresh⟩
    · exact .inl ⟨front, rest, rfl, fresh⟩
  · rintro (⟨front, back, rfl, fresh⟩ | ⟨rfl, fresh⟩)
    · exact ⟨front, back ++ [call], by simp, fresh⟩
    · exact ⟨since, [], rfl, fresh⟩

end KeypadCall

namespace Keypad

open KeypadCall

/-- The keypad after a call. -/
def apply (p : Keypad) : KeypadCall → Keypad
  | .press k => p.press k
  | .release k => p.release k
  | .beginWait => p.beginWait
  | .endWait => p.endWait

/-- The keypad after some calls. -/
def run (p : Keypad) (calls : List KeypadCall) : Keypad :=
  calls.foldl apply p

variable {p : Keypad}

/-- One more call is made at the end. -/
theorem run_snoc (p : Keypad) (calls : List KeypadCall) (call : KeypadCall) :
    p.run (calls ++ [call]) = (p.run calls).apply call := by
  rw [run, List.foldl_append]
  rfl

/-! ### Consistency -/

/-- Every call leaves a consistent book consistent. -/
theorem Consistent.apply (sound : p.Consistent) (call : KeypadCall) :
    (p.apply call).Consistent := by
  cases call with
  | press k => exact sound.press k
  | release k => exact sound.release k
  | beginWait => exact consistent_beginWait p
  | endWait => exact sound.endWait

/-- Any calls leave a consistent book consistent. -/
theorem Consistent.run (sound : p.Consistent) (calls : List KeypadCall) :
    (p.run calls).Consistent := by
  induction calls generalizing p with
  | nil => exact sound
  | cons call rest ih => exact ih (sound.apply call)

/-! ### What the book remembers -/

/-- A key is down when it has been pressed and not released since. -/
theorem pressed_run (calls : List KeypadCall) (k : Key) :
    (run {} calls).pressed.contains k = true ↔ Down calls k.val := by
  induction calls using List.reverseRecOn with
  | nil =>
    rw [run, List.foldl_nil, KeySet.contains_empty]
    exact ⟨(nomatch ·), fun down => absurd down not_down_nil⟩
  | append_singleton calls call ih =>
    rw [run_snoc, down_snoc_iff, ← ih]
    cases call with
    | press m => simp [apply, pressed_press, or_comm]
    | release m => simp [apply, pressed_release]
    | beginWait => simp [apply, beginWait]
    | endWait => simp [apply, endWait]

/-- Before the first wait begins the keypad is not on the watch and holds no key. -/
theorem run_unbegun {calls : List KeypadCall} (unbegun : .beginWait ∉ calls) :
    (run {} calls).armed = false ∧ ∀ k, (run {} calls).held.contains k = false := by
  induction calls using List.reverseRecOn with
  | nil => exact ⟨rfl, KeySet.contains_empty⟩
  | append_singleton calls call ih =>
    obtain ⟨unbegun, other⟩ := not_mem_snoc_iff.mp unbegun
    obtain ⟨calm, free⟩ := ih unbegun
    rw [run_snoc]
    cases call with
    | press m =>
      rw [apply, armed_press, held_press]
      exact ⟨calm, free⟩
    | release m =>
      rw [apply, armed_release]
      refine ⟨calm, fun k => ?_⟩
      rw [held_release, free k, Bool.false_and]
    | beginWait => exact absurd rfl other
    | endWait => exact ⟨rfl, free⟩

section Wait

variable {since : List KeypadCall} (last : .beginWait ∉ since) (p : Keypad)

include last

/-- A wait stays on the watch until it is ended. -/
theorem armed_since : (p.beginWait.run since).armed = true ↔ .endWait ∉ since := by
  induction since using List.reverseRecOn with
  | nil => simp [run, beginWait]
  | append_singleton since call ih =>
    obtain ⟨older, other⟩ := not_mem_snoc_iff.mp last
    rw [run_snoc, not_mem_snoc_iff, ← ih older]
    cases call with
    | press m => simp [apply, armed_press]
    | release m => simp [apply, armed_release]
    | beginWait => exact absurd rfl other
    | endWait => simp [apply, endWait]

/-- A key that was down when the wait began is held until it is released, be the wait ended or
not. -/
theorem held_since (k : Key) :
    (p.beginWait.run since).held.contains k = true ↔
      p.pressed.contains k = true ∧ .release k.val ∉ since := by
  induction since using List.reverseRecOn with
  | nil => simp [run, beginWait]
  | append_singleton since call ih =>
    obtain ⟨older, other⟩ := not_mem_snoc_iff.mp last
    rw [run_snoc, not_mem_snoc_iff, ← and_assoc, ← ih older]
    cases call with
    | press m => simp [apply, held_press]
    | release m => simp [apply, held_release, eq_comm (a := m)]
    | beginWait => exact absurd rfl other
    | endWait => simp [apply, endWait]

/-- The keys that are entered are those struck since the wait began, unless it has been ended. -/
theorem taps_since (k : Key) :
    (p.beginWait.run since).taps.contains k = true ↔
      .endWait ∉ since ∧ Struck (p.pressed.contains k = true) since k.val := by
  induction since using List.reverseRecOn with
  | nil =>
    rw [run, List.foldl_nil, beginWait, KeySet.contains_empty]
    exact ⟨(nomatch ·), fun entered => absurd entered.2 not_struck_nil⟩
  | append_singleton since call ih =>
    obtain ⟨older, other⟩ := not_mem_snoc_iff.mp last
    have entered := ih older
    rw [run_snoc, struck_snoc_iff, not_mem_snoc_iff]
    cases call with
    | press m =>
      -- A stroke is entered when the wait is pending and the key is not held.
      have fresh : (p.beginWait.run since).held.contains k = false ↔
          ¬p.pressed.contains k = true ∨ .release k.val ∈ since := by
        rw [← Bool.not_eq_true, held_since older p k, not_and_or, not_not]
      rw [apply, taps_press, Bool.or_eq_true, entered, Bool.and_eq_true, Bool.and_eq_true,
        armed_since older p, Bool.not_eq_true', fresh, decide_eq_true_eq, and_assoc, ← and_or_left,
        and_iff_left (nomatch ·), KeypadCall.press.injEq, and_comm (a := m = k.val)]
    | release m => simpa [apply, taps_release] using entered
    | beginWait => exact absurd rfl other
    | endWait =>
      rw [apply, endWait, KeySet.contains_empty]
      simp

end Wait

/-- The calls from the last beginning of a wait on are made on a keypad whose wait begins. -/
theorem run_begun (p : Keypad) (before since : List KeypadCall) :
    p.run (before ++ .beginWait :: since) = (p.run before).beginWait.run since := by
  rw [run, List.foldl_append]
  rfl

/-- What the book of a new keypad says of the last wait, number by number, when the wait began
behind the calls `before` and the calls `since` have come after that. -/
structure RecordsWait (before since : List KeypadCall) (p : Keypad) : Prop where
  /-- The keypad is on the watch when the wait has not been ended. -/
  armed : p.armed = true ↔ .endWait ∉ since
  /-- A key is held when it was down as the wait began and has not been released since. -/
  held : ∀ n, n ∈ p.held.numbers ↔ (0 ≤ n ∧ n ≤ 15) ∧ Down before n ∧ .release n ∉ since
  /-- A key is entered when it has been struck since the wait began, and the wait has not ended. -/
  taps : ∀ n, n ∈ p.taps.numbers ↔
    (0 ≤ n ∧ n ≤ 15) ∧ .endWait ∉ since ∧ Struck (Down before n) since n

/-- What the book of a new keypad says behind some calls, number by number. -/
structure Records (calls : List KeypadCall) (p : Keypad) : Prop where
  /-- A key is down when it has been pressed and not released since. -/
  pressed : ∀ n, n ∈ p.pressed.numbers ↔ (0 ≤ n ∧ n ≤ 15) ∧ Down calls n
  /-- Nothing is entered before the first wait begins. -/
  unbegun : .beginWait ∉ calls → p.armed = false ∧ p.held.numbers = [] ∧ p.taps.numbers = []
  /-- Once a wait has begun, the last one that has is recorded. -/
  begun : ∀ before since, calls = before ++ .beginWait :: since → .beginWait ∉ since →
    p.RecordsWait before since

/-- The book records the last wait that has begun. -/
theorem recordsWait_run {before since : List KeypadCall} (last : .beginWait ∉ since) :
    (run {} (before ++ .beginWait :: since)).RecordsWait before since := by
  rw [run_begun]
  refine ⟨armed_since last _, KeySet.mem_numbers_iff fun k => ?_,
    KeySet.mem_numbers_iff fun k => ?_⟩
  · rw [held_since last, pressed_run]
  · rw [taps_since last, pressed_run]

/-- The book records all calls. -/
theorem records_run (calls : List KeypadCall) : (run {} calls).Records calls where
  pressed := KeySet.mem_numbers_iff (pressed_run calls)
  unbegun unbegun := by
    obtain ⟨calm, free⟩ := run_unbegun unbegun
    have quiet := (consistent_initial.run calls).quiet calm
    exact ⟨calm, KeySet.numbers_eq_nil_iff.mpr free, KeySet.numbers_eq_nil_iff.mpr quiet⟩
  begun before since parts last := by
    rw [parts]
    exact recordsWait_run last

/-! ### Keys that end a wait -/

/-- A stroke leaves the watch as it is and takes no key out of the book. -/
theorem apply_keeps (p : Keypad) {call : KeypadCall} (begun : call ≠ .beginWait)
    (ended : call ≠ .endWait) :
    (p.apply call).armed = p.armed ∧
      ∀ k, p.taps.contains k = true → (p.apply call).taps.contains k = true := by
  cases call with
  | press m =>
    refine ⟨p.armed_press m, fun k entered => ?_⟩
    rw [apply, taps_press, entered, Bool.true_or]
  | release m =>
    refine ⟨p.armed_release m, fun k entered => ?_⟩
    rw [apply, taps_release, entered]
  | beginWait => exact absurd rfl begun
  | endWait => exact absurd rfl ended

/-- Strokes leave the watch as it is and take no key out of the book. -/
theorem run_keeps (p : Keypad) {later : List KeypadCall} (begun : .beginWait ∉ later)
    (ended : .endWait ∉ later) :
    (p.run later).armed = p.armed ∧
      ∀ k, p.taps.contains k = true → (p.run later).taps.contains k = true := by
  induction later generalizing p with
  | nil => exact ⟨rfl, fun _ entered => entered⟩
  | cons call rest ih =>
    rw [List.mem_cons, not_or] at begun ended
    obtain ⟨armed, kept⟩ := p.apply_keeps (Ne.symm begun.1) (Ne.symm ended.1)
    obtain ⟨armed', kept'⟩ := ih (p.apply call) begun.2 ended.2
    exact ⟨armed'.trans armed, fun k entered => kept' k (kept k entered)⟩

/-- After any calls on a new keypad its book is consistent: a held key is down, nothing is entered
outside a wait, and during a wait each key that is down and not held has been entered. Only numbers
of keys are held or entered, and just those that the calls tell, whatever they are. During a wait
the answer is the smallest key that has been entered, if there is one. A key that would end the
wait stays one, whatever goes down or up until the wait ends or another begins, so the answer can
only fall. -/
theorem book_after_calls (calls : List KeypadCall) :
    let p := run {} calls
    p.Consistent ∧
    (∀ n, n ∈ p.held.numbers ∨ n ∈ p.taps.numbers → 0 ≤ n ∧ n ≤ 15) ∧
    p.Records calls ∧
    (p.armed = true →
      (∀ k, p.newlyPressed = some k ↔
        p.taps.contains k = true ∧ ∀ l, p.taps.contains l = true → k ≤ l) ∧
      (p.newlyPressed = none ↔ p.taps.numbers = []) ∧
      ∀ later, .beginWait ∉ later → .endWait ∉ later →
        (∀ k, p.candidates.contains k = true → (p.run later).candidates.contains k = true) ∧
        ∀ k, p.newlyPressed = some k → ∃ l, (p.run later).newlyPressed = some l ∧ l ≤ k) := by
  intro p
  have sound : p.Consistent := consistent_initial.run calls
  refine ⟨sound, ?_, records_run calls, fun armed => ?_⟩
  · rintro n (held | entered)
    · exact KeySet.range_of_mem_numbers held
    · exact KeySet.range_of_mem_numbers entered
  have answer : p.newlyPressed = p.taps.least? := by
    rw [newlyPressed, sound.candidates_eq armed]
  refine ⟨fun k => ?_, ?_, fun later begun ended => ?_⟩
  · rw [answer, KeySet.least?_eq_some_iff]
  · rw [answer, KeySet.least?_eq_none_iff, KeySet.numbers_eq_nil_iff]
  · obtain ⟨still, kept⟩ := p.run_keeps begun ended
    have more : ∀ k, p.candidates.contains k = true →
        (p.run later).candidates.contains k = true := by
      rw [sound.candidates_eq armed, (sound.run later).candidates_eq (still.trans armed)]
      exact kept
    exact ⟨more, fun k found => KeySet.exists_least?_le more found⟩

/-- A wait begins within a wait while the keys `5` and `3` are down. The key `5` goes down once more,
which does not count, `C` is struck and released, and `3` is released and struck again; then `1` is
struck and `3` released. -/
theorem book_after_calls_taps :
    let before := [.press 5, .press 16, .beginWait, .press 3]
    let since := [.press 5, .press 12, .release 12, .release 3, .press 3, .press (-1)]
    let p := run {} (before ++ .beginWait :: since)
    let q := p.run [.press 1, .release 1, .release 3, .press 16]
    p.RecordsWait before since ∧ p.held.numbers = [5] ∧ p.taps.numbers = [3, 12] ∧
      p.armed = true ∧ p.newlyPressed = some 3 ∧ p.candidates.contains 12 = true ∧
      q.candidates.contains 12 = true ∧ ∃ l, q.newlyPressed = some l ∧ l ≤ 3 := by
  intro before since p q
  have armed : p.armed = true := by decide +kernel
  have candidate : p.candidates.contains 12 = true := by decide +kernel
  have found : p.newlyPressed = some 3 := by decide +kernel
  obtain ⟨_, _, records, watch⟩ := book_after_calls (before ++ .beginWait :: since)
  obtain ⟨_, _, later⟩ := watch armed
  obtain ⟨kept, falls⟩ := later [.press 1, .release 1, .release 3, .press 16] (by decide)
    (by decide)
  exact ⟨records.begun before since rfl (by decide), by decide +kernel, by decide +kernel, armed,
    found, candidate, kept 12 candidate, falls 3 found⟩

end Keypad

end Chip8
