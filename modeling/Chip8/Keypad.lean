import Chip8.Nibble

/-!
# Keypad

Sixteen keys, each up or down. While the machine waits for a key the keypad also keeps book on the
wait: which keys were already down when it began, and which keys have been struck since. A key that
was down at the beginning counts only once it has been released and pressed again, and a key struck
and released between two looks at the keypad still counts.
-/

namespace Chip8

/-- One of the keys `0` to `F`. -/
abbrev Key := Nibble

/-- A key as its hexadecimal digit. -/
def Key.digit (k : Key) : Char :=
  (Nat.digitChar k).toUpper

/-- A set of keys. -/
structure KeySet where
  bits : BitVec 16 := 0
  deriving DecidableEq

namespace KeySet

/-- Whether a key belongs to the set. -/
def contains (s : KeySet) (k : Key) : Bool :=
  s.bits.getLsb k

/-- The set with a key added. -/
def insert (s : KeySet) (k : Key) : KeySet :=
  ⟨s.bits ||| BitVec.twoPow 16 k⟩

/-- The set with a key taken away. -/
def erase (s : KeySet) (k : Key) : KeySet :=
  ⟨s.bits &&& ~~~ BitVec.twoPow 16 k⟩

/-- The keys that belong to either of two sets. -/
def union (s t : KeySet) : KeySet :=
  ⟨s.bits ||| t.bits⟩

/-- The keys of `s` that do not belong to `t`. -/
def diff (s t : KeySet) : KeySet :=
  ⟨s.bits &&& ~~~ t.bits⟩

/-- The keys of the set in ascending order. -/
def toList (s : KeySet) : List Key :=
  (List.finRange 16).filter s.contains

/-- The smallest key of the set. -/
def least? (s : KeySet) : Option Key :=
  s.toList.head?

/-- A set is known by its keys. -/
theorem ext {s t : KeySet} (same : ∀ k, s.contains k = t.contains k) : s = t := by
  cases s with
  | mk a =>
    cases t with
    | mk b =>
      congr 1
      apply BitVec.eq_of_getLsbD_eq
      intro i hi
      exact same ⟨i, hi⟩

@[simp] theorem contains_empty (k : Key) : ({} : KeySet).contains k = false := by
  simp [contains]

@[simp] theorem contains_insert (s : KeySet) (k l : Key) :
    (s.insert k).contains l = (s.contains l || decide (k = l)) := by
  simp [contains, insert, BitVec.getElem_twoPow, Fin.ext_iff, eq_comm]

@[simp] theorem contains_erase (s : KeySet) (k l : Key) :
    (s.erase k).contains l = (s.contains l && !decide (k = l)) := by
  simp [contains, erase, BitVec.getElem_twoPow, Fin.ext_iff, eq_comm]

@[simp] theorem contains_union (s t : KeySet) (k : Key) :
    (s.union t).contains k = (s.contains k || t.contains k) := by
  simp [contains, union]

@[simp] theorem contains_diff (s t : KeySet) (k : Key) :
    (s.diff t).contains k = (s.contains k && !t.contains k) := by
  simp [contains, diff]

@[simp] theorem mem_toList (s : KeySet) (k : Key) : k ∈ s.toList ↔ s.contains k = true := by
  simp [toList]

end KeySet

/-- The keypad and its book on a pending wait. -/
structure Keypad where
  /-- The keys that are down. -/
  pressed : KeySet := {}
  /-- The keys that have been down without a break since the wait began. -/
  held : KeySet := {}
  /-- The keys struck since the wait began. -/
  taps : KeySet := {}
  /-- Whether keys that go down are entered as struck. -/
  armed : Bool := false
  deriving DecidableEq

namespace Keypad

/-- A key goes down. -/
def pressKey (p : Keypad) (k : Key) : Keypad :=
  { p with
    pressed := p.pressed.insert k
    taps := if p.armed && !p.held.contains k then p.taps.insert k else p.taps }

/-- A key goes up. -/
def releaseKey (p : Keypad) (k : Key) : Keypad :=
  { p with pressed := p.pressed.erase k, held := p.held.erase k }

/-- A key goes down; a number that names no key is ignored. -/
def press (p : Keypad) (k : Int) : Keypad :=
  match Nibble.ofInt? k with
  | some key => p.pressKey key
  | none => p

/-- A key goes up; a number that names no key is ignored. -/
def release (p : Keypad) (k : Int) : Keypad :=
  match Nibble.ofInt? k with
  | some key => p.releaseKey key
  | none => p

/-- Whether the key that the low four bits of an integer name is down. -/
def isPressed (p : Keypad) (k : Int) : Bool :=
  p.pressed.contains (Nibble.ofInt k)

/-- A wait begins: the keys that are down will not count, and none has been struck yet. -/
def beginWait (p : Keypad) : Keypad :=
  { p with held := p.pressed, taps := {}, armed := true }

/-- The wait is over. -/
def endWait (p : Keypad) : Keypad :=
  { p with taps := {}, armed := false }

/-- The keys that would end a wait. -/
def candidates (p : Keypad) : KeySet :=
  (p.pressed.diff p.held).union p.taps

/-- The smallest key pressed since the wait began. -/
def newlyPressed (p : Keypad) : Option Key :=
  p.candidates.least?

/-- The keys that are down, on one line. -/
def text (p : Keypad) : String :=
  "Keypad(pressed=[" ++ ", ".intercalate (p.pressed.toList.map fun k => k.digit.toString) ++ "])"

end Keypad

end Chip8
