import Chip8.Keypad
import Mathlib.Order.Fin.Basic

/-!
# The book on a wait

The keypad keeps three sets and a mark: the keys that are down, those that have been down since the
wait began, those struck since then, and whether strokes are entered at all. Main statement:
whatever is done to a keypad, a held key is down, nothing is entered outside a wait, and during a
wait every key that is down and not held has been entered as struck.
-/

namespace Chip8

/-! ### Histories that grow at their end -/

/-- What stands in a history that has grown by one at its end is the last thing that happened, or
stood there before. -/
theorem snoc_eq_parts_iff {α : Type*} {history before after : List α} {last x : α} :
    history ++ [last] = before ++ x :: after ↔
      after = [] ∧ history = before ∧ last = x ∨
        ∃ rest, after = rest ++ [last] ∧ history = before ++ x :: rest := by
  constructor
  · intro parts
    rcases List.eq_nil_or_concat after with rfl | ⟨rest, other, rfl⟩
    · obtain ⟨rfl, same⟩ := List.append_inj' parts rfl
      exact .inl ⟨rfl, rfl, List.singleton_inj.mp same⟩
    · rw [List.concat_eq_append, ← List.cons_append, ← List.append_assoc] at parts
      obtain ⟨rfl, same⟩ := List.append_inj' parts rfl
      rw [List.concat_eq_append, same]
      exact .inr ⟨rest, rfl, rfl⟩
  · rintro (⟨rfl, rfl, rfl⟩ | ⟨rest, rfl, rfl⟩)
    · rfl
    · rw [List.append_assoc, List.cons_append]

/-- What has never happened in a history that has grown by one never happened before, and is not the
last thing that happened. -/
theorem not_mem_snoc_iff {α : Type*} {history : List α} {last x : α} :
    x ∉ history ++ [last] ↔ x ∉ history ∧ x ≠ last := by
  rw [List.mem_append, List.mem_singleton, not_or]

/-! ### Sets of keys and their numbers -/

namespace KeySet

/-- The smallest key of a set belongs to it, and none of its keys is smaller. -/
theorem least?_eq_some_iff (s : KeySet) (k : Key) :
    s.least? = some k ↔ s.contains k = true ∧ ∀ l, s.contains l = true → k ≤ l := by
  have ascending : s.toList.Pairwise (· < ·) :=
    (List.pairwise_lt_finRange 16).filter _
  rw [least?]
  cases keys : s.toList with
  | nil =>
    constructor
    · intro found
      cases found
    · rintro ⟨member, _⟩
      have listed := (mem_toList s k).mpr member
      rw [keys] at listed
      cases listed
  | cons first rest =>
    rw [keys, List.pairwise_cons] at ascending
    have below : ∀ l, s.contains l = true → first ≤ l := by
      intro l member
      have listed := (mem_toList s l).mpr member
      rw [keys, List.mem_cons] at listed
      rcases listed with rfl | later
      · exact le_refl _
      · exact (ascending.1 l later).le
    have member : s.contains first = true := by
      rw [← mem_toList, keys]
      exact List.mem_cons_self
    constructor
    · intro found
      obtain rfl := Option.some.inj found
      exact ⟨member, below⟩
    · rintro ⟨inside, least⟩
      exact congrArg some (le_antisymm (below k inside) (least first member))

/-- A set has no smallest key when it has no key. -/
theorem least?_eq_none_iff (s : KeySet) : s.least? = none ↔ ∀ k, s.contains k = false := by
  rw [least?, List.head?_eq_none_iff, List.eq_nil_iff_forall_not_mem]
  simp only [mem_toList, Bool.not_eq_true]

/-- A set with all keys of another has a smallest key that is no greater. -/
theorem exists_least?_le {s t : KeySet}
    (more : ∀ k, s.contains k = true → t.contains k = true) {k : Key} (least : s.least? = some k) :
    ∃ l, t.least? = some l ∧ l ≤ k := by
  have member := more k ((least?_eq_some_iff s k).mp least).1
  cases found : t.least? with
  | none =>
    rw [least?_eq_none_iff] at found
    rw [found k] at member
    cases member
  | some l => exact ⟨l, rfl, ((least?_eq_some_iff t l).mp found).2 k member⟩

end KeySet

namespace Key

/-- Keys are the same if their numbers are. -/
theorem int_inj {k l : Key} : (k.val : Int) = l.val ↔ k = l := by
  rw [Fin.ext_iff]
  omega

/-- An integer is the number of a key or of none. -/
theorem named_or_not (k : Int) : (∃ key : Key, k = key.val) ∨ ∀ l : Key, k ≠ l.val := by
  by_cases inside : 0 ≤ k ∧ k < 16
  · have number : k = (⟨k.toNat, by omega⟩ : Key).val := (Int.toNat_of_nonneg inside.1).symm
    exact .inl ⟨_, number⟩
  · right
    intro l same
    have bound := l.isLt
    omega

/-- The number of a key is that key. -/
theorem ofInt?_key (key : Key) : Nibble.ofInt? key.val = some key := by
  have bound := key.isLt
  rw [Nibble.ofInt?, dif_pos (by omega)]
  rfl

/-- Any other number is no key. -/
theorem ofInt?_other (k : Int) (other : ∀ l : Key, k ≠ l.val) : Nibble.ofInt? k = none := by
  rw [Nibble.ofInt?, dif_neg]
  intro inside
  exact other ⟨k.toNat, by omega⟩ (Int.toNat_of_nonneg inside.1).symm

end Key

namespace Keypad

/-! ### What keys do to the book -/

variable (p : Keypad) (k : Int)

/-- The number of a key presses that key. -/
theorem press_key (key : Key) : p.press key.val = p.pressKey key := by
  rw [press, Key.ofInt?_key]

/-- Only numbers of keys do anything. -/
theorem press_other (other : ∀ l : Key, k ≠ l.val) : p.press k = p := by
  rw [press, Key.ofInt?_other k other]

/-- The number of a key releases that key. -/
theorem release_key (key : Key) : p.release key.val = p.releaseKey key := by
  rw [release, Key.ofInt?_key]

/-- Only numbers of keys do anything. -/
theorem release_other (other : ∀ l : Key, k ≠ l.val) : p.release k = p := by
  rw [release, Key.ofInt?_other k other]

/-- A key that goes down leaves the watch as it is. -/
theorem armed_press : (p.press k).armed = p.armed := by
  unfold press
  split
  · rfl
  · rfl

/-- A key that goes down leaves the held keys as they are. -/
theorem held_press : (p.press k).held = p.held := by
  unfold press
  split
  · rfl
  · rfl

/-- A key goes down. -/
theorem pressed_press (l : Key) :
    (p.press k).pressed.contains l = (p.pressed.contains l || decide (k = l.val)) := by
  rcases Key.named_or_not k with ⟨key, rfl⟩ | other
  · simp only [press_key, pressKey, KeySet.contains_insert, Key.int_inj]
  · simp [press_other p k other, other l]

/-- On the watch, a key that goes down is entered as struck unless it is held. -/
theorem taps_press (l : Key) :
    (p.press k).taps.contains l =
      (p.taps.contains l || (p.armed && !p.held.contains l && decide (k = l.val))) := by
  rcases Key.named_or_not k with ⟨key, rfl⟩ | other
  · rw [press_key, pressKey]
    by_cases same : key = l
    · subst same
      cases p.armed && !p.held.contains key with
      | true => simp
      | false => simp
    · have apart : ¬(key.val : Int) = l.val := fun equal => same (Key.int_inj.mp equal)
      cases p.armed && !p.held.contains key with
      | true => simp [same, apart]
      | false => simp [apart]
  · simp [press_other p k other, other l]

/-- A key that goes up leaves the watch as it is. -/
theorem armed_release : (p.release k).armed = p.armed := by
  unfold release
  split
  · rfl
  · rfl

/-- A key that goes up stays struck. -/
theorem taps_release : (p.release k).taps = p.taps := by
  unfold release
  split
  · rfl
  · rfl

/-- A key goes up. -/
theorem pressed_release (l : Key) :
    (p.release k).pressed.contains l = (p.pressed.contains l && !decide (k = l.val)) := by
  rcases Key.named_or_not k with ⟨key, rfl⟩ | other
  · simp only [release_key, releaseKey, KeySet.contains_erase, Key.int_inj]
  · simp [release_other p k other, other l]

/-- A key that goes up is held no longer. -/
theorem held_release (l : Key) :
    (p.release k).held.contains l = (p.held.contains l && !decide (k = l.val)) := by
  rcases Key.named_or_not k with ⟨key, rfl⟩ | other
  · simp only [release_key, releaseKey, KeySet.contains_erase, Key.int_inj]
  · simp [release_other p k other, other l]

/-! ### What holds of the book -/

/-- What holds of the book on a wait. -/
structure Consistent (p : Keypad) : Prop where
  /-- A held key is down. -/
  held : ∀ k, p.held.contains k = true → p.pressed.contains k = true
  /-- Outside a wait no key is entered. -/
  quiet : p.armed = false → ∀ k, p.taps.contains k = false
  /-- During a wait a key that is down and not held has been struck. -/
  struck : p.armed = true → ∀ k, p.pressed.contains k = true → p.held.contains k = false →
    p.taps.contains k = true

/-- The book of a new keypad is empty. -/
theorem consistent_initial : Consistent {} where
  held _ member := member
  quiet _ k := KeySet.contains_empty k
  struck armed := by cases armed

/-- A key goes down. -/
theorem Consistent.press {p : Keypad} (sound : p.Consistent) (k : Int) :
    (p.press k).Consistent where
  held l member := by
    rw [held_press] at member
    rw [pressed_press, sound.held l member, Bool.true_or]
  quiet calm l := by
    rw [armed_press] at calm
    rw [taps_press, calm, sound.quiet calm l]
    rfl
  struck armed l down fresh := by
    rw [armed_press] at armed
    rw [held_press] at fresh
    rw [pressed_press] at down
    rw [taps_press, armed, fresh]
    rcases Bool.or_eq_true_iff.mp down with old | new
    · rw [sound.struck armed l old fresh, Bool.true_or]
    · simp [of_decide_eq_true new]

/-- A key goes up. -/
theorem Consistent.release {p : Keypad} (sound : p.Consistent) (k : Int) :
    (p.release k).Consistent where
  held l member := by
    rw [held_release, Bool.and_eq_true] at member
    rw [pressed_release, sound.held l member.1, member.2]
    rfl
  quiet calm l := by
    rw [armed_release] at calm
    rw [taps_release, sound.quiet calm l]
  struck armed l down fresh := by
    rw [armed_release] at armed
    rw [pressed_release, Bool.and_eq_true] at down
    rw [held_release, down.2, Bool.and_true] at fresh
    rw [taps_release, sound.struck armed l down.1 fresh]

/-- A wait that begins starts a new book. -/
theorem consistent_beginWait (p : Keypad) : p.beginWait.Consistent where
  held _ member := member
  quiet calm := by cases calm
  struck _ k down fresh := by
    have down' : p.pressed.contains k = true := down
    have fresh' : p.pressed.contains k = false := fresh
    rw [down'] at fresh'
    cases fresh'

/-- The end of a wait keeps the book consistent. -/
theorem Consistent.endWait {p : Keypad} (sound : p.Consistent) : p.endWait.Consistent where
  held := sound.held
  quiet _ k := KeySet.contains_empty k
  struck armed := by cases armed

/-- During a wait the keys that would end it are those that have been struck. -/
theorem Consistent.candidates_eq {p : Keypad} (sound : p.Consistent) (armed : p.armed = true) :
    p.candidates = p.taps := by
  apply KeySet.ext
  intro k
  rw [candidates, KeySet.contains_union, KeySet.contains_diff, Bool.or_eq_right_iff_imp,
    Bool.and_eq_true, Bool.not_eq_true']
  rintro ⟨down, fresh⟩
  exact sound.struck armed k down fresh

end Keypad

end Chip8
