/-!
# Cyclic indices

The indices of a row whose ends meet: the one before the first is the last, the one after the last
is the first, and every integer falls on one of them.
-/

namespace Chip8.Cyclic

/-- The index before `i`. -/
def before {n : Nat} (i : Fin n) : Fin n :=
  ⟨(i + (n - 1)) % n, Nat.mod_lt _ i.pos⟩

/-- The index after `i`. -/
def after {n : Nat} (i : Fin n) : Fin n :=
  ⟨(i + 1) % n, Nat.mod_lt _ i.pos⟩

/-- A row that has indices at all. -/
class Positive (n : Nat) : Prop where
  pos : 0 < n

/-- A row with one index more than some number has one. -/
instance (n : Nat) : Positive (n + 1) where
  pos := Nat.succ_pos n

/-- The index that an integer falls on. -/
def wrap (n : Nat) [Positive n] (k : Int) : Fin n :=
  ⟨(k % n).toNat, by
    have positive : 0 < (n : Int) := Int.natCast_pos.mpr Positive.pos
    have low := Int.emod_nonneg k (Int.ne_of_gt positive)
    have high := Int.emod_lt_of_pos k positive
    omega⟩

/-- Going back and then on again leads nowhere. -/
@[simp] theorem after_before {n : Nat} (i : Fin n) : after (before i) = i := by
  have positive := i.pos
  apply Fin.ext
  simp only [after, before]
  rw [Nat.mod_add_mod, show i.val + (n - 1) + 1 = i.val + n by omega, Nat.add_mod_right,
    Nat.mod_eq_of_lt i.isLt]

/-- Going on and then back again leads nowhere. -/
@[simp] theorem before_after {n : Nat} (i : Fin n) : before (after i) = i := by
  have positive := i.pos
  apply Fin.ext
  simp only [after, before]
  rw [Nat.mod_add_mod, show i.val + 1 + (n - 1) = i.val + n by omega, Nat.add_mod_right,
    Nat.mod_eq_of_lt i.isLt]

/-- A natural number falls on its remainder. -/
theorem val_wrap_natCast (n : Nat) [Positive n] (k : Nat) : (wrap n (k : Int)).val = k % n := by
  show ((k : Int) % n).toNat = k % n
  rw [← Int.natCast_emod, Int.toNat_natCast]

end Chip8.Cyclic
