/-!
# Nibbles

Numbers of four bits. They name registers and keys.
-/

namespace Chip8

/-- A number of four bits. -/
abbrev Nibble := Fin 16

namespace Nibble

/-- The least nibble. -/
def zero : Nibble := ⟨0, Nat.succ_pos 15⟩

/-- An integer as a nibble, if it is one. -/
def ofInt? (i : Int) : Option Nibble :=
  if h : 0 ≤ i ∧ i < 16 then some ⟨i.toNat, by omega⟩ else none

/-- The low four bits of a number. -/
def ofNat (n : Nat) : Nibble :=
  ⟨n % 16, Nat.mod_lt n (Nat.succ_pos 15)⟩

/-- The low four bits of an integer, in two's complement. -/
def ofInt (i : Int) : Nibble :=
  ofNat (i % 16).toNat

end Nibble

end Chip8
