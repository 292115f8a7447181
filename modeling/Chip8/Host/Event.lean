import Chip8.Keypad

/-!
# Events

What the window tells the host. Keys are known by their codes: sixteen of them are the keypad,
laid out as a square on the left of the keyboard, and some others command the host.
-/

namespace Chip8

/-- Something that happens to the window. -/
inductive Event where
  | keyDown (code : Int)
  | keyUp (code : Int)
  /-- The window is to be closed. -/
  | quit
  /-- Something of no interest. -/
  | other
  deriving DecidableEq, Repr

/-- A key code with the key that it stands for. -/
def layoutEntry (code : Int) (key : Nat) : Int × Key :=
  (code, Nibble.ofNat key)

/-- The key codes of the keypad, row by row. -/
def keyLayout : List (Int × Key) := [
  layoutEntry 49 0x1, layoutEntry 50 0x2, layoutEntry 51 0x3, layoutEntry 52 0xC,
  layoutEntry 113 0x4, layoutEntry 119 0x5, layoutEntry 101 0x6, layoutEntry 114 0xD,
  layoutEntry 97 0x7, layoutEntry 115 0x8, layoutEntry 100 0x9, layoutEntry 102 0xE,
  layoutEntry 122 0xA, layoutEntry 120 0x0, layoutEntry 99 0xB, layoutEntry 118 0xF]

/-- The key of the keypad that a key code stands for. -/
def Key.ofCode? (code : Int) : Option Key :=
  keyLayout.lookup code

/-- What a key does when it goes down. -/
inductive HotKey where
  | leave
  | pause
  | overlay
  | reset
  | save
  | restore
  | keypad (key : Key)
  deriving DecidableEq, Repr

/-- What the key of a given code does. -/
def HotKey.ofCode? (code : Int) : Option HotKey :=
  if code = 27 then some .leave
  else if code = 112 then some .pause
  else if code = 1073741882 then some .overlay
  else if code = 1073741886 then some .reset
  else if code = 1073741887 then some .save
  else if code = 1073741888 then some .restore
  else (Key.ofCode? code).map .keypad

end Chip8
