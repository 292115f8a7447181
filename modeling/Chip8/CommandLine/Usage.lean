/-!
# Usage texts
-/

namespace Chip8.CommandLine

/-- How the command is written. -/
def usage : String :=
  "usage: meowchip [-h] [--hz HZ] [--scale SCALE]\n" ++
  "                [--color \x7bgreen,amber,white,blue\x7d] [--quirks \x7bchip8,modern\x7d]\n" ++
  "                [--debug]\n" ++
  "                rom\n"

/-- The answer to a request for help. -/
def help : String :=
  usage ++
  "\n" ++
  "Cat's CHIP-8 Emulator\n" ++
  "\n" ++
  "positional arguments:\n" ++
  "  rom                   CHIP-8 ROM file\n" ++
  "\n" ++
  "options:\n" ++
  "  -h, --help            show this help message and exit\n" ++
  "  --hz HZ               instructions per second\n" ++
  "  --scale SCALE         window pixels per CHIP-8 pixel\n" ++
  "  --color \x7bgreen,amber,white,blue\x7d\n" ++
  "  --quirks \x7bchip8,modern\x7d\n" ++
  "                        interpreter conventions the ROM expects\n" ++
  "  --debug               log every instruction and show the register overlay\n"

/-- The keys that the host obeys. -/
def controls : String :=
  "Controls:\n" ++
  "  CHIP-8 Keypad: 1234 / QWER / ASDF / ZXCV\n" ++
  "  P = Pause/Resume   F1 = Debug   F5 = Reset\n" ++
  "  F6 = Save state    F7 = Load state   ESC = Exit\n"

end Chip8.CommandLine
