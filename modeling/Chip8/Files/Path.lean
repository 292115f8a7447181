/-!
# Paths

The name of a file as the directories that lead to it. Empty parts and single dots lead nowhere and
are dropped; two dots are kept, because they depend on what is there.
-/

namespace Chip8

/-- Where a path starts. -/
inductive PathRoot where
  /-- In the current directory. -/
  | here
  /-- At the root of the file tree. -/
  | root
  /-- At the second root, which is written with exactly two slashes. -/
  | doubleRoot
  deriving DecidableEq, Repr

/-- A start and the names that lead on from there. -/
structure Path where
  start : PathRoot := .here
  parts : List String := []
  deriving DecidableEq, Repr

namespace Path

/-- Where a written path starts: three or more slashes count as one. -/
def startOf : List Char → PathRoot
  | '/' :: '/' :: '/' :: _ => .root
  | '/' :: '/' :: _ => .doubleRoot
  | '/' :: _ => .root
  | _ => .here

/-- The path that a text denotes. -/
def ofString (s : String) : Path where
  start := startOf s.toList
  parts := (s.splitOn "/").filter fun part => part != "" && part != "."

/-- The text of a start. -/
def startText : PathRoot → String
  | .here => ""
  | .root => "/"
  | .doubleRoot => "//"

/-- The text of a path; the current directory is a dot. -/
def text (p : Path) : String :=
  let written := startText p.start ++ "/".intercalate p.parts
  if written = "" then "." else written

/-- The path of the directory that holds what a path leads to, as far as its names tell. -/
def parent (p : Path) : Path :=
  { p with parts := p.parts.dropLast }

/-- The path that goes on with one more name. -/
def child (p : Path) (name : String) : Path :=
  { p with parts := p.parts ++ [name] }

/-- A name without its last ending. A dot at either end of the name begins no ending. -/
def withoutEnding (name : String) : String :=
  let cs := name.toList
  let ending := (cs.reverse.takeWhile (· != '.')).length
  let stem := cs.length - ending - 1
  if 0 < ending && 0 < stem then String.ofList (cs.take stem) else name

/-- The last name of a path without its last ending. -/
def stem (p : Path) : String :=
  withoutEnding (p.parts.getLastD "")

end Path

end Chip8
