import Chip8.Files.Path
import Chip8.Text.Quoted

/-!
# Files

A tree of files below a current directory and below the root. A place in it is given by the names
that lead there; a place below the root begins with the name `/`, which no file has. Above the
current directory nothing is known but that directories lead back there, and a place there begins
with two dots for every directory gone back.
-/

namespace Chip8

open Text

/-- What a name can stand for. -/
inductive Entry where
  | file (bytes : List UInt8)
  | directory
  deriving DecidableEq, Repr

/-- The reasons for which a file cannot be read or written. -/
inductive FileProblem where
  | missing
  | alreadyThere
  | notDirectory
  | isDirectory
  | nameTooLong
  /-- The path holds a character that no path can hold. -/
  | nameHoldsNul
  deriving DecidableEq, Repr

/-- A failed attempt to read or write a file. -/
structure FileError where
  problem : FileProblem
  path : Path
  deriving DecidableEq, Repr

/-- The error in words, with its number. A path that cannot be one has no number and is not
repeated. -/
def FileError.message (e : FileError) : String :=
  let numbered (reason : String) := s!"{reason}: {quoted e.path.text}"
  match e.problem with
  | .missing => numbered "[Errno 2] No such file or directory"
  | .alreadyThere => numbered "[Errno 17] File exists"
  | .notDirectory => numbered "[Errno 20] Not a directory"
  | .isDirectory => numbered "[Errno 21] Is a directory"
  | .nameTooLong => numbered "[Errno 36] File name too long"
  | .nameHoldsNul => "embedded null byte"

/-- Everything in the tree, each under the names that lead to it. -/
structure Files where
  entries : List (List String × Entry) := []

namespace Files

/-- The place of the root. -/
def root : List String := ["/"]

/-- Whether a place is the current directory or one that leads there. -/
def isAbove (place : List String) : Bool :=
  place.all fun name => name == ".."

/-- What is at a place. -/
def entry? (fs : Files) (place : List String) : Option Entry :=
  if isAbove place || place == root then some .directory else fs.entries.lookup place

/-- Takes away whatever is at a place. -/
def removeAt (fs : Files) (place : List String) : Files :=
  ⟨fs.entries.filter fun e => e.1 != place⟩

/-- Puts an entry at a place. -/
def putAt (fs : Files) (place : List String) (entry : Entry) : Files :=
  ⟨(place, entry) :: (fs.removeAt place).entries⟩

/-- One directory back from a place; the way back from the root leads to the root. -/
def parent (place : List String) : List String :=
  if place = root then root
  else if isAbove place then ".." :: place
  else place.dropLast

/-- The place where a path starts. -/
def startOf (p : Path) : List String :=
  if p.start = .here then [] else root

/-- The longest name of a single file, in bytes. -/
def nameLimit : Nat := 255

/-- The longest path, in bytes. -/
def pathLimit : Nat := 4095

/-- Refuses a path that cannot be one. -/
def check (p : Path) : Except FileProblem Unit :=
  if p.text.toList.contains '\x00' then .error .nameHoldsNul
  else if pathLimit < p.text.utf8ByteSize then .error .nameTooLong
  else .ok ()

/-- The place to which names lead from a place. All but the last have to stand for directories. -/
def follow (fs : Files) (place : List String) : List String → Except FileProblem (List String)
  | [] => .ok place
  | name :: rest =>
    if name = ".." then fs.follow (parent place) rest
    else if nameLimit < name.utf8ByteSize then .error .nameTooLong
    else
      match fs.entry? (place ++ [name]) with
      | none => .error .missing
      | some .directory => fs.follow (place ++ [name]) rest
      | some (.file _) => if rest.isEmpty then .ok (place ++ [name]) else .error .notDirectory

/-- The place to which a path leads. -/
def locate (fs : Files) (p : Path) : Except FileProblem (List String) :=
  match check p with
  | .error problem => .error problem
  | .ok () => fs.follow (startOf p) p.parts

/-- The contents of a file. -/
def read (fs : Files) (p : Path) : Except FileError (List UInt8) :=
  match fs.locate p with
  | .error problem => .error ⟨problem, p⟩
  | .ok place =>
    match fs.entry? place with
    | some (.file bytes) => .ok bytes
    | some .directory => .error ⟨.isDirectory, p⟩
    | none => .error ⟨.missing, p⟩

/-- An attempt to change the files: what has become of them, and why it failed if it did. What was
done before a failure stays done. -/
structure Change where
  files : Files
  failure : Option FileError := none

/-- Takes a file away. A directory stays, and what is not there need not be taken away; only a name
that is too long is refused. -/
def remove (fs : Files) (p : Path) : Change :=
  match fs.locate p with
  | .error .nameTooLong => { files := fs, failure := some ⟨.nameTooLong, p⟩ }
  | .error _ => { files := fs }
  | .ok place =>
    match fs.entry? place with
    | some (.file _) => { files := fs.removeAt place }
    | _ => { files := fs }

/-- Follows names from a place and makes a directory of every name that stands for nothing yet. A
failure is put down to the path that has been walked by then. -/
def enter (fs : Files) (place : List String) (walked : Path) : List String → Change
  | [] => { files := fs }
  | name :: rest =>
    let here := walked.child name
    if name = ".." then fs.enter (parent place) here rest
    else if nameLimit < name.utf8ByteSize then
      { files := fs, failure := some ⟨.nameTooLong, here⟩ }
    else
      match fs.entry? (place ++ [name]) with
      | none => (fs.putAt (place ++ [name]) .directory).enter (place ++ [name]) here rest
      | some .directory => fs.enter (place ++ [name]) here rest
      | some (.file _) => { files := fs, failure := some ⟨.alreadyThere, here⟩ }

/-- Makes a directory, with all directories on the way, unless it is there. A path that leads astray
before anything is missing is refused as a whole. -/
def makeDirectory (fs : Files) (p : Path) : Change :=
  match fs.locate p with
  | .error .missing => fs.enter (startOf p) { p with parts := [] } p.parts
  | .error problem => { files := fs, failure := some ⟨problem, p⟩ }
  | .ok place =>
    match fs.entry? place with
    | some (.file _) => { files := fs, failure := some ⟨.alreadyThere, p⟩ }
    | _ => { files := fs }

/-- Writes a file of a given name in the directory at a place. -/
def writeAt (fs : Files) (place : List String) (name : String) (bytes : List UInt8) :
    Except FileProblem Files :=
  if name = ".." then .error .isDirectory
  else if nameLimit < name.utf8ByteSize then .error .nameTooLong
  else
    match fs.entry? (place ++ [name]) with
    | some .directory => .error .isDirectory
    | _ => .ok (fs.putAt (place ++ [name]) (.file bytes))

/-- Writes a file in a directory that is there. -/
def writeInto (fs : Files) (p : Path) (bytes : List UInt8) : Except FileProblem Files :=
  match check p, p.parts.getLast? with
  | .error problem, _ => .error problem
  | .ok (), none => .error .isDirectory
  | .ok (), some name =>
    match fs.follow (startOf p) p.parent.parts with
    | .error problem => .error problem
    | .ok place => fs.writeAt place name bytes

/-- Writes a file, with all directories on the way. -/
def write (fs : Files) (p : Path) (bytes : List UInt8) : Change :=
  let made := fs.makeDirectory p.parent
  match made.failure with
  | some _ => made
  | none =>
    match made.files.writeInto p bytes with
    | .error problem => { made with failure := some ⟨problem, p⟩ }
    | .ok files => { files := files }

end Files

end Chip8
