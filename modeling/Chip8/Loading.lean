import Chip8.Files.Tree
import Chip8.Machine.Interpreter

/-!
# Loading a program from a file
-/

namespace Chip8

/-- The ways in which loading a file fails. -/
inductive LoadError where
  | file (error : FileError)
  | fault (fault : Fault)
  deriving DecidableEq, Repr

/-- The error in words. -/
def LoadError.message : LoadError → String
  | .file e => e.message
  | .fault f => f.message

/-- Loads the program that a file holds. `name` is how reports call the file. A file that cannot be
read or holds too much leaves the machine as it was. -/
def Interpreter.loadFile (i : Interpreter) (files : Files) (path : Path) (name : String) :
    Outcome LoadError Unit :=
  match files.read path with
  | .error e => { answer := .error (.file e), interpreter := i }
  | .ok bytes =>
    let o := i.load bytes
    { answer := o.answer.mapError .fault
      interpreter := o.interpreter
      reports := .fileRead bytes.length name :: o.reports }

end Chip8
