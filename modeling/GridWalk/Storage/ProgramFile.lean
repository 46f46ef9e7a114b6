import GridWalk.Program
import GridWalk.Storage.Access
import GridWalk.Text.Quoted

namespace GridWalk

-- Why a program cannot be loaded, changed or saved.
inductive ProgramError where
  | file (path : String) (cause : FileError)
  | decode (path : String) (cause : DecodeError)
  | tooLarge (width height : Nat)
  | outOfGrid (cause : OutOfGrid)
  deriving DecidableEq

namespace ProgramError

def message : ProgramError → String
  | file path cause => s!"cannot access {path}: {cause.message}"
  | decode path cause => s!"{path} is not a valid program: {cause.message}"
  | tooLarge width height =>
      s!"a {width}x{height} grid is too large to save (limit 2147483647 per side)"
  | outOfGrid cause => cause.message

-- The error as a record with its fields, for reports on a failed command.
def record : ProgramError → String
  | file path cause => s!"Io \x7b path: {Text.quote path}, source: {cause.record} \x7d"
  | decode path cause => s!"Decode \x7b path: {Text.quote path}, source: {cause.record} \x7d"
  | tooLarge width height => s!"TooLarge \x7b width: {width}, height: {height} \x7d"
  | outOfGrid cause =>
      s!"OutOfGrid \x7b point: Point \x7b x: {cause.point.x}, y: {cause.point.y} \x7d, " ++
        s!"width: {cause.width}, height: {cause.height} \x7d"

end ProgramError

namespace Program

def load (path : String) : Access (Except ProgramError Program) := do
  match ← Access.reading path with
  | .error cause => return .error (.file path cause)
  | .ok bytes =>
      match decode bytes with
      | .error cause => return .error (.decode path cause)
      | .ok program => return .ok program

-- Replaces a file. Nothing is written if the sides do not fit the header.
def save (path : String) (program : Program) : Access (Except ProgramError Unit) := do
  if program.grid.fitsHeader then
    match ← Access.writing path program.encode with
    | .error cause => return .error (.file path cause)
    | .ok () => return .ok ()
  else return .error (.tooLarge program.grid.width program.grid.height)

-- Changes one cell of a program file and gives back what the cell held.
def paint (path : String) (point : Point) (i : Instruction) :
    Access (Except ProgramError Instruction) := do
  match ← load path with
  | .error e => return .error e
  | .ok program =>
      match program.grid.set point i with
      | .error cause => return .error (.outOfGrid cause)
      | .ok (previous, grid) =>
          match ← save path ⟨grid, program.start⟩ with
          | .error e => return .error e
          | .ok () => return .ok previous

end Program

end GridWalk
