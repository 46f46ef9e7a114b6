import GridWalk.Program
import GridWalk.Machine.Basic

namespace GridWalk

open Text

-- A value put into a memory cell before the first step.
structure Preset where
  index : Nat
  value : Int32
  deriving DecidableEq

namespace Preset

-- Why a text is not a preset. Texts are kept without the blanks around them,
-- except for one that has no equals sign at all.
inductive ReadError where
  | noEquals (text : String)
  | badIndex (text : String) (cause : NumeralError)
  | badValue (text : String) (cause : NumeralError)
  deriving DecidableEq

def ReadError.message : ReadError → String
  | .noEquals text => s!"expected INDEX=VALUE but got '{text}'"
  | .badIndex text cause => s!"invalid memory index '{text}': {cause.message}"
  | .badValue text cause => s!"invalid memory value '{text}': {cause.message}"

-- Reads `INDEX=VALUE`. The text is cut at its first equals sign, blanks around
-- either number are ignored, and the index is read first.
def read (text : String) : Except ReadError Preset :=
  match splitFirst '=' text.toList with
  | none => .error (.noEquals text)
  | some (left, right) =>
      match readWord (trim left) with
      | .error cause => .error (.badIndex (String.ofList (trim left)) cause)
      | .ok index =>
          match readInt32 (trim right) with
          | .error cause => .error (.badValue (String.ofList (trim right)) cause)
          | .ok value => .ok ⟨index, value⟩

end Preset

-- Stores presets in their order, up to the first that names no cell.
def Machine.preset (m : Machine) : List Preset → Except Fault Machine
  | [] => .ok m
  | p :: rest =>
      match m.store p.index p.value with
      | .ok after => after.preset rest
      | .error fault => .error fault

-- How to set a machine up on a program.
structure Setup where
  stackSize : Nat
  start : Option Point
  presets : List Preset
  deriving DecidableEq

def Setup.machine (setup : Setup) (program : Program) : Except Fault Machine :=
  (Machine.start setup.stackSize (setup.start.getD program.start)).preset setup.presets

end GridWalk
