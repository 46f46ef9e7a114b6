import GridWalk.Grid

namespace GridWalk

-- Why a machine has come to rest.
inductive Halt where
  | exit
  | outOfBounds
  deriving DecidableEq

def Halt.describe : Halt → String
  | .exit => "finished by reaching exit"
  | .outOfBounds => "finished by running out of bounds"

-- Why an instruction, or a write to memory, cannot be carried out.
inductive Fault where
  | divisionByZero (point : Point)
  | divisionOverflow (accumulator : Int32) (point : Point)
  | pointerOutOfRange (pointer : Int64) (length : Nat) (point : Point)
  | noSuchCell (index length : Nat)
  deriving DecidableEq

namespace Fault

def message : Fault → String
  | divisionByZero point => s!"division by zero at {point}"
  | divisionOverflow accumulator point => s!"division overflow ({accumulator} / -1) at {point}"
  | pointerOutOfRange pointer length point =>
      s!"stack pointer {pointer} is outside the {length}-cell stack at {point}"
  | noSuchCell index length => s!"memory cell {index} does not exist (stack has {length} cells)"

-- The cell whose instruction failed.
def point? : Fault → Option Point
  | divisionByZero point => some point
  | divisionOverflow _ point => some point
  | pointerOutOfRange _ _ point => some point
  | noSuchCell _ _ => none

-- The fault as a record with its fields, for reports on a failed command.
def record : Fault → String
  | divisionByZero point =>
      s!"DivisionByZero \x7b point: Point \x7b x: {point.x}, y: {point.y} \x7d \x7d"
  | divisionOverflow accumulator point =>
      s!"DivisionOverflow \x7b accumulator: {accumulator}, " ++
        s!"point: Point \x7b x: {point.x}, y: {point.y} \x7d \x7d"
  | pointerOutOfRange pointer length point =>
      s!"StackPointerOutOfRange \x7b pointer: {pointer}, len: {length}, " ++
        s!"point: Point \x7b x: {point.x}, y: {point.y} \x7d \x7d"
  | noSuchCell index length => s!"MemoryIndexOutOfRange \x7b index: {index}, len: {length} \x7d"

end Fault

-- The registers of a walking machine. The pointer names a cell of the stack,
-- but may stand anywhere; only an access checks it. The steps are all that were
-- executed; the register that counts them is `counter`.
structure Machine where
  cursor : Point
  facing : Facing
  accumulator : Int32
  flag : Bool
  pointer : Int64
  stack : Array Int32
  exited : Bool
  steps : Nat
  deriving DecidableEq, Inhabited

namespace Machine

def defaultStackSize : Nat := 32

-- A machine that has done nothing yet.
def start (stackSize : Nat) (point : Point) : Machine where
  cursor := point
  facing := .down
  accumulator := 0
  flag := false
  pointer := 0
  stack := Array.replicate stackSize 0
  exited := false
  steps := 0

-- The count of the steps as it is kept and shown: a word, which starts again from
-- zero once it is full.
def counter (m : Machine) : UInt64 := .ofNat m.steps

def halt? (g : Grid) (m : Machine) : Option Halt :=
  if m.exited then some .exit else if m.cursor ∈ g then none else some .outOfBounds

-- The instruction under the cursor.
def next? (g : Grid) (m : Machine) : Option Instruction := g.get? m.cursor

-- Overwrites one cell of the stack between steps.
def store (m : Machine) (index : Nat) (value : Int32) : Except Fault Machine :=
  if index < m.stack.size then .ok { m with stack := m.stack.setIfInBounds index value }
  else .error (.noSuchCell index m.stack.size)

end Machine

end GridWalk
