import GridWalk.Machine.Basic

namespace GridWalk

-- What a step did.
inductive Outcome where
  | continued (instruction : Instruction)
  | halted (reason : Halt)
  | faulted (fault : Fault)
  deriving DecidableEq

-- Whether an instruction reads or writes the cell under the pointer.
def Instruction.usesCell : Instruction → Bool
  | .add | .sub | .mul | .div => true
  | .isLess | .isMore | .isLessOrEqual | .isMoreOrEqual | .isEqual | .isNotEqual => true
  | .writeFromAccumulator | .readToAccumulator => true
  | _ => false

namespace Machine

def pointerInRange (m : Machine) : Bool :=
  0 ≤ m.pointer.toInt && m.pointer.toInt < m.stack.size

-- The index of the cell under the pointer, when the pointer is in range.
def slot (m : Machine) : Nat := m.pointer.toInt.toNat

-- The value under the pointer, when the pointer is in range.
def operand (m : Machine) : Int32 := m.stack[m.slot]?.getD 0

-- The fault that an instruction would raise here, decided before anything is
-- changed. A pointer out of range is found before a bad divisor.
def fault? (m : Machine) (i : Instruction) : Option Fault :=
  if i.usesCell && !m.pointerInRange then
    some (.pointerOutOfRange m.pointer m.stack.size m.cursor)
  else if i = .div && m.operand = 0 then some (.divisionByZero m.cursor)
  else if i = .div && m.operand = -1 && m.accumulator = Int32.minValue then
    some (.divisionOverflow m.accumulator m.cursor)
  else none

def face (m : Machine) (facing : Facing) : Machine := { m with facing := facing }

def faceIf (m : Machine) (facing : Facing) : Machine := if m.flag then m.face facing else m

-- The effect of an instruction that raises no fault on the registers it names.
def apply (m : Machine) : Instruction → Machine
  | .noOperation | .print | .exit => m
  | .moveLeft => m.face .left
  | .moveRight => m.face .right
  | .moveUp => m.face .up
  | .moveDown => m.face .down
  | .moveLeftIfTrue => m.faceIf .left
  | .moveRightIfTrue => m.faceIf .right
  | .moveUpIfTrue => m.faceIf .up
  | .moveDownIfTrue => m.faceIf .down
  | .add => { m with accumulator := m.accumulator + m.operand }
  | .sub => { m with accumulator := m.accumulator - m.operand }
  | .mul => { m with accumulator := m.accumulator * m.operand }
  | .div => { m with accumulator := m.accumulator / m.operand }
  | .increment => { m with accumulator := m.accumulator + 1 }
  | .decrement => { m with accumulator := m.accumulator - 1 }
  | .isLess => { m with flag := m.accumulator < m.operand }
  | .isMore => { m with flag := m.accumulator > m.operand }
  | .isLessOrEqual => { m with flag := m.accumulator ≤ m.operand }
  | .isMoreOrEqual => { m with flag := m.accumulator ≥ m.operand }
  | .isEqual => { m with flag := m.accumulator = m.operand }
  | .isNotEqual => { m with flag := m.accumulator ≠ m.operand }
  | .isZero => { m with flag := m.accumulator = 0 }
  | .moveStackDown => { m with pointer := m.pointer + 1 }
  | .moveStackUp => { m with pointer := m.pointer - 1 }
  | .writeFromAccumulator => { m with stack := m.stack.setIfInBounds m.slot m.accumulator }
  | .readToAccumulator => { m with accumulator := m.operand }

-- One cell on in the present facing, with the step counted.
def advance (m : Machine) : Machine :=
  { m with cursor := m.cursor + m.facing.offset, steps := m.steps + 1 }

-- Stays on its cell for good, with the step counted.
def leave (m : Machine) : Machine := { m with exited := true, steps := m.steps + 1 }

-- Executes the instruction under the cursor and moves on. A machine that is at
-- rest, or whose instruction faults, does not change.
def step (g : Grid) (m : Machine) : Outcome × Machine :=
  if m.exited then (.halted .exit, m)
  else
    match g.get? m.cursor with
    | none => (.halted .outOfBounds, m)
    | some i =>
        match m.fault? i with
        | some fault => (.faulted fault, m)
        | none =>
            if i = .exit then (.halted .exit, m.leave)
            else (.continued i, (m.apply i).advance)

end Machine

end GridWalk
