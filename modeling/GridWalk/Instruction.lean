import GridWalk.Text.Blank
import GridWalk.Facing

namespace GridWalk

inductive Instruction where
  | noOperation
  | moveLeft
  | moveRight
  | moveUp
  | moveDown
  | add
  | sub
  | mul
  | div
  | increment
  | decrement
  | isLess
  | isMore
  | moveLeftIfTrue
  | moveRightIfTrue
  | moveUpIfTrue
  | moveDownIfTrue
  | isLessOrEqual
  | isMoreOrEqual
  | isEqual
  | isNotEqual
  | moveStackDown
  | moveStackUp
  | writeFromAccumulator
  | readToAccumulator
  | print
  | exit
  | isZero
  deriving DecidableEq, Inhabited

namespace Instruction

-- Every instruction, in the order of the opcodes.
def all : List Instruction :=
  [noOperation, moveLeft, moveRight, moveUp, moveDown, add, sub, mul, div, increment, decrement,
    isLess, isMore, moveLeftIfTrue, moveRightIfTrue, moveUpIfTrue, moveDownIfTrue, isLessOrEqual,
    isMoreOrEqual, isEqual, isNotEqual, moveStackDown, moveStackUp, writeFromAccumulator,
    readToAccumulator, print, exit, isZero]

def opcode : Instruction → UInt8
  | noOperation => 0
  | moveLeft => 1
  | moveRight => 2
  | moveUp => 3
  | moveDown => 4
  | add => 5
  | sub => 6
  | mul => 7
  | div => 8
  | increment => 9
  | decrement => 10
  | isLess => 11
  | isMore => 12
  | moveLeftIfTrue => 13
  | moveRightIfTrue => 14
  | moveUpIfTrue => 15
  | moveDownIfTrue => 16
  | isLessOrEqual => 17
  | isMoreOrEqual => 18
  | isEqual => 19
  | isNotEqual => 20
  | moveStackDown => 21
  | moveStackUp => 22
  | writeFromAccumulator => 23
  | readToAccumulator => 24
  | print => 25
  | exit => 26
  | isZero => 27

def ofOpcode? (byte : UInt8) : Option Instruction := all[byte.toNat]?

theorem ofOpcode?_opcode (i : Instruction) : ofOpcode? i.opcode = some i := by
  cases i <;> rfl

def name : Instruction → String
  | noOperation => "NoOperation"
  | moveLeft => "MoveLeft"
  | moveRight => "MoveRight"
  | moveUp => "MoveUp"
  | moveDown => "MoveDown"
  | add => "Add"
  | sub => "Sub"
  | mul => "Mul"
  | div => "Div"
  | increment => "Increment"
  | decrement => "Decrement"
  | isLess => "IsLess"
  | isMore => "IsMore"
  | moveLeftIfTrue => "MoveLeftIfTrue"
  | moveRightIfTrue => "MoveRightIfTrue"
  | moveUpIfTrue => "MoveUpIfTrue"
  | moveDownIfTrue => "MoveDownIfTrue"
  | isLessOrEqual => "IsLessOrEqual"
  | isMoreOrEqual => "IsMoreOrEqual"
  | isEqual => "IsEqual"
  | isNotEqual => "IsNotEqual"
  | moveStackDown => "MoveStackDown"
  | moveStackUp => "MoveStackUp"
  | writeFromAccumulator => "WriteFromAccumulator"
  | readToAccumulator => "ReadToAccumulator"
  | print => "Print"
  | exit => "Exit"
  | isZero => "IsZero"

instance : ToString Instruction := ⟨name⟩

-- Two characters for each instruction, no two the same.
def glyph : Instruction → String
  | noOperation => "··"
  | moveLeft => "← "
  | moveRight => "→ "
  | moveUp => "↑ "
  | moveDown => "↓ "
  | add => "+ "
  | sub => "- "
  | mul => "* "
  | div => "/ "
  | increment => "++"
  | decrement => "--"
  | isLess => "< "
  | isMore => "> "
  | moveLeftIfTrue => "←?"
  | moveRightIfTrue => "→?"
  | moveUpIfTrue => "↑?"
  | moveDownIfTrue => "↓?"
  | isLessOrEqual => "<="
  | isMoreOrEqual => ">="
  | isEqual => "=="
  | isNotEqual => "!="
  | moveStackDown => "v$"
  | moveStackUp => "^$"
  | writeFromAccumulator => "W "
  | readToAccumulator => "R "
  | print => "P "
  | exit => "X "
  | isZero => "=0"

-- The direction that a turning instruction names.
def turn? : Instruction → Option Facing
  | moveLeft | moveLeftIfTrue => some .left
  | moveRight | moveRightIfTrue => some .right
  | moveUp | moveUpIfTrue => some .up
  | moveDown | moveDownIfTrue => some .down
  | _ => none

def isMovement (i : Instruction) : Bool := i.turn?.isSome

-- Why a number or a name stands for no instruction.
inductive ReadError where
  | unknownOpcode (opcode : Nat)
  | unknownName (text : String)
  deriving DecidableEq

def ReadError.message : ReadError → String
  | .unknownOpcode opcode => s!"unknown opcode {opcode}"
  | .unknownName text => s!"unknown instruction name '{text}'"

def ofOpcode (byte : UInt8) : Except ReadError Instruction :=
  match ofOpcode? byte with
  | some i => .ok i
  | none => .error (.unknownOpcode byte.toNat)

-- Equality of texts up to the case of the letters A to Z.
def sameLetters (a b : List Char) : Bool := a.map Char.toLower == b.map Char.toLower

-- Reads a name. Blanks around it and the case of its letters do not matter.
def ofName (text : String) : Except ReadError Instruction :=
  let given := Text.trim text.toList
  match all.find? (fun i => sameLetters i.name.toList given) with
  | some i => .ok i
  | none => .error (.unknownName (String.ofList given))

end Instruction

end GridWalk
