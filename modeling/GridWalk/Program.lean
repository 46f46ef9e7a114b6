import GridWalk.Grid

namespace GridWalk

-- A grid and the point where a machine starts on it.
structure Program where
  grid : Grid
  start : Point
  deriving DecidableEq

-- Why bytes are not a program.
inductive DecodeError where
  | truncatedHeader (length : Nat)
  | negativeSide (width height : Int32)
  | tooManyCells (width height : Nat)
  | truncatedCells (expected actual : Nat)
  | unknownOpcode (byte : UInt8) (x y : Nat)
  deriving DecidableEq

namespace DecodeError

def message : DecodeError → String
  | truncatedHeader length => s!"program header is truncated: expected 16 bytes, got {length}"
  | negativeSide width height =>
      s!"program dimensions must not be negative (width {width}, height {height})"
  | tooManyCells width height => s!"program dimensions {width}x{height} are too large"
  | truncatedCells expected actual =>
      s!"cell data is truncated: expected {expected} bytes, got {actual}"
  | unknownOpcode byte x y => s!"unknown opcode {byte} in cell ({x}, {y})"

-- The error as a record with its fields, for reports on a failed command.
def record : DecodeError → String
  | truncatedHeader length => s!"TruncatedHeader \x7b len: {length} \x7d"
  | negativeSide width height => s!"NegativeDimension \x7b width: {width}, height: {height} \x7d"
  | tooManyCells width height => s!"DimensionOverflow \x7b width: {width}, height: {height} \x7d"
  | truncatedCells expected actual =>
      s!"TruncatedCells \x7b expected: {expected}, actual: {actual} \x7d"
  | unknownOpcode byte x y => s!"UnknownOpcode \x7b byte: {byte}, x: {x}, y: {y} \x7d"

end DecodeError

-- The four bytes of the low 32 bits of a number, least significant first.
def wordBytes (n : Nat) : List UInt8 :=
  [UInt8.ofNat n, UInt8.ofNat (n / 0x100), UInt8.ofNat (n / 0x10000), UInt8.ofNat (n / 0x1000000)]

-- The signed word spelled by the first four bytes.
def wordOf : List UInt8 → Int32
  | a :: b :: c :: d :: _ =>
      Int32.ofNat (a.toNat + b.toNat * 0x100 + c.toNat * 0x10000 + d.toNat * 0x1000000)
  | _ => 0

-- Turns opcodes into cells after those already read. The number of cells read
-- so far gives the place of a byte that is no opcode.
def readCells (height : Nat) :
    List UInt8 → Array Instruction → Except DecodeError (Array Instruction)
  | [], cells => .ok cells
  | byte :: rest, cells =>
      match Instruction.ofOpcode? byte with
      | some i => readCells height rest (cells.push i)
      | none => .error (.unknownOpcode byte (cells.size / height) (cells.size % height))

theorem size_of_readCells {height : Nat} {bytes : List UInt8} {before cells : Array Instruction}
    (h : readCells height bytes before = .ok cells) :
    cells.size = before.size + bytes.length := by
  induction bytes generalizing before with
  | nil => cases h; rfl
  | cons byte rest ih =>
      unfold readCells at h
      split at h
      · have := ih h
        simp only [Array.size_push] at this
        simp only [List.length_cons]
        omega
      · cases h

namespace Grid

-- So many cells cannot be counted in a 64-bit word.
def cellLimit : Nat := 0x10000000000000000

-- Reads the opcodes of a grid of the given sides. Bytes after the last cell are
-- ignored.
def ofBytes (bytes : List UInt8) (width height : Nat) : Except DecodeError Grid :=
  if cellLimit ≤ width * height then .error (.tooManyCells width height)
  else if hlen : bytes.length < width * height then
    .error (.truncatedCells (width * height) bytes.length)
  else
    match h : readCells height (bytes.take (width * height)) #[] with
    | .error e => .error e
    | .ok cells =>
        .ok {
          width := width
          height := height
          cells := cells
          size_cells := by
            have := size_of_readCells h
            simp only [Array.size_empty, List.length_take] at this
            omega }

end Grid

namespace Program

-- The length of the four words in front of the cells.
def headerLength : Nat := 16

-- Starts in the corner.
def ofGrid (grid : Grid) : Program := ⟨grid, Point.zero⟩

-- Width, height and start as words, then the opcodes. Only the low 32 bits of
-- a side are kept.
def encode (p : Program) : List UInt8 :=
  wordBytes p.grid.width ++ wordBytes p.grid.height ++ wordBytes p.start.x.toUInt32.toNat ++
    wordBytes p.start.y.toUInt32.toNat ++ p.grid.opcodes

def decode (bytes : List UInt8) : Except DecodeError Program :=
  if bytes.length < headerLength then .error (.truncatedHeader bytes.length)
  else
    let width := wordOf bytes
    let height := wordOf (bytes.drop 4)
    if width < 0 ∨ height < 0 then .error (.negativeSide width height)
    else
      match Grid.ofBytes (bytes.drop headerLength) width.toInt.toNat height.toInt.toNat with
      | .error e => .error e
      | .ok grid => .ok ⟨grid, wordOf (bytes.drop 8), wordOf (bytes.drop 12)⟩

end Program

end GridWalk
