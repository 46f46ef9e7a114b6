import GridWalk.Instruction

namespace GridWalk

-- A rectangle of instructions. Cells are kept column after column, so the
-- cell at (x, y) has index x * height + y.
structure Grid where
  width : Nat
  height : Nat
  cells : Array Instruction
  size_cells : cells.size = width * height
  deriving DecidableEq

-- A point was named that has no cell.
structure OutOfGrid where
  point : Point
  width : Nat
  height : Nat
  deriving DecidableEq

def OutOfGrid.message (e : OutOfGrid) : String :=
  s!"point {e.point} is outside the {e.width}x{e.height} grid"

namespace Grid

-- The greatest side that a program file can hold.
def maxSide : Nat := 2147483647

instance : Membership Point Grid where
  mem g p := (0 ≤ p.x.toInt ∧ p.x.toInt < g.width) ∧ 0 ≤ p.y.toInt ∧ p.y.toInt < g.height

theorem mem_iff {g : Grid} {p : Point} :
    p ∈ g ↔ (0 ≤ p.x.toInt ∧ p.x.toInt < g.width) ∧ 0 ≤ p.y.toInt ∧ p.y.toInt < g.height :=
  Iff.rfl

instance (p : Point) (g : Grid) : Decidable (p ∈ g) :=
  decidable_of_iff _ mem_iff.symm

-- A grid that does nothing. A side may be zero; then no point is on it.
def blank (width height : Nat) : Grid where
  width := width
  height := height
  cells := Array.replicate (width * height) .noOperation
  size_cells := Array.size_replicate

def index (g : Grid) (p : Point) : Nat := p.x.toInt.toNat * g.height + p.y.toInt.toNat

-- Row y is below the height, so the index stays within column x.
theorem index_lt {g : Grid} {p : Point} (h : p ∈ g) : g.index p < g.cells.size := by
  obtain ⟨⟨hx0, hx⟩, hy0, hy⟩ := mem_iff.mp h
  have hcol : p.x.toInt.toNat + 1 ≤ g.width := by omega
  have hrow : p.y.toInt.toNat < g.height := by omega
  rw [g.size_cells]
  calc
    g.index p < p.x.toInt.toNat * g.height + g.height := by unfold index; omega
    _ = (p.x.toInt.toNat + 1) * g.height := by rw [Nat.succ_mul]
    _ ≤ g.width * g.height := Nat.mul_le_mul_right _ hcol

def get? (g : Grid) (p : Point) : Option Instruction :=
  if h : p ∈ g then
    have := index_lt h
    some g.cells[g.index p]
  else none

-- A point has an instruction exactly if it is on the grid.
theorem get?_isSome_iff (g : Grid) (p : Point) : (g.get? p).isSome ↔ p ∈ g := by
  unfold get?
  split <;> simp [*]

def outside (g : Grid) (p : Point) : OutOfGrid := ⟨p, g.width, g.height⟩

def get (g : Grid) (p : Point) : Except OutOfGrid Instruction :=
  match g.get? p with
  | some i => .ok i
  | none => .error (g.outside p)

-- Overwrites one cell and gives back what it held.
def set (g : Grid) (p : Point) (i : Instruction) : Except OutOfGrid (Instruction × Grid) :=
  match g.get? p with
  | none => .error (g.outside p)
  | some previous =>
      .ok (previous,
        { g with
          cells := g.cells.setIfInBounds (g.index p) i
          size_cells := by rw [Array.size_setIfInBounds, g.size_cells] })

-- The point of the cell with a given index.
def place (g : Grid) (index : Nat) : Point :=
  let column := max g.height 1
  ⟨Int32.ofNat (index / column), Int32.ofNat (index % column)⟩

-- Every cell with its point, in the order of the cells.
def places (g : Grid) : List (Point × Instruction) :=
  g.cells.toList.zipIdx.map fun (i, index) => (g.place index, i)

def opcodes (g : Grid) : List UInt8 := g.cells.toList.map Instruction.opcode

-- Whether both sides can be written as 32-bit signed words.
def fitsHeader (g : Grid) : Bool := g.width ≤ maxSide && g.height ≤ maxSide

end Grid

end GridWalk
