namespace GridWalk

-- A rectangle of a screen, given by its corner and its sides.
structure Area where
  x : Nat
  y : Nat
  width : Nat
  height : Nat
  deriving DecidableEq, Inhabited

namespace Area

def isEmpty (a : Area) : Bool := a.width == 0 || a.height == 0

-- What is left inside a border of one cell.
def inside (a : Area) : Area :=
  { x := min (a.x + 1) (a.x + a.width)
    y := min (a.y + 1) (a.y + a.height)
    width := a.width - 2
    height := a.height - 2 }

def dropColumns (a : Area) (count : Nat) : Area :=
  { a with x := a.x + count, width := a.width - count }

-- A percentage of a length, rounded to the nearest whole number, halves up.
def percent (length percentage : Nat) : Nat := (length * percentage + 50) / 100

-- The first `size` columns and the rest.
def splitColumns (a : Area) (size : Nat) : Area × Area :=
  ({ a with width := size }, { a with x := a.x + size, width := a.width - size })

-- The first `size` rows and the rest.
def splitRows (a : Area) (size : Nat) : Area × Area :=
  ({ a with height := size }, { a with y := a.y + size, height := a.height - size })

end Area

-- Where the panes of a session are drawn.
structure Layout where
  grid : Area
  output : Area
  registers : Area
  memory : Area
  status : Area

-- The last row is the status bar. Above it the grid and the output share the
-- left 65 percent, the registers and the memory the rest; the registers take
-- nine rows if there are as many.
def Layout.ofScreen (width height : Nat) : Layout :=
  let (panes, status) := (Area.mk 0 0 width height).splitRows (height - 1)
  let (left, right) := panes.splitColumns (Area.percent panes.width 65)
  let (grid, output) := left.splitRows (Area.percent left.height 70)
  let (registers, memory) := right.splitRows (min right.height 9)
  { grid, output, registers, memory, status }

end GridWalk
