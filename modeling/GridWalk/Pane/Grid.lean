import GridWalk.Grid
import GridWalk.Pane.Basic

namespace GridWalk.Pane

structure GridView where
  grid : Grid
  cursor : Point
  facing : Facing
  breakpoints : List Point
  fault : Option Point

namespace GridView

-- A cell takes the two columns of its glyph and a gap.
def cellWidth : Nat := 3

def visibleColumns (area : Area) : Nat := max ((area.width - 2) / cellWidth) 1

-- The place on a side of the given length that is nearest to a coordinate.
def nearest (coordinate : Int32) (length : Nat) : Nat := min coordinate.toInt.toNat (length - 1)

def columns (view : GridView) (area : Area) : List Nat :=
  let visible := visibleColumns area
  let width := view.grid.width
  shownItems (Scroll.windowStart (nearest view.cursor.x width) width visible) width visible

def rows (view : GridView) (area : Area) : List Nat :=
  let visible := visibleRows area
  let height := view.grid.height
  shownItems (Scroll.windowStart (nearest view.cursor.y height) height visible) height visible

-- The points that are shown, row after row. The window follows the cursor, and
-- stays at the edge where the cursor left the grid.
def points (view : GridView) (area : Area) : List (List Point) :=
  (view.rows area).map fun y =>
    (view.columns area).map fun x => ⟨Int32.ofNat x, Int32.ofNat y⟩

def instructionStyle (i : Instruction) : Style :=
  match i with
  | .noOperation => Style.ink Theme.comment
  | .exit => (Style.ink Theme.error).inBold
  | .print => Style.ink Theme.success
  | i => if i.isMovement then Style.ink Theme.movement else Style.ink Theme.text

-- The cell that faulted stands out before the cell under the cursor does.
def cellStyle (view : GridView) (point : Point) (i : Instruction) : Style :=
  if view.fault = some point then ((Style.ink .black).on Theme.error).inBold
  else if point = view.cursor then ((Style.ink .black).on Theme.cursor).inBold
  else instructionStyle i

def cellSpans (view : GridView) (point : Point) : List Span :=
  match view.grid.get? point with
  | none => []
  | some i =>
      let gap :=
        if point ∈ view.breakpoints then ⟨"●", Style.ink Theme.breakpoint⟩ else ⟨" ", Style.plain⟩
      [⟨i.glyph, view.cellStyle point i⟩, gap]

def title (view : GridView) : String :=
  s!" Grid {view.grid.width}x{view.grid.height} {view.facing.arrow} "

def draw (view : GridView) (canvas : Canvas) (area : Area) (focused : Bool) : Canvas :=
  if view.grid.width = 0 ∨ view.grid.height = 0 then
    drawRemark canvas area view.title "(empty grid)" focused
  else
    (canvas.frame area view.title (borderStyle focused)).writeLines area.inside
      ((view.points area).map fun row => { spans := row.flatMap view.cellSpans })

end GridView

end GridWalk.Pane
