import GridWalk.Screen.Area
import GridWalk.Screen.Style

namespace GridWalk

-- One character of a screen with its look.
structure Cell where
  symbol : Char
  fg : Color
  bg : Color
  bold : Bool
  deriving DecidableEq, Inhabited

namespace Cell

def blank : Cell := ⟨' ', .reset, .reset, false⟩

def restyle (cell : Cell) (style : Style) : Cell :=
  { cell with
    fg := style.fg.getD cell.fg
    bg := style.bg.getD cell.bg
    bold := cell.bold || style.bold }

def draw (cell : Cell) (symbol : Char) (style : Style) : Cell :=
  { cell with symbol := symbol }.restyle style

def sameLook (a b : Cell) : Bool := a.fg = b.fg && a.bg = b.bg && a.bold = b.bold

end Cell

-- A run of characters drawn in one style.
structure Span where
  text : String
  style : Style

-- A line of text. Its own style, if any, fills the whole row it is drawn on.
structure TextLine where
  spans : List Span
  fill : Style := Style.plain

namespace TextLine

-- The characters of a text that are drawn. A line feed is not, and neither is a
-- carriage return right before one. Other controls fill a column as text does.
def drawn : List Char → List Char
  | [] => []
  | '\r' :: '\n' :: rest => drawn rest
  | '\n' :: rest => drawn rest
  | c :: rest => c :: drawn rest

-- The characters of a line that are drawn, each with its style.
def glyphs (line : TextLine) : List (Char × Style) :=
  line.spans.flatMap fun span => (drawn span.text.toList).map fun c => (c, span.style)

end TextLine

-- A screen, kept row after row.
structure Canvas where
  width : Nat
  height : Nat
  cells : Array Cell

namespace Canvas

def blank (width height : Nat) : Canvas := ⟨width, height, Array.replicate (width * height) .blank⟩

-- Changes the cell at column x of row y, if there is one.
def modify (canvas : Canvas) (x y : Nat) (change : Cell → Cell) : Canvas :=
  if x < canvas.width ∧ y < canvas.height then
    { canvas with cells := canvas.cells.modify (y * canvas.width + x) change }
  else canvas

def put (canvas : Canvas) (x y : Nat) (symbol : Char) (style : Style) : Canvas :=
  canvas.modify x y fun cell => cell.draw symbol style

-- Lays a style over an area, leaving the characters as they are.
def restyle (canvas : Canvas) (area : Area) (style : Style) : Canvas :=
  (List.range area.height).foldl (fun canvas row =>
    (List.range area.width).foldl (fun canvas column =>
      canvas.modify (area.x + column) (area.y + row) fun cell => cell.restyle style) canvas) canvas

-- Writes characters from column x on.
def write (canvas : Canvas) (x y : Nat) : List (Char × Style) → Canvas
  | [] => canvas
  | (symbol, style) :: rest => (canvas.put x y symbol style).write (x + 1) y rest

def row (canvas : Canvas) (y : Nat) : List Cell :=
  (canvas.cells.extract (y * canvas.width) (y * canvas.width + canvas.width)).toList

-- A screen without columns has no rows either.
def rows (canvas : Canvas) : List (List Cell) :=
  if canvas.width = 0 then [] else (List.range canvas.height).map canvas.row

-- The characters of each row.
def lines (canvas : Canvas) : List String :=
  canvas.rows.map fun row => String.ofList (row.map Cell.symbol)

-- Each row cut into the longest runs of cells that look the same.
def runs (canvas : Canvas) : List (List (List Cell)) :=
  canvas.rows.map fun row => row.splitBy Cell.sameLook

-- Text from the top left corner of an area, cut to what it holds.
def writeLines (canvas : Canvas) (area : Area) (lines : List TextLine) : Canvas :=
  (lines.take area.height).zipIdx.foldl (fun canvas (line, row) =>
    canvas.write area.x (area.y + row) (line.glyphs.take area.width)) canvas

-- A line on the first row of an area, ending at its right edge. A line that is
-- too long starts at the left edge and loses its end.
def writeRight (canvas : Canvas) (area : Area) (line : TextLine) : Canvas :=
  if area.height = 0 then canvas
  else
    let glyphs := line.glyphs.take area.width
    canvas.write (area.x + (area.width - glyphs.length)) area.y glyphs

-- Lines whose own styles fill their rows.
def writeRows (canvas : Canvas) (area : Area) (lines : List TextLine) : Canvas :=
  (lines.take area.height).zipIdx.foldl (fun canvas (line, row) =>
    (canvas.restyle { area with y := area.y + row, height := 1 } line.fill).write
      area.x (area.y + row) (line.glyphs.take area.width)) canvas

def writeColumn (canvas : Canvas) (area : Area) (x : Nat) (symbol : Char) (style : Style) :
    Canvas :=
  (List.range area.height).foldl (fun canvas row => canvas.put x (area.y + row) symbol style) canvas

def writeRule (canvas : Canvas) (area : Area) (y : Nat) (symbol : Char) (style : Style) : Canvas :=
  (List.range area.width).foldl (fun canvas column => canvas.put (area.x + column) y symbol style)
    canvas

-- A border around an area, with a title in its top row. Where an area is so
-- small that its sides meet, the corners win over the sides, the left ones over
-- the right ones and the upper ones over the lower ones.
def frame (canvas : Canvas) (area : Area) (title : String) (style : Style) : Canvas :=
  if area.isEmpty then canvas
  else
    let right := area.x + area.width - 1
    let last := area.y + area.height - 1
    let canvas := canvas.writeColumn area area.x '│' style
    let canvas := canvas.writeRule area area.y '─' style
    let canvas := canvas.writeColumn area right '│' style
    let canvas := canvas.writeRule area last '─' style
    let canvas := canvas.put right last '┘' style
    let canvas := canvas.put right area.y '┐' style
    let canvas := canvas.put area.x last '└' style
    let canvas := canvas.put area.x area.y '┌' style
    let caption := title.toList.map fun c => (c, Style.plain)
    canvas.write (area.x + 1) area.y (caption.take (area.width - 2))

end Canvas

end GridWalk
