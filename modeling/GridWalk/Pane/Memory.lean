import GridWalk.Pane.Basic

namespace GridWalk.Pane

structure MemoryView where
  stack : Array Int32
  pointer : Int64
  selected : Nat

namespace MemoryView

def title (view : MemoryView) : String :=
  if view.pointer.toInt < 0 ∨ view.stack.size ≤ view.pointer.toInt then
    s!" Memory (pointer {view.pointer} out of range) "
  else " Memory "

-- The cells that are shown. The window follows the selected cell.
def indices (view : MemoryView) (area : Area) : List Nat :=
  let visible := visibleRows area
  let total := view.stack.size
  shownItems (Scroll.windowStart view.selected total visible) total visible

def line (view : MemoryView) (focused : Bool) (index : Nat) : TextLine :=
  let marker :=
    if view.pointer.toInt = index then ⟨"▶ ", (Style.ink Theme.secondary).inBold⟩
    else ⟨"  ", Style.plain⟩
  let indexWidth := (toString (view.stack.size - 1)).length
  { spans :=
      [ marker,
        ⟨s!"[{padLeft (toString index) indexWidth}] ", Style.ink Theme.comment⟩,
        ⟨toString (view.stack[index]?.getD 0), Style.ink Theme.number⟩ ]
    fill :=
      if focused ∧ index = view.selected then Style.paper Theme.currentLine else Style.plain }

def draw (view : MemoryView) (canvas : Canvas) (area : Area) (focused : Bool) : Canvas :=
  let framed := canvas.frame area view.title (borderStyle focused)
  if view.stack.isEmpty then
    framed.writeRows area.inside
      [{ spans := [⟨"(no memory)", Style.plain⟩], fill := Style.ink Theme.comment }]
  else framed.writeRows area.inside ((view.indices area).map (view.line focused))

end MemoryView

end GridWalk.Pane
