import GridWalk.OutputLog
import GridWalk.Pane.Basic

namespace GridWalk.Pane

structure OutputView where
  log : OutputLog
  scroll : Nat

namespace OutputView

-- The offset at which the lines are shown. Nothing is shown of an empty log, so
-- its offset is left alone.
def settledScroll (view : OutputView) (area : Area) : Nat :=
  if view.log.isEmpty then view.scroll
  else Scroll.clamp view.scroll view.log.length (visibleRows area)

def shownLines (view : OutputView) (area : Area) : List OutputLine :=
  (view.log.lines.toList.drop (view.settledScroll area)).take (visibleRows area)

def line (entry : OutputLine) : TextLine :=
  { spans :=
      [⟨entry.text, Style.ink Theme.text⟩, ⟨s!"  @{entry.point}", Style.ink Theme.comment⟩] }

def draw (view : OutputView) (canvas : Canvas) (area : Area) (focused : Bool) : Canvas :=
  if view.log.isEmpty then drawRemark canvas area " Output " "(no output)" focused
  else
    (canvas.frame area " Output " (borderStyle focused)).writeRows (area.inside.dropColumns 1)
      ((view.shownLines area).map line)

end OutputView

end GridWalk.Pane
