import GridWalk.Machine.Basic
import GridWalk.Pane.Basic

namespace GridWalk.Pane

structure RegistersView where
  grid : Grid
  machine : Machine
  faulted : Bool

namespace RegistersView

def line (label value : String) (style : Style) : TextLine :=
  { spans := [⟨" " ++ padRight label 12, Style.ink Theme.comment⟩, ⟨value, style⟩] }

def flagStyle (flag : Bool) : Style :=
  if flag then (Style.ink Theme.flagSet).inBold else Style.ink Theme.comment

def nextSpan (view : RegistersView) : String × Style :=
  match view.machine.next? view.grid with
  | some i => (i.name, Style.ink Theme.text)
  | none => ("(off grid)", Style.ink Theme.comment)

def stateSpan (view : RegistersView) : String × Style :=
  if view.faulted then ("faulted", Style.ink Theme.error)
  else
    match view.machine.halt? view.grid with
    | none => ("running", Style.ink Theme.success)
    | some .exit => ("exited", Style.ink Theme.secondary)
    | some .outOfBounds => ("out of bounds", Style.ink Theme.secondary)

def lines (view : RegistersView) : List TextLine :=
  let m := view.machine
  [ line "cursor" (toString m.cursor) (Style.ink Theme.text),
    line "facing" (m.facing.arrow ++ " " ++ m.facing.name) (Style.ink Theme.movement),
    line "accumulator" (toString m.accumulator) (Style.ink Theme.number).inBold,
    line "flag" (toString m.flag) (flagStyle m.flag),
    line "pointer" (toString m.pointer) (Style.ink Theme.number),
    line "next" view.nextSpan.1 view.nextSpan.2,
    line "state" view.stateSpan.1 view.stateSpan.2 ]

-- The registers never have the focus.
def draw (view : RegistersView) (canvas : Canvas) (area : Area) : Canvas :=
  (canvas.frame area " Registers " (borderStyle false)).writeLines area.inside view.lines

end RegistersView

end GridWalk.Pane
