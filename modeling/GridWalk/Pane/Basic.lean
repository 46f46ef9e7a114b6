import GridWalk.Screen.Canvas
import GridWalk.Screen.Scroll

namespace GridWalk.Pane

def borderStyle (focused : Bool) : Style :=
  if focused then (Style.ink Theme.focusedBorder).inBold else Style.ink Theme.border

-- The rows that a pane can show inside its border. At least one is counted, even
-- if there is no room for it.
def visibleRows (area : Area) : Nat := max (area.height - 2) 1

-- The items from the first one shown on, as many as there are and as fit.
def shownItems (first total visible : Nat) : List Nat :=
  List.range' first (min visible (total - first))

def padLeft (text : String) (width : Nat) : String :=
  String.ofList (List.replicate (width - text.length) ' ') ++ text

def padRight (text : String) (width : Nat) : String :=
  text ++ String.ofList (List.replicate (width - text.length) ' ')

-- A pane that has nothing to show but a remark.
def drawRemark (canvas : Canvas) (area : Area) (title remark : String) (focused : Bool) : Canvas :=
  let style := Style.ink Theme.comment
  ((canvas.restyle area style).frame area title (borderStyle focused)).writeLines area.inside
    [{ spans := [⟨remark, Style.plain⟩] }]

end GridWalk.Pane
