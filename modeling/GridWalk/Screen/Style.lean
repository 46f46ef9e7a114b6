namespace GridWalk

-- `reset` is the terminal's own colour.
inductive Color where
  | reset
  | black
  | rgb (red green blue : UInt8)
  deriving DecidableEq, Inhabited

-- What drawing changes of the look of a cell: a colour that is not given is
-- left as it is, and bold is only ever added.
structure Style where
  fg : Option Color
  bg : Option Color
  bold : Bool
  deriving DecidableEq, Inhabited

namespace Style

def plain : Style := ⟨none, none, false⟩

def ink (color : Color) : Style := { plain with fg := some color }

def paper (color : Color) : Style := { plain with bg := some color }

def on (style : Style) (color : Color) : Style := { style with bg := some color }

def inBold (style : Style) : Style := { style with bold := true }

end Style

-- The palette of the panes.
namespace Theme

def text : Color := .rgb 205 214 244

def primary : Color := .rgb 137 180 250

def secondary : Color := .rgb 250 179 135

def comment : Color := .rgb 108 112 134

def success : Color := .rgb 166 227 161

def error : Color := .rgb 243 139 168

def border : Color := .rgb 108 112 134

def focusedBorder : Color := .rgb 249 226 175

def currentLine : Color := .rgb 50 50 70

def cursor : Color := .rgb 249 226 175

def breakpoint : Color := .rgb 245 194 231

def movement : Color := .rgb 137 180 250

def number : Color := .rgb 250 179 135

def flagSet : Color := .rgb 148 226 213

end Theme

end GridWalk
