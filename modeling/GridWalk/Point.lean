import GridWalk.Text.Blank
import GridWalk.Text.Numeral

namespace GridWalk

open Text

-- A place of the plane. Coordinates are 32-bit words, so sums wrap.
structure Point where
  x : Int32
  y : Int32
  deriving DecidableEq, Inhabited

namespace Point

def zero : Point := ⟨0, 0⟩

def one : Point := ⟨1, 1⟩

instance : Add Point := ⟨fun p q => ⟨p.x + q.x, p.y + q.y⟩⟩

instance : Sub Point := ⟨fun p q => ⟨p.x - q.x, p.y - q.y⟩⟩

instance : ToString Point := ⟨fun p => s!"({p.x}, {p.y})"⟩

-- The order by columns, then by rows.
def columnLe (p q : Point) : Bool := p.x < q.x || (p.x == q.x && p.y ≤ q.y)

-- Why a text is not a point. Texts are kept without the blanks around them,
-- except for one that has no comma at all.
inductive ReadError where
  | noComma (text : String)
  | badX (text : String) (cause : NumeralError)
  | badY (text : String) (cause : NumeralError)
  deriving DecidableEq

def ReadError.message : ReadError → String
  | .noComma text => s!"expected X,Y but got '{text}'"
  | .badX text cause => s!"invalid x coordinate '{text}': {cause.message}"
  | .badY text cause => s!"invalid y coordinate '{text}': {cause.message}"

-- Reads `X,Y`. The text is cut at its first comma, blanks around either number
-- are ignored, and the left number is read first.
def read (text : String) : Except ReadError Point :=
  match splitFirst ',' text.toList with
  | none => .error (.noComma text)
  | some (left, right) =>
      match readInt32 (trim left) with
      | .error cause => .error (.badX (String.ofList (trim left)) cause)
      | .ok x =>
          match readInt32 (trim right) with
          | .error cause => .error (.badY (String.ofList (trim right)) cause)
          | .ok y => .ok ⟨x, y⟩

end Point

end GridWalk
