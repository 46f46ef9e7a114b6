import GridWalk.Point

namespace GridWalk

-- The direction in which a machine leaves its cell. Rows are counted downward.
inductive Facing where
  | up
  | down
  | left
  | right
  deriving DecidableEq, Inhabited

namespace Facing

def offset : Facing → Point
  | .up => ⟨0, -1⟩
  | .down => ⟨0, 1⟩
  | .left => ⟨-1, 0⟩
  | .right => ⟨1, 0⟩

def arrow : Facing → String
  | .up => "▲"
  | .down => "▼"
  | .left => "◀"
  | .right => "▶"

def name : Facing → String
  | .up => "up"
  | .down => "down"
  | .left => "left"
  | .right => "right"

end Facing

end GridWalk
