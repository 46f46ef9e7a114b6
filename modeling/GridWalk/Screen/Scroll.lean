namespace GridWalk.Scroll

-- The offset that stands for the end of a list, however long it grows.
def bottom : Nat := 18446744073709551615

def up (offset : Nat) : Nat := offset - 1

def down (offset : Nat) : Nat := min (offset + 1) bottom

-- The offset nearest to a given one at which the rows are filled as far as the
-- items go.
def clamp (offset total visible : Nat) : Nat :=
  if visible < total then min offset (total - visible) else 0

-- The first item of a window that shows the focus, in its middle where the two
-- ends of the list allow it.
def windowStart (focus total visible : Nat) : Nat :=
  if total ≤ visible then 0 else min (focus - visible / 2) (total - visible)

end GridWalk.Scroll
