namespace GridWalk.Text

-- The code points from the first to the second, both included.
abbrev CodeRange := Nat × Nat

-- Whether a character is in one of the ranges of a table.
def inRanges (table : List CodeRange) (c : Char) : Bool :=
  table.any fun (first, last) => first ≤ c.toNat && c.toNat ≤ last

end GridWalk.Text
