import GridWalk.Program

namespace GridWalk

-- The cells of one row from left to right, with a space between them.
def Grid.rowText (g : Grid) (y : Nat) : String :=
  " ".intercalate ((List.range g.width).filterMap fun x =>
    (g.get? ⟨Int32.ofNat x, Int32.ofNat y⟩).map Instruction.glyph)

-- A program as lines of text: its sides and start, then its rows.
def Program.listing (program : Program) : List String :=
  s!"{program.grid.width}x{program.grid.height} program, start {program.start}" ::
    (List.range program.grid.height).map program.grid.rowText

namespace Instruction

-- An opcode in three columns, the glyph and the name.
def listingLine (i : Instruction) : String :=
  let number := toString i.opcode
  String.ofList (List.replicate (3 - number.length) ' ') ++ s!"{number}  {i.glyph}  {i.name}"

def listing : List String := all.map listingLine

end Instruction

end GridWalk
