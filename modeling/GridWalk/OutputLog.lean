import GridWalk.Point

namespace GridWalk

-- A printed value, the cell that printed it and the number of that step.
structure OutputLine where
  value : Int32
  point : Point
  step : Nat
  deriving DecidableEq

def OutputLine.text (line : OutputLine) : String := toString line.value

-- What a program has printed, oldest line first.
structure OutputLog where
  lines : Array OutputLine
  deriving DecidableEq

namespace OutputLog

def empty : OutputLog := ⟨#[]⟩

def length (log : OutputLog) : Nat := log.lines.size

def isEmpty (log : OutputLog) : Bool := log.length == 0

def print (log : OutputLog) (value : Int32) (point : Point) (step : Nat) : OutputLog :=
  ⟨log.lines.push ⟨value, point, step⟩⟩

-- Keeps the first lines only.
def truncate (log : OutputLog) (length : Nat) : OutputLog := ⟨log.lines.take length⟩

end OutputLog

end GridWalk
