import GridWalk.Machine.Step
import GridWalk.History
import GridWalk.OutputLog
import GridWalk.Screen.Scroll
import GridWalk.Session.Notice

namespace GridWalk

-- The pane that the arrow keys act on.
inductive Focus where
  | grid
  | memory
  | output
  deriving DecidableEq

def Focus.next : Focus → Focus
  | .grid => .memory
  | .memory => .output
  | .output => .grid

def Focus.previous : Focus → Focus
  | .grid => .output
  | .memory => .grid
  | .output => .memory

-- A machine as it was before a step, and how much had been printed by then.
structure Snapshot where
  machine : Machine
  outputLength : Nat
  deriving DecidableEq

-- A program under the eyes of a user. `initial` is the machine that a reset
-- goes back to. A fault is kept until an event makes it out of date.
structure Session where
  grid : Grid
  machine : Machine
  initial : Machine
  history : History Snapshot
  output : OutputLog
  breakpoints : List Point
  fault : Option Fault
  focus : Focus
  selected : Nat
  scroll : Nat
  quitting : Bool
  notice : Notice
  playing : Bool
  sinceSpaceMs : Nat

namespace Session

-- The steps that running to the end may take at once.
def runLimit : Nat := 100000

-- A space this soon after the last accepted one is taken for a key held down.
def debounceMs : Nat := 200

-- A session over a machine that has just been set up.
def start (grid : Grid) (machine : Machine) (capacity : Nat) : Session where
  grid := grid
  machine := machine
  initial := machine
  history := History.empty capacity
  output := OutputLog.empty
  breakpoints := []
  fault := none
  focus := .grid
  selected := 0
  scroll := 0
  quitting := false
  notice := .ready
  playing := false
  sinceSpaceMs := 1000

def snapshot (s : Session) : Snapshot := ⟨s.machine, s.output.length⟩

def tell (s : Session) (notice : Notice) : Session := { s with notice := notice }

-- Adds a breakpoint anywhere, and says whether it is a new one.
def addBreakpoint (s : Session) (point : Point) : Bool × Session :=
  if point ∈ s.breakpoints then (false, s)
  else (true, { s with breakpoints := point :: s.breakpoints })

-- Breakpoints by columns, then by rows.
def sortedBreakpoints (s : Session) : List Point := s.breakpoints.mergeSort Point.columnLe

-- Sets a breakpoint under the cursor or takes it away.
def toggleBreakpoint (s : Session) : Session :=
  let point := s.machine.cursor
  if point ∉ s.grid then s.tell .cursorOffGrid
  else if point ∈ s.breakpoints then
    { s with breakpoints := s.breakpoints.filter (· ≠ point), notice := .breakpointRemoved point }
  else { s with breakpoints := point :: s.breakpoints, notice := .breakpointSet point }

end Session

end GridWalk
