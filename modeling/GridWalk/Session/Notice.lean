import GridWalk.Machine.Basic

namespace GridWalk

-- What the status line says about the last event of a session.
inductive Notice where
  | ready
  | executed (instruction : Instruction) (point : Point)
  | steppedForward (count : Nat)
  | steppedBackward
  | noHistory
  | clearedFault
  | stoppedByFault (fault : Fault)
  | crashed (fault : Fault)
  | finished (reason : Halt)
  | playing
  | paused
  | cannotPlayFault (fault : Fault)
  | cannotPlayHalt (reason : Halt)
  | breakpointHit (point : Point)
  | breakpointAfter (point : Point) (count : Nat)
  | stillRunning (count : Nat)
  | backToStart
  | cursorOffGrid
  | breakpointRemoved (point : Point)
  | breakpointSet (point : Point)
  | noCellSelected
  | pauseToEdit
  | focusToEdit
  | cellWritten (index : Nat) (value : Int32)
  | editFailed (fault : Fault)
  deriving DecidableEq

def Notice.text : Notice → String
  | .ready => "Ready!"
  | .executed i point => s!"Executed {i} at {point}"
  | .steppedForward count => s!"Stepped forward {count} step(s)"
  | .steppedBackward => "Stepped backward"
  | .noHistory => "Cannot step backward: no history"
  | .clearedFault => "Cleared fault"
  | .stoppedByFault fault => s!"Stopped by fault: {fault.message}"
  | .crashed fault => s!"Runtime error: {fault.message}"
  | .finished reason => s!"Execution {reason.describe}"
  | .playing => "Playing..."
  | .paused => "Paused"
  | .cannotPlayFault fault => s!"Cannot play: {fault.message}"
  | .cannotPlayHalt reason => s!"Cannot play: {reason.describe}"
  | .breakpointHit point => s!"Breakpoint at {point}"
  | .breakpointAfter point count => s!"Breakpoint at {point} after {count} step(s)"
  | .stillRunning count => s!"Still running after {count} steps"
  | .backToStart => "Reset to start"
  | .cursorOffGrid => "Cursor is off the grid"
  | .breakpointRemoved point => s!"Removed breakpoint at {point}"
  | .breakpointSet point => s!"Breakpoint set at {point}"
  | .noCellSelected => "No memory cell selected"
  | .pauseToEdit => "Pause before editing memory"
  | .focusToEdit => "Focus the memory pane (Tab) to edit cells"
  | .cellWritten index value => s!"Memory[{index}] = {value}"
  | .editFailed fault => s!"Error: {fault.message}"

end GridWalk
