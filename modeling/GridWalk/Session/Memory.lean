import GridWalk.Session.Basic

namespace GridWalk.Session

-- Overwrites the selected cell, if the program is paused and the memory pane has
-- the focus. A fault depends on the machine alone, so it is out of date
-- afterwards. What is written before the first step belongs to the initial
-- machine.
def writeSelected (s : Session) (value : Int32) : Session :=
  if s.playing then s.tell .pauseToEdit
  else if s.focus ≠ .memory then s.tell .focusToEdit
  else
    match s.machine.store s.selected value with
    | .error fault => s.tell (.editFailed fault)
    | .ok machine =>
        { s with
          machine := machine
          initial := if machine.steps = 0 ∧ s.history.isEmpty then machine else s.initial
          fault := none
          notice := .cellWritten s.selected value }

-- Adds to the selected cell, wrapping around.
def changeSelected (s : Session) (delta : Int32) : Session :=
  match s.machine.stack[s.selected]? with
  | none => s.tell .noCellSelected
  | some value => s.writeSelected (value + delta)

end GridWalk.Session
