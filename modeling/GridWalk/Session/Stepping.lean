import GridWalk.Session.Basic

namespace GridWalk.Session

-- Logs the value printed by the step that has just been taken, and shows the
-- end of the log.
def logPrint (s : Session) (point : Point) : Session :=
  { s with
    output := s.output.print s.machine.accumulator point s.machine.steps
    scroll := Scroll.bottom }

-- Takes one step and says whether the program can go on. Only steps that change
-- the machine enter the history: an Exit does, walking off the grid and faults
-- do not.
def stepForward (s : Session) : Bool × Session :=
  match s.fault with
  | some fault => (false, s.tell (.stoppedByFault fault))
  | none =>
      let before := s.snapshot
      let point := before.machine.cursor
      match before.machine.step s.grid with
      | (.continued i, after) =>
          let stepped :=
            { s with
              machine := after
              history := s.history.push before
              notice := .executed i point }
          (true, if i = .print then stepped.logPrint point else stepped)
      | (.halted reason, after) =>
          let stepped := { s with machine := after, playing := false, notice := .finished reason }
          (false,
            if before.machine = after then stepped
            else { stepped with history := stepped.history.push before })
      | (.faulted fault, _) =>
          (false, { s with playing := false, notice := .crashed fault, fault := some fault })

-- Takes back the newest step of the history. With none left, a fault is still
-- taken back.
def stepBackward (s : Session) : Session :=
  match s.history.pop? with
  | some (before, history) =>
      { s with
        machine := before.machine
        history := history
        output := s.output.truncate before.outputLength
        fault := none
        notice := .steppedBackward
        scroll := Scroll.bottom }
  | none =>
      if s.fault.isSome then { s with fault := none, notice := .clearedFault }
      else s.tell .noHistory

-- Takes up to `count` steps after those already done, and counts them.
def stepUpTo : Nat → Nat → Session → Nat × Session
  | 0, done, s => (done, s)
  | count + 1, done, s =>
      match s.stepForward with
      | (true, after) => stepUpTo count (done + 1) after
      | (false, after) => (done, after)

-- Takes the steps that are left of a limit, up to the first after which the
-- program cannot go on or the cursor is on a breakpoint.
def runOn (limit : Nat) : Nat → Session → Session
  | 0, s => s.tell (.stillRunning limit)
  | left + 1, s =>
      match s.stepForward with
      | (false, after) => after
      | (true, after) =>
          let point := after.machine.cursor
          if point ∈ after.breakpoints then after.tell (.breakpointAfter point (limit - left))
          else runOn limit left after

def runToEnd (s : Session) : Session := runOn runLimit runLimit s

def pause (s : Session) : Session := { s with playing := false }

-- Starts to play, if there is something to play, or pauses.
def togglePlay (s : Session) : Session :=
  if s.playing then s.pause.tell .paused
  else
    match s.fault, s.machine.halt? s.grid with
    | some fault, _ => s.tell (.cannotPlayFault fault)
    | none, some reason => s.tell (.cannotPlayHalt reason)
    | none, none => { s with playing := true, notice := .playing }

-- One step of playing. It pauses when the program cannot go on and on
-- breakpoints.
def playTick (s : Session) : Session :=
  match s.stepForward with
  | (false, after) => after.pause
  | (true, after) =>
      let point := after.machine.cursor
      if point ∈ after.breakpoints then after.pause.tell (.breakpointHit point)
      else after.tell .playing

-- Back to the initial machine, with nothing done and nothing printed.
def reset (s : Session) : Session :=
  { s with
    machine := s.initial
    history := s.history.clear
    output := OutputLog.empty
    fault := none
    scroll := 0
    notice := .backToStart
    playing := false }

end GridWalk.Session
