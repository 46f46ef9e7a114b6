import GridWalk.Session.Stepping
import GridWalk.Session.Memory

namespace GridWalk

inductive Key where
  | char (c : Char)
  | left
  | right
  | up
  | down
  | tab
  | backTab
  | enter
  | backspace
  | other
  deriving DecidableEq

namespace Session

-- The number of steps that a digit key stands for.
def stepCount? (c : Char) : Option Nat :=
  if '1' ≤ c ∧ c ≤ '9' then some (Text.digitValue c) else none

def pressDigit (s : Session) (count : Nat) : Session :=
  let (done, after) := s.pause.stepUpTo count 0
  if after.fault.isNone && (after.machine.halt? after.grid).isNone then
    after.tell (.steppedForward done)
  else after

def pressUp (s : Session) : Session :=
  match s.focus with
  | .grid => s
  | .memory => { s with selected := s.selected - 1 }
  | .output => { s with scroll := Scroll.up s.scroll }

def pressDown (s : Session) : Session :=
  match s.focus with
  | .grid => s
  | .memory => { s with selected := min (s.selected + 1) (s.machine.stack.size - 1) }
  | .output => { s with scroll := Scroll.down s.scroll }

def pressSpace (s : Session) : Session :=
  if debounceMs ≤ s.sinceSpaceMs then { s with sinceSpaceMs := 0 }.togglePlay else s

def pressChar (s : Session) (c : Char) : Session :=
  match stepCount? c with
  | some count => s.pressDigit count
  | none =>
      match c with
      | 'q' | 'Q' => { s with quitting := true }
      | 's' => s.pause.stepForward.2
      | '+' | '=' => s.changeSelected 1
      | '-' => s.changeSelected (-1)
      | '0' => s.writeSelected 0
      | 'b' => s.toggleBreakpoint
      | ' ' => s.pressSpace
      | 'r' => s.reset
      | _ => s

def press (s : Session) : Key → Session
  | .char c => s.pressChar c
  | .left => s.pause.stepBackward
  | .right => s.pause.stepForward.2
  | .up => s.pressUp
  | .down => s.pressDown
  | .tab => { s with focus := s.focus.next }
  | .backTab => { s with focus := s.focus.previous }
  | .enter => s.pause.runToEnd
  | .backspace => s.reset
  | .other => s

end Session

-- Whatever can happen to a session.
inductive Event where
  | press (key : Key)
  | togglePlay
  | playTick
  | stepForward
  | stepBackward
  | runToEnd
  | reset
  | toggleBreakpoint
  | wait (ms : Nat)
  deriving DecidableEq

namespace Session

def handle (s : Session) : Event → Session
  | .press key => s.press key
  | .togglePlay => s.togglePlay
  | .playTick => s.playTick
  | .stepForward => s.stepForward.2
  | .stepBackward => s.stepBackward
  | .runToEnd => s.runToEnd
  | .reset => s.reset
  | .toggleBreakpoint => s.toggleBreakpoint
  | .wait ms => { s with sinceSpaceMs := s.sinceSpaceMs + ms }

end Session

end GridWalk
