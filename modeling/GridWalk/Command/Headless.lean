import GridWalk.Machine.Run

namespace GridWalk

-- A place for lines of text. It takes `room` more lines and refuses those after
-- them; without a bound it takes all. The lines it holds are newest first, so
-- that taking one more is cheap.
structure Sink where
  taken : List String
  room : Option Nat
  deriving DecidableEq

namespace Sink

def unbounded : Sink := ⟨[], none⟩

-- A device that has no space left.
def full : Sink := ⟨[], some 0⟩

-- What was written, oldest line first.
def lines (sink : Sink) : List String := sink.taken.reverse

def write? (sink : Sink) (line : String) : Option Sink :=
  match sink.room with
  | none => some ⟨line :: sink.taken, none⟩
  | some 0 => none
  | some (room + 1) => some ⟨line :: sink.taken, some room⟩

theorem lines_of_write? {sink after : Sink} {line : String} (h : sink.write? line = some after) :
    after.lines = sink.lines ++ [line] := by
  unfold write? at h
  split at h
  · cases h; simp [lines]
  · cases h
  · cases h; simp [lines]

-- Writes lines up to the first that is refused, and says whether all were taken.
def writeAll (sink : Sink) : List String → Bool × Sink
  | [] => (true, sink)
  | line :: rest =>
      match sink.write? line with
      | some after => after.writeAll rest
      | none => (false, sink)

def text (sink : Sink) : String := String.join (sink.lines.map (· ++ "\n"))

end Sink

-- What a run that prints to a sink has to remember.
structure Headless where
  sink : Sink
  stopped : Bool
  deriving DecidableEq

namespace Headless

-- Each printed value goes to the sink. A value that the sink refuses stops the
-- run.
def observer : Observer Headless where
  cancelled h := h.stopped
  seen h m i :=
    if i = .print then
      match h.sink.write? (toString m.accumulator) with
      | some sink => { h with sink := sink }
      | none => { h with stopped := true }
    else h

-- How a finished run is reported, and whether it counts as a success.
def verdict : Except Fault RunSummary → Bool × String
  | .error fault => (false, s!"Runtime error: {fault.message}")
  | .ok ⟨.halted reason, steps⟩ => (true, s!"Execution {reason.describe} after {steps} step(s)")
  | .ok ⟨.stepLimit, steps⟩ => (true, s!"Stopped after {steps} step(s): step limit reached")
  | .ok ⟨.cancelled, steps⟩ => (true, s!"Cancelled after {steps} step(s)")

end Headless

end GridWalk
