import GridWalk.Proofs.Machine.Outcome
import GridWalk.Proofs.Session.Ledger

namespace GridWalk.Session

-- The session after an instruction that lets the program go on.
def executed (s : Session) (i : Instruction) (next : Machine) : Session :=
  let stepped :=
    { s with
      machine := next
      history := s.history.push s.snapshot
      notice := .executed i s.machine.cursor }
  if i = .print then stepped.logPrint s.machine.cursor else stepped

section Executed

variable (s : Session) (i : Instruction) (next : Machine)

@[simp] theorem executed_course : (s.executed i next).course = s.course.execute i next := by
  unfold executed
  split <;> simp [course, Course.execute, logPrint, snapshot, *]

@[simp] theorem executed_fault : (s.executed i next).fault = s.fault := by
  unfold executed
  split <;> rfl

@[simp] theorem executed_playing : (s.executed i next).playing = s.playing := by
  unfold executed
  split <;> rfl

@[simp] theorem executed_breakpoints : (s.executed i next).breakpoints = s.breakpoints := by
  unfold executed
  split <;> rfl

@[simp] theorem executed_grid : (s.executed i next).grid = s.grid := by
  unfold executed
  split <;> rfl

@[simp] theorem executed_machine : (s.executed i next).machine = next := by
  unfold executed
  split <;> rfl

@[simp] theorem executed_history : (s.executed i next).history = s.history.push s.snapshot := by
  unfold executed
  split <;> rfl

theorem toList_executed_output :
    (s.executed i next).output.lines.toList = s.output.lines.toList ++ s.course.newLines i next :=
  calc
    (s.executed i next).output.lines.toList = (s.course.execute i next).output.lines.toList :=
      congrArg (fun c : Course => c.output.lines.toList) (executed_course s i next)
    _ = s.output.lines.toList ++ s.course.newLines i next := Course.toList_execute_output _ _ _

end Executed

section Outcome

variable {s : Session}

theorem stepForward_of_fault {fault : Fault} (hfault : s.fault = some fault) :
    s.stepForward = (false, s.tell (.stoppedByFault fault)) := by
  simp only [stepForward, hfault]

theorem stepForward_of_continued {i : Instruction} {next : Machine} (hfault : s.fault = none)
    (hstep : s.machine.step s.grid = (.continued i, next)) :
    s.stepForward = (true, s.executed i next) := by
  simp only [stepForward, hfault, snapshot, hstep, executed]

theorem stepForward_of_halted {reason : Halt} {next : Machine} (hfault : s.fault = none)
    (hstep : s.machine.step s.grid = (.halted reason, next)) :
    s.stepForward = (false,
      { s with
        machine := next
        history := if s.machine = next then s.history else s.history.push s.snapshot
        notice := .finished reason
        playing := false }) := by
  simp only [stepForward, hfault, snapshot, hstep]
  split <;> rfl

theorem stepForward_of_faulted {fault : Fault} {next : Machine} (hfault : s.fault = none)
    (hstep : s.machine.step s.grid = (.faulted fault, next)) :
    s.stepForward = (false,
      { s with playing := false, notice := .crashed fault, fault := some fault }) := by
  simp only [stepForward, hfault, snapshot, hstep]

-- What a step forward comes to. A fault that is shown blocks it, otherwise the machine
-- decides.
inductive Forwards (s : Session) : Bool → Session → Prop where
  | blocked {fault : Fault} (hfault : s.fault = some fault) :
      Forwards s false (s.tell (.stoppedByFault fault))
  | continued {i : Instruction} {next : Machine} (hfault : s.fault = none)
      (hstep : s.machine.step s.grid = (.continued i, next)) : Forwards s true (s.executed i next)
  | halted {reason : Halt} {next : Machine} (hfault : s.fault = none)
      (hstep : s.machine.step s.grid = (.halted reason, next)) :
      Forwards s false
        { s with
          machine := next
          history := if s.machine = next then s.history else s.history.push s.snapshot
          notice := .finished reason
          playing := false }
  | faulted {fault : Fault} {next : Machine} (hfault : s.fault = none)
      (hstep : s.machine.step s.grid = (.faulted fault, next)) :
      Forwards s false { s with playing := false, notice := .crashed fault, fault := some fault }

theorem stepForward_eq_iff {goes : Bool} {after : Session} :
    s.stepForward = (goes, after) ↔ Forwards s goes after := by
  constructor
  · intro h
    cases hfault : s.fault with
    | some fault =>
        rw [stepForward_of_fault hfault] at h
        cases h
        exact .blocked hfault
    | none =>
        rcases hstep : s.machine.step s.grid with ⟨i | reason | fault, next⟩
        · rw [stepForward_of_continued hfault hstep] at h
          cases h
          exact .continued hfault hstep
        · rw [stepForward_of_halted hfault hstep] at h
          cases h
          exact .halted hfault hstep
        · rw [stepForward_of_faulted hfault hstep] at h
          cases h
          exact .faulted hfault hstep
  · intro h
    cases h with
    | blocked hfault => exact stepForward_of_fault hfault
    | continued hfault hstep => exact stepForward_of_continued hfault hstep
    | halted hfault hstep => exact stepForward_of_halted hfault hstep
    | faulted hfault hstep => exact stepForward_of_faulted hfault hstep

theorem playing_stepForward (h : s.playing = false) : s.stepForward.2.playing = false := by
  rcases hforward : s.stepForward with ⟨goes, after⟩
  cases stepForward_eq_iff.mp hforward with
  | blocked => exact h
  | @continued i next => exact (executed_playing s i next).trans h
  | halted | faulted => rfl

end Outcome

-- A step does not look at the notice, and every step leaves one of its own.
theorem stepForward_tell (s : Session) (notice : Notice) : (s.tell notice).stepForward = s.stepForward := by
  rcases hforward : s.stepForward with ⟨goes, after⟩
  apply stepForward_eq_iff.mpr
  cases stepForward_eq_iff.mp hforward with
  | blocked hfault => exact .blocked hfault
  | continued hfault hstep => exact .continued hfault hstep
  | halted hfault hstep => exact .halted hfault hstep
  | faulted hfault hstep => exact .faulted hfault hstep

theorem pause_of_not_playing {s : Session} (h : s.playing = false) : s.pause = s := by
  rw [pause, ← h]

theorem eq_tell_notice {s t : Session} (h : ∃ notice, t = s.tell notice) : t = s.tell t.notice := by
  obtain ⟨notice, rfl⟩ := h
  rfl

end GridWalk.Session
