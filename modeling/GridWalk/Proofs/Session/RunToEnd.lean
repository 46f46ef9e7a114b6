import GridWalk.Proofs.Machine.Run
import GridWalk.Proofs.Session.Forward

namespace GridWalk.Session

section RunOn

variable {s after : Session} {limit left : Nat}

theorem runOn_of_stopped (hstep : s.stepForward = (false, after)) :
    runOn limit (left + 1) s = after := by
  simp only [runOn, hstep]

theorem runOn_of_going (hstep : s.stepForward = (true, after))
    (hclear : after.machine.cursor ∉ after.breakpoints) :
    runOn limit (left + 1) s = runOn limit left after := by
  simp [runOn, hstep, hclear]

theorem runOn_of_breakpoint (hstep : s.stepForward = (true, after))
    (hset : after.machine.cursor ∈ after.breakpoints) :
    runOn limit (left + 1) s = after.tell (.breakpointAfter after.machine.cursor (limit - left)) := by
  simp [runOn, hstep, hset]

end RunOn

-- A run with a limit, and a session that takes as many steps as are left of the
-- limit. Both take the same steps of the machine, so the calls of an observer
-- and the lines of the session come from the same instructions.
theorem runOn_agrees_with_loop {s : Session} {limit left first : Nat} (hfault : s.fault = none)
    (hbreak : s.breakpoints = []) (hfirst : first ≤ s.machine.steps)
    (hleft : s.machine.steps + left = first + limit) :
    ∃ (calls : List (Machine × Instruction)) (result : Except Fault RunSummary),
      (∀ {σ : Type} (observer : Observer σ), observer.Patient → ∀ (t : σ) (fuel : Nat),
        Run.loop s.grid (some limit) observer first (fuel + left + 1) t s.machine =
          some (observer.watch t calls, (runOn limit left s).machine, result)) ∧
      (∃ appended, (runOn limit left s).output.lines.toList = s.output.lines.toList ++ appended ∧
        appended.map OutputLine.text = printedTexts calls) ∧
      ∀ fault, (runOn limit left s).fault = some fault ↔ result = .error fault := by
  induction left generalizing s with
  | zero =>
      refine ⟨[], .ok ⟨.stepLimit, s.machine.steps - first⟩, ?_, ⟨[], by simp [runOn, tell], rfl⟩, ?_⟩
      · intro σ observer hpatient t fuel
        exact Run.loop_of_limit hpatient hleft
      · simp [runOn, tell, hfault]
  | succ left ih =>
      have hbelow : s.machine.steps < first + limit := by omega
      rcases hstep : s.machine.step s.grid with ⟨outcome, next⟩
      cases outcome with
      | continued i =>
          have hsteps := Machine.steps_of_continued hstep
          have hmachine := executed_machine s i next
          have hnobreak : (s.executed i next).breakpoints = [] := by rw [executed_breakpoints, hbreak]
          have hnext : runOn limit (left + 1) s = runOn limit left (s.executed i next) :=
            runOn_of_going (stepForward_of_continued hfault hstep) (by rw [hnobreak]; exact List.not_mem_nil)
          obtain ⟨calls, result, hloop, ⟨appended, hlines, htexts⟩, hfaults⟩ :=
            ih (s := s.executed i next) (by rw [executed_fault, hfault]) hnobreak
              (by rw [hmachine]; omega) (by rw [hmachine]; omega)
          rw [← hnext, hmachine, executed_grid] at hloop
          rw [← hnext] at hlines hfaults
          refine ⟨(next, i) :: calls, result, ?_, ⟨s.course.newLines i next ++ appended, ?_, ?_⟩, hfaults⟩
          · intro σ observer hpatient t fuel
            rw [Run.loop_of_continued hpatient hbelow hfirst hstep]
            exact hloop observer hpatient (observer.seen t next i) fuel
          · rw [hlines, toList_executed_output, List.append_assoc]
          · have htext : (s.course.newLines i next).map OutputLine.text =
                if i = .print then [toString next.accumulator] else [] := by
              by_cases hprint : i = .print <;> simp [Course.newLines, hprint, OutputLine.text]
            rw [List.map_append, htexts, printedTexts_cons, htext]
      | halted reason =>
          have hstop : runOn limit (left + 1) s = _ := runOn_of_stopped (stepForward_of_halted hfault hstep)
          rw [hstop]
          refine ⟨[], .ok ⟨.halted reason, next.steps - first⟩, ?_, ⟨[], by simp, rfl⟩, by simp [hfault]⟩
          intro σ observer hpatient t fuel
          exact Run.loop_of_halted hpatient hbelow hfirst hstep
      | faulted fault =>
          have hstop : runOn limit (left + 1) s = _ := runOn_of_stopped (stepForward_of_faulted hfault hstep)
          obtain ⟨_, _, rfl⟩ := Machine.step_eq_faulted_iff.mp hstep
          rw [hstop]
          refine ⟨[], .error fault, ?_, ⟨[], by simp, rfl⟩, by simp⟩
          intro σ observer hpatient t fuel
          exact Run.loop_of_faulted hpatient hbelow hfirst hstep

-- Running to the end comes to the same as a run of the machine with the same
-- limit that nobody stops: the same machine, the same printed values in the same
-- order, and a fault in the one exactly if there is one in the other.
theorem runToEnd_agrees_with_run (s : Session) (hfault : s.fault = none) (hbreak : s.breakpoints = []) :
    ∃ (calls : List (Machine × Instruction)) (result : Except Fault RunSummary),
      (∀ {σ : Type} (observer : Observer σ), observer.Patient → ∀ (t : σ) (fuel : Nat), 100000 < fuel →
        s.machine.run s.grid (some 100000) observer fuel t =
          some (observer.watch t calls, s.runToEnd.machine, result)) ∧
      (∃ appended, s.runToEnd.output.lines.toList = s.output.lines.toList ++ appended ∧
        appended.map OutputLine.text = printedTexts calls) ∧
      ∀ fault, s.runToEnd.fault = some fault ↔ result = .error fault := by
  obtain ⟨calls, result, hloop, hlines, hfaults⟩ :=
    runOn_agrees_with_loop hfault hbreak (Nat.le_refl s.machine.steps) rfl
  refine ⟨calls, result, ?_, hlines, hfaults⟩
  intro σ observer hpatient t fuel hfuel
  obtain ⟨extra, rfl⟩ : ∃ extra, fuel = extra + 100000 + 1 := ⟨fuel - 100001, by omega⟩
  exact hloop observer hpatient t extra

-- Two values are printed before the division faults; the observer keeps the
-- accumulator at every instruction.
theorem runToEnd_agrees_with_run_faulting :
    let g : Grid := ⟨1, 4, #[.print, .increment, .print, .div], rfl⟩
    let s := (start g (Machine.start 1 Point.zero) 2).handleAll [.press .tab, .playTick]
    let observer : Observer (List Int32) := ⟨fun _ => false, fun seen m _ => seen ++ [m.accumulator]⟩
    s.fault = none ∧ s.breakpoints = [] ∧
      ∃ calls, s.machine.run g (some 100000) observer 100001 [] =
          some (observer.watch [] calls, s.runToEnd.machine, .error (.divisionByZero ⟨0, 3⟩)) ∧
        s.runToEnd.fault = some (.divisionByZero ⟨0, 3⟩) ∧
        ∃ appended, s.runToEnd.output.lines.toList = s.output.lines.toList ++ appended ∧
          appended.map OutputLine.text = printedTexts calls ∧ appended.length = 1 := by
  intro g s observer
  have hfault : s.fault = none := by decide +kernel
  have hbreak : s.breakpoints = [] := by decide +kernel
  have hend : s.runToEnd.fault = some (.divisionByZero ⟨0, 3⟩) := by decide +kernel
  have hbefore : s.output.lines.toList.length = 1 := by decide +kernel
  have hafter : s.runToEnd.output.lines.toList.length = 2 := by decide +kernel
  obtain ⟨calls, result, hrun, ⟨appended, hlines, htexts⟩, hfaults⟩ :=
    runToEnd_agrees_with_run s hfault hbreak
  have hresult := (hfaults _).mp hend
  subst hresult
  have hcount : appended.length = 1 := by
    rw [hlines, List.length_append, hbefore] at hafter
    omega
  exact ⟨hfault, hbreak, calls, hrun observer (fun _ => rfl) [] 100001 (by omega), hend, appended, hlines,
    htexts, hcount⟩

end GridWalk.Session
