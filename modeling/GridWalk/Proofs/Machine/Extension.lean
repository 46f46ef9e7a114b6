import GridWalk.Proofs.Machine.Execution
import GridWalk.Proofs.Machine.Operand

namespace GridWalk.Machine

-- The same machine with more cells behind its own.
def extend (m : Machine) (extra : Array Int32) : Machine := { m with stack := m.stack ++ extra }

section Registers

variable (m : Machine) (extra : Array Int32)

@[simp] theorem extend_exited : (m.extend extra).exited = m.exited := rfl

@[simp] theorem extend_cursor : (m.extend extra).cursor = m.cursor := rfl

@[simp] theorem advance_extend : (m.extend extra).advance = m.advance.extend extra := rfl

@[simp] theorem leave_extend : (m.extend extra).leave = m.leave.extend extra := rfl

theorem faceIf_extend (facing : Facing) :
    (m.extend extra).faceIf facing = (m.faceIf facing).extend extra := by
  cases hflag : m.flag <;> simp [faceIf, extend, face, hflag]

end Registers

section Access

variable {m : Machine} (extra : Array Int32)

theorem pointerInRange_extend (h : m.pointerInRange = true) :
    (m.extend extra).pointerInRange = true := by
  obtain ⟨hnonneg, hlt⟩ := pointerInRange_iff.mp h
  refine pointerInRange_iff.mpr ⟨hnonneg, ?_⟩
  simp only [extend, Array.size_append]
  omega

theorem operand_extend (h : m.pointerInRange = true) : (m.extend extra).operand = m.operand := by
  have hslot : m.slot < m.stack.size := slot_lt h
  have hcell : (m.stack ++ extra)[m.slot]? = m.stack[m.slot]? := Array.getElem?_append_left hslot
  exact congrArg (·.getD 0) hcell

end Access

section Extend

variable {m : Machine} {i : Instruction} (extra : Array Int32)

-- Only the fault of a pointer out of range depends on the size of the stack.
theorem fault?_extend (hfits : m.Fits i) : (m.extend extra).fault? i = m.fault? i := by
  by_cases hcell : i.usesCell = true
  · have hrange := hfits hcell
    have hoperand := operand_extend extra hrange
    have hrange' := pointerInRange_extend extra hrange
    simp only [fault?, hcell, hrange, hrange', hoperand]
    rfl
  · have hdiv : i ≠ .div := by
      rintro rfl
      exact hcell rfl
    simp [fault?, hcell, hdiv]

theorem apply_extend (hfits : m.Fits i) :
    (m.extend extra).apply i = (m.apply i).extend extra := by
  have hoperand : i.usesCell = true → (m.extend extra).operand = m.operand :=
    fun hcell => operand_extend extra (hfits hcell)
  cases i with
  | add | sub | mul | div | isLess | isMore | isLessOrEqual | isMoreOrEqual | isEqual | isNotEqual
  | readToAccumulator =>
      simp only [apply, hoperand rfl]
      rfl
  | writeFromAccumulator =>
      have hslot : m.slot < m.stack.size := slot_lt (hfits rfl)
      have hwrite : (m.stack ++ extra).setIfInBounds m.slot m.accumulator =
          m.stack.setIfInBounds m.slot m.accumulator ++ extra :=
        Array.setIfInBounds_append_left hslot
      exact congrArg (fun stack => { m with stack := stack }) hwrite
  | moveLeftIfTrue | moveRightIfTrue | moveUpIfTrue | moveDownIfTrue => exact faceIf_extend m extra _
  | _ => rfl

theorem perform_extend (hfits : m.Fits i) :
    (m.extend extra).perform i = (m.perform i).extend extra := by
  by_cases hexit : i = .exit <;> simp [perform, hexit, apply_extend extra hfits]

theorem step_extend {g : Grid}
    (hrange : ∀ pointer length point,
      (m.step g).1 ≠ .faulted (.pointerOutOfRange pointer length point)) :
    (m.extend extra).step g = ((m.step g).1, (m.step g).2.extend extra) := by
  have hrelated := step_related (g := g) (R := fun a b => b = a.extend extra) (m := m) rfl rfl rfl ?_
  · exact Prod.ext hrelated.1 hrelated.2
  · intro i hexited hget
    have hfits : m.Fits i := by
      apply fits_of_fault?
      intro pointer length point hfault
      exact hrange pointer length point (by simp [step, hexited, hget, hfault])
    exact ⟨fault?_extend extra hfits, fun _ => perform_extend extra hfits⟩

end Extend

-- A run that never misses a cell goes the same way with more memory: it reports the
-- same, its other faults included, and leaves the cells behind its own alone.
theorem run_unchanged_by_more_memory (g : Grid) (m : Machine) (extra : Array Int32) (n : Nat)
    (hrange : ∀ k < n, ∀ pointer length point,
      m.outcome g k ≠ .faulted (.pointerOutOfRange pointer length point)) :
    (∀ k < n, (m.extend extra).outcome g k = m.outcome g k) ∧
      ∀ k ≤ n, (m.extend extra).after g k = (m.after g k).extend extra :=
  run_of_steps (f := (·.extend extra)) fun k hk => step_extend extra (hrange k hk)

-- The pointer leaves the stack and comes back before it is used, and then a
-- division fails.
theorem run_unchanged_by_more_memory_wandering :
    let g : Grid := ⟨1, 6, #[.moveStackUp, .moveStackDown, .increment, .writeFromAccumulator,
      .moveStackDown, .div], rfl⟩
    let m := start 2 Point.zero
    let wide := m.extend #[7, 8]
    (∀ k < 7, ∀ pointer length point,
      m.outcome g k ≠ .faulted (.pointerOutOfRange pointer length point)) ∧
      (m.after g 1).pointer = -1 ∧ (wide.after g 1).pointer = -1 ∧
      wide.outcome g 5 = .faulted (.divisionByZero ⟨0, 5⟩) ∧
      wide.outcome g 6 = .faulted (.divisionByZero ⟨0, 5⟩) ∧
      (wide.after g 7).stack = #[1, 0, 7, 8] := by
  intro g m wide
  have hreports : ∀ k < 7, m.outcome g k ∈ [.continued .moveStackUp, .continued .moveStackDown,
      .continued .increment, .continued .writeFromAccumulator, .faulted (.divisionByZero ⟨0, 5⟩)] := by
    decide
  have hrange : ∀ k < 7, ∀ pointer length point,
      m.outcome g k ≠ .faulted (.pointerOutOfRange pointer length point) := by
    intro k hk pointer length point hmissed
    have hmem := hreports k hk
    rw [hmissed] at hmem
    simp at hmem
  obtain ⟨houtcomes, hstates⟩ := run_unchanged_by_more_memory g m #[7, 8] 7 hrange
  refine ⟨hrange, by decide, ?_, ?_, ?_, ?_⟩
  · rw [hstates 1 (by decide)]
    decide
  · rw [houtcomes 5 (by decide)]
    decide
  · rw [houtcomes 6 (by decide)]
    decide
  · rw [hstates 7 (by decide)]
    decide

end GridWalk.Machine
