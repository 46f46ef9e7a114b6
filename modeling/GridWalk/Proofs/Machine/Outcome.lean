import GridWalk.Proofs.Grid.Cells
import GridWalk.Proofs.Machine.Execution

namespace GridWalk

namespace Machine

@[simp] theorem apply_exited (m : Machine) (i : Instruction) : (m.apply i).exited = m.exited := by
  cases i <;> simp only [apply, face, faceIf] <;> split <;> rfl

theorem step_eq_continued_iff {g : Grid} {m next : Machine} {i : Instruction} :
    m.step g = (.continued i, next) ↔
      m.exited = false ∧ g.get? m.cursor = some i ∧ m.fault? i = none ∧ i ≠ .exit ∧
        next = (m.apply i).advance := by
  constructor
  · intro h
    rcases step_cases g m with ⟨j, hexited, hget, hfault, hstep⟩ | ⟨j, fault, _, _, _, hstep⟩ |
      ⟨reason, _, hstep⟩
    · rw [hstep] at h
      by_cases hexit : j = .exit
      · simp [hexit] at h
      · simp only [hexit, if_false, Prod.mk.injEq, Outcome.continued.injEq] at h
        obtain ⟨rfl, rfl⟩ := h
        exact ⟨hexited, hget, hfault, hexit, by simp [perform, hexit]⟩
    · rw [hstep] at h
      cases h
    · rw [hstep] at h
      cases h
  · rintro ⟨hexited, hget, hfault, hexit, rfl⟩
    simp [step, hexited, hget, hfault, hexit]

theorem step_eq_faulted_iff {g : Grid} {m next : Machine} {fault : Fault} :
    m.step g = (.faulted fault, next) ↔
      m.exited = false ∧ (∃ i, g.get? m.cursor = some i ∧ m.fault? i = some fault) ∧ next = m := by
  constructor
  · intro h
    rcases step_cases g m with ⟨j, _, _, _, hstep⟩ | ⟨j, other, hexited, hget, hfault, hstep⟩ |
      ⟨reason, _, hstep⟩
    · rw [hstep] at h
      by_cases hexit : j = .exit <;> simp [hexit] at h
    · rw [hstep] at h
      cases h
      exact ⟨hexited, ⟨j, hget, hfault⟩, rfl⟩
    · rw [hstep] at h
      cases h
  · rintro ⟨hexited, ⟨i, hget, hfault⟩, rfl⟩
    simp [step, hexited, hget, hfault]

theorem halt?_eq_none_iff {g : Grid} {m : Machine} :
    m.halt? g = none ↔ m.exited = false ∧ m.cursor ∈ g := by
  unfold halt?
  cases m.exited with
  | true => simp
  | false => by_cases hon : m.cursor ∈ g <;> simp [hon]

theorem exited_of_halt? {g : Grid} {m : Machine} (h : m.halt? g = none) : m.exited = false :=
  (halt?_eq_none_iff.mp h).1

-- A step reports a halt at rest, or where it executes Exit.
theorem step_eq_halted_iff {g : Grid} {m next : Machine} {reason : Halt} :
    m.step g = (.halted reason, next) ↔
      (m.halt? g = some reason ∧ next = m) ∨
      (m.exited = false ∧ g.get? m.cursor = some .exit ∧ reason = .exit ∧ next = m.leave) := by
  have hgoing : ∀ {i}, m.exited = false → g.get? m.cursor = some i → m.halt? g = none :=
    fun hexited hget => halt?_eq_none_iff.mpr ⟨hexited, Grid.mem_of_get? hget⟩
  rcases step_cases g m with ⟨i, hexited, hget, _, hstep⟩ | ⟨i, fault, hexited, hget, hfault, hstep⟩ |
    ⟨rest, hhalt, hstep⟩
  · by_cases hexit : i = .exit
    · subst hexit
      simp [hstep, hgoing hexited hget, hexited, hget, perform, eq_comm]
    · simp [hstep, hgoing hexited hget, hget, hexit]
  · have hexit : i ≠ .exit := by
      rintro rfl
      cases hfault
    simp [hstep, hgoing hexited hget, hget, hexit]
  · constructor
    · intro h
      rw [hstep] at h
      cases h
      exact .inl ⟨hhalt, rfl⟩
    · rintro (⟨hsame, rfl⟩ | ⟨hexited, hget, _⟩)
      · rw [hhalt] at hsame
        cases hsame
        exact hstep
      · rw [hgoing hexited hget] at hhalt
        cases hhalt

theorem steps_of_continued {g : Grid} {m next : Machine} {i : Instruction}
    (h : m.step g = (.continued i, next)) : next.steps = m.steps + 1 := by
  obtain ⟨_, _, _, _, rfl⟩ := step_eq_continued_iff.mp h
  simp [advance]

theorem exited_of_continued {g : Grid} {m next : Machine} {i : Instruction}
    (h : m.step g = (.continued i, next)) : next.exited = false := by
  obtain ⟨hexited, _, _, _, rfl⟩ := step_eq_continued_iff.mp h
  simpa [advance] using hexited

-- An instruction that cannot be carried out is blamed on its own cell.
theorem point?_of_fault? {m : Machine} {i : Instruction} {fault : Fault}
    (h : m.fault? i = some fault) : fault.point? = some m.cursor := by
  unfold fault? at h
  split at h
  · cases h; rfl
  · split at h
    · cases h; rfl
    · split at h
      · cases h; rfl
      · cases h

end Machine

theorem Fault.ne_noSuchCell_of_point? {fault : Fault} {point : Point}
    (h : fault.point? = some point) (index length : Nat) : fault ≠ .noSuchCell index length := by
  rintro rfl
  cases h

end GridWalk
