import GridWalk.Proofs.Machine.Counter
import GridWalk.Proofs.Machine.Outcome

namespace GridWalk.Machine

section Halting

variable {g : Grid} {m next : Machine} {reason : Halt}

-- Executing Exit counts a step, so a halt that changes nothing is a rest.
theorem halt?_eq_some_iff : m.halt? g = some reason ↔ m.step g = (.halted reason, m) := by
  constructor
  · intro hrest
    exact step_eq_halted_iff.mpr (.inl ⟨hrest, rfl⟩)
  · intro hstep
    rcases step_eq_halted_iff.mp hstep with ⟨hrest, _⟩ | ⟨_, _, _, hleft⟩
    · exact hrest
    · have hsteps : m.steps = m.steps + 1 := congrArg Machine.steps hleft
      omega

-- A halt that changes something is the execution of Exit.
theorem leave_of_halted (hstep : m.step g = (.halted reason, next)) (hchanged : next ≠ m) :
    m.exited = false ∧ g.get? m.cursor = some .exit ∧ reason = .exit ∧ next = m.leave := by
  rcases step_eq_halted_iff.mp hstep with ⟨_, hkept⟩ | hexit
  · exact absurd hkept hchanged
  · exact hexit

-- Whichever way a step came to report a halt, the machine is at rest after it.
theorem halt?_of_halted (hstep : m.step g = (.halted reason, next)) : next.halt? g = some reason := by
  rcases step_eq_halted_iff.mp hstep with ⟨hrest, rfl⟩ | ⟨_, _, rfl, rfl⟩
  · exact hrest
  · simp [halt?, leave]

-- A machine that has not exited and does not go on is off the grid, or executes Exit, or
-- cannot carry out its instruction.
theorem stop_cases (hrunning : m.exited = false) (hstops : ∀ i, (m.step g).1 ≠ .continued i) :
    (m.cursor ∉ g ∧ m.step g = (.halted .outOfBounds, m)) ∨
    (m.cursor ∈ g ∧ m.step g = (.halted .exit, m.leave)) ∨
    ∃ fault, m.cursor ∈ g ∧ m.step g = (.faulted fault, m) := by
  rcases step_cases g m with ⟨i, _, hget, _, hstep⟩ | ⟨i, fault, _, hget, _, hstep⟩ | ⟨rest, hrest, hstep⟩
  · by_cases hexit : i = .exit
    · rw [if_pos hexit, perform, if_pos hexit] at hstep
      exact .inr (.inl ⟨Grid.mem_of_get? hget, hstep⟩)
    · rw [if_neg hexit] at hstep
      exact absurd (congrArg Prod.fst hstep) (hstops i)
  · exact .inr (.inr ⟨fault, Grid.mem_of_get? hget, hstep⟩)
  · have hout : m.cursor ∉ g := by
      intro hon
      rw [halt?_eq_none_iff.mpr ⟨hrunning, hon⟩] at hrest
      cases hrest
    rw [halt?, hrunning, if_neg Bool.false_ne_true, if_neg hout] at hrest
    cases hrest
    exact .inl ⟨hout, hstep⟩

-- A machine at rest stays there: each further step reports the same halt.
theorem rests_for_good (hrest : m.halt? g = some reason) (n : Nat) :
    m.outcome g n = .halted reason ∧ m.after g n = m := by
  have hstep := halt?_eq_some_iff.mp hrest
  have hkept : m.after g n = m := after_of_step_snd (by rw [hstep]) n
  refine ⟨?_, hkept⟩
  rw [outcome, hkept, hstep]

end Halting

-- The registers say that a machine has halted exactly if a step reports the halt and
-- leaves everything as it is. The one other halt is reported by the step that executes
-- Exit. After either of them nothing more happens.
theorem halts_exactly_and_for_good (g : Grid) (m : Machine) :
    (∀ reason, m.halt? g = some reason ↔ m.step g = (.halted reason, m)) ∧
    (∀ reason, (∃ next, m.step g = (.halted reason, next) ∧ next ≠ m) ↔
      m.exited = false ∧ g.get? m.cursor = some .exit ∧ reason = .exit) ∧
    (∀ reason next, m.step g = (.halted reason, next) → next ≠ m →
      next = { m with exited := true, steps := next.steps } ∧ m.CounterRule next.counter) ∧
    ∀ reason next, m.step g = (.halted reason, next) →
      next.halt? g = some reason ∧
      ∀ n, next.outcome g n = .halted reason ∧ next.after g n = next := by
  refine ⟨fun _ => halt?_eq_some_iff, ?_, ?_, ?_⟩
  · intro reason
    constructor
    · rintro ⟨next, hstep, hchanged⟩
      obtain ⟨hrunning, hcell, hreason, _⟩ := leave_of_halted hstep hchanged
      exact ⟨hrunning, hcell, hreason⟩
    · rintro ⟨hrunning, hcell, rfl⟩
      refine ⟨m.leave, step_eq_halted_iff.mpr (.inr ⟨hrunning, hcell, rfl, rfl⟩), ?_⟩
      intro hkept
      have hexited : true = m.exited := congrArg Machine.exited hkept
      rw [hrunning] at hexited
      cases hexited
  · intro reason next hstep hchanged
    obtain ⟨_, _, _, rfl⟩ := leave_of_halted hstep hchanged
    exact ⟨rfl, counterRule_of_steps rfl⟩
  · intro reason next hstep
    have hrest := halt?_of_halted hstep
    exact ⟨hrest, rests_for_good hrest⟩

-- Exit is executed on a grid of one cell by a machine whose counter is full; it stays there.
theorem halts_exactly_and_for_good_exit :
    let g : Grid := ⟨1, 1, #[.exit], rfl⟩
    let m : Machine := { start 2 Point.zero with accumulator := 7, steps := 2 ^ 64 - 1 }
    let left : Machine := { m with exited := true, steps := 2 ^ 64 }
    m.halt? g = none ∧ m.step g = (.halted .exit, left) ∧ left ≠ m ∧ left.counter = 0 ∧
      left.halt? g = some .exit ∧ left.outcome g 9 = .halted .exit ∧ left.after g 9 = left := by
  intro g m left
  obtain ⟨_, _, hexits, hresting⟩ := halts_exactly_and_for_good g m
  have hstep : m.step g = (.halted .exit, left) := by decide
  have hchanged : left ≠ m := by decide
  obtain ⟨_, hcounter⟩ := hexits .exit left hstep hchanged
  rw [CounterRule, if_pos (by decide)] at hcounter
  obtain ⟨hrest, hforever⟩ := hresting .exit left hstep
  exact ⟨by decide, hstep, hchanged, UInt64.toNat_inj.mp hcounter, hrest, hforever 9⟩

end GridWalk.Machine
