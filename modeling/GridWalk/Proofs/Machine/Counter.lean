import Mathlib.Algebra.Group.Nat.Defs
import GridWalk.Proofs.Machine.Execution

namespace GridWalk.Machine

-- The same machine with another number of steps counted.
def recount (m : Machine) (steps : Nat) : Machine := { m with steps := steps }

-- Equal in every register but the number of steps.
def EqualUpToSteps (a b : Machine) : Prop := a.recount b.steps = b

instance (a b : Machine) : Decidable (a.EqualUpToSteps b) := inferInstanceAs (Decidable (_ = _))

section Recount

variable {g : Grid} {a b : Machine}

theorem equalUpToSteps_recount (m : Machine) (steps : Nat) : m.EqualUpToSteps (m.recount steps) := rfl

theorem apply_recount (m : Machine) (steps : Nat) (i : Instruction) :
    (m.recount steps).apply i = (m.apply i).recount steps := by
  cases i with
  | moveLeftIfTrue | moveRightIfTrue | moveUpIfTrue | moveDownIfTrue =>
      cases hflag : m.flag <;> simp [apply, faceIf, recount, face, hflag]
  | _ => rfl

theorem perform_recount (m : Machine) (steps : Nat) (i : Instruction) :
    (m.recount steps).perform i = (m.perform i).recount (steps + 1) := by
  by_cases hexit : i = .exit
  · simp only [perform, hexit, if_true]
    rfl
  · simp only [perform, hexit, if_false, apply_recount]
    rfl

-- No register but the counter itself depends on the counter, and both count the same steps.
theorem step_recount (g : Grid) (m : Machine) (steps : Nat) :
    ((m.recount steps).step g).1 = (m.step g).1 ∧
      ∃ later, ((m.recount steps).step g).2 = (m.step g).2.recount later ∧
        later + m.steps = steps + (m.step g).2.steps := by
  refine step_related
    (R := fun next other => ∃ later, other = next.recount later ∧ later + m.steps = steps + next.steps)
    ⟨steps, rfl, rfl⟩ rfl rfl ?_
  intro i _ _
  refine ⟨rfl, fun _ => ⟨steps + 1, perform_recount m steps i, ?_⟩⟩
  rw [perform_steps]
  omega

theorem EqualUpToSteps.step (h : a.EqualUpToSteps b) :
    (b.step g).1 = (a.step g).1 ∧ (a.step g).2.EqualUpToSteps (b.step g).2 := by
  obtain ⟨steps, rfl⟩ : ∃ steps, b = a.recount steps := ⟨b.steps, h.symm⟩
  obtain ⟨hreport, later, hafter, _⟩ := step_recount g a steps
  rw [hafter]
  exact ⟨hreport, equalUpToSteps_recount _ _⟩

theorem EqualUpToSteps.after (h : a.EqualUpToSteps b) (k : Nat) :
    (a.after g k).EqualUpToSteps (b.after g k) := by
  induction k with
  | zero => exact h
  | succ k ih => exact ih.step.2

theorem EqualUpToSteps.outcome_eq (h : a.EqualUpToSteps b) (k : Nat) : b.outcome g k = a.outcome g k :=
  (h.after k).step.1

end Recount

-- The counter after one more step: exactly one more, unless it was full already.
def CounterRule (m : Machine) (after : UInt64) : Prop :=
  after.toNat = if m.counter.toNat = 2 ^ 64 - 1 then 0 else m.counter.toNat + 1

-- The machine with its steps as the counter has them.
def kept (m : Machine) : Machine := m.recount m.counter.toNat

section Counter

variable {m next a b : Machine} {steps : Nat}

theorem toNat_counter (m : Machine) : m.counter.toNat = m.steps % 2 ^ 64 := UInt64.toNat_ofNat'

theorem counterRule_of_steps (h : next.steps = m.steps + 1) : m.CounterRule next.counter := by
  unfold CounterRule
  rw [toNat_counter, toNat_counter, h]
  by_cases hfull : m.steps % 2 ^ 64 = 2 ^ 64 - 1
  · rw [if_pos hfull]
    omega
  · rw [if_neg hfull]
    omega

end Counter

end GridWalk.Machine
