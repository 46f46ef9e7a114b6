import Mathlib.Algebra.Group.Int.Defs
import GridWalk.Proofs.Machine.Operand
import GridWalk.Proofs.Machine.Outcome

namespace GridWalk

-- The instructions that read or write the cell under the pointer.
def Instruction.accessing : List Instruction :=
  [.add, .sub, .mul, .div, .isLess, .isMore, .isLessOrEqual, .isMoreOrEqual, .isEqual, .isNotEqual,
    .writeFromAccumulator, .readToAccumulator]

theorem Instruction.usesCell_iff {i : Instruction} : i.usesCell = true ↔ i ∈ accessing := by
  cases i <;> decide

namespace Machine

-- The faults of the language: an access with the pointer outside of the stack, and
-- two divisions that have no result. Each names the cell it happened on.
inductive Refuses (m : Machine) : Instruction → Fault → Prop where
  | pointer {i : Instruction} (haccess : i ∈ Instruction.accessing)
      (hout : m.pointer.toInt < 0 ∨ m.stack.size ≤ m.pointer.toInt) :
      Refuses m i (.pointerOutOfRange m.pointer m.stack.size m.cursor)
  | zero (hdivisor : m.Holds 0) : Refuses m .div (.divisionByZero m.cursor)
  | overflow (hdivisor : m.Holds (-1)) (hlowest : m.accumulator.toInt = -2 ^ 31) :
      Refuses m .div (.divisionOverflow m.accumulator m.cursor)

section Refusal

variable {g : Grid} {m : Machine} {i : Instruction} {fault : Fault}

theorem pointerInRange_eq_false_iff :
    m.pointerInRange = false ↔ m.pointer.toInt < 0 ∨ m.stack.size ≤ m.pointer.toInt := by
  rw [Bool.eq_false_iff, Ne, pointerInRange_iff]
  omega

theorem eq_minValue_iff {a : Int32} : a = Int32.minValue ↔ a.toInt = -2 ^ 31 := by
  rw [← Int32.toInt_inj, Int32.toInt_minValue]

-- With the cell there, only a division can fail.
theorem fault?_of_fits (hfits : m.Fits i) :
    m.fault? i =
      if i = .div then
        if m.operand = 0 then some (.divisionByZero m.cursor)
        else if m.operand = -1 ∧ m.accumulator = Int32.minValue then
          some (.divisionOverflow m.accumulator m.cursor)
        else none
      else none := by
  have hreached : (i.usesCell && !m.pointerInRange) = false := by
    cases hcell : i.usesCell with
    | false => rfl
    | true => simp [hfits hcell]
  unfold fault?
  rw [hreached]
  by_cases hdiv : i = .div <;> simp [hdiv]

theorem fault?_eq_some_iff : m.fault? i = some fault ↔ m.Refuses i fault := by
  constructor
  · intro h
    by_cases hout : i.usesCell = true ∧ m.pointerInRange = false
    · rw [fault?_of_out_of_range hout.1 hout.2] at h
      cases h
      exact .pointer (Instruction.usesCell_iff.mp hout.1) (pointerInRange_eq_false_iff.mp hout.2)
    · have hfits : m.Fits i := by
        intro hcell
        simpa [hcell] using hout
      rw [fault?_of_fits hfits] at h
      by_cases hdiv : i = .div
      · subst hdiv
        have hrange := hfits rfl
        rw [if_pos rfl] at h
        by_cases hzero : m.operand = 0
        · rw [if_pos hzero] at h
          cases h
          exact .zero (holds_iff.mpr ⟨hrange, hzero⟩)
        · rw [if_neg hzero] at h
          by_cases hover : m.operand = -1 ∧ m.accumulator = Int32.minValue
          · rw [if_pos hover] at h
            cases h
            exact .overflow (holds_iff.mpr ⟨hrange, hover.1⟩) (eq_minValue_iff.mp hover.2)
          · rw [if_neg hover] at h
            cases h
      · rw [if_neg hdiv] at h
        cases h
  · intro h
    cases h with
    | pointer haccess hout =>
        exact fault?_of_out_of_range (Instruction.usesCell_iff.mpr haccess)
          (pointerInRange_eq_false_iff.mpr hout)
    | zero hdivisor =>
        obtain ⟨hrange, hzero⟩ := holds_iff.mp hdivisor
        rw [fault?_of_fits fun _ => hrange, if_pos rfl, if_pos hzero]
    | overflow hdivisor hlowest =>
        obtain ⟨hrange, hminus⟩ := holds_iff.mp hdivisor
        have hnonzero : m.operand ≠ 0 := by
          rw [hminus]
          decide
        rw [fault?_of_fits fun _ => hrange, if_pos rfl, if_neg hnonzero,
          if_pos ⟨hminus, eq_minValue_iff.mpr hlowest⟩]

theorem step_fst_eq_faulted_iff :
    (m.step g).1 = .faulted fault ↔
      m.exited = false ∧ m.cursor ∈ g ∧ ∃ i, g.get? m.cursor = some i ∧ m.Refuses i fault := by
  constructor
  · intro h
    obtain ⟨hexited, ⟨i, hget, hfault⟩, _⟩ := step_eq_faulted_iff.mp (Prod.ext h rfl)
    exact ⟨hexited, Grid.mem_of_get? hget, i, hget, fault?_eq_some_iff.mp hfault⟩
  · rintro ⟨hexited, _, i, hget, hrefused⟩
    have hfault := fault?_eq_some_iff.mpr hrefused
    rw [step_eq_faulted_iff.mpr ⟨hexited, ⟨i, hget, hfault⟩, rfl⟩]

end Refusal

-- A step faults exactly where the language has a fault, with the fault that belongs
-- there. The machine stays as it was, so it can be asked again and again.
theorem step_faults_exactly (g : Grid) (m : Machine) :
    (∀ fault, (m.step g).1 = .faulted fault ↔
      m.exited = false ∧ m.cursor ∈ g ∧ ∃ i, g.get? m.cursor = some i ∧ m.Refuses i fault) ∧
    ∀ fault, (m.step g).1 = .faulted fault →
      (m.step g).2 = m ∧ ∀ n, m.outcome g n = .faulted fault ∧ m.after g n = m := by
  refine ⟨fun _ => step_fst_eq_faulted_iff, ?_⟩
  intro fault hfault
  obtain ⟨_, _, hkept⟩ := step_eq_faulted_iff.mp (Prod.ext hfault rfl)
  refine ⟨hkept, ?_⟩
  intro n
  have hafter := after_of_step_snd hkept n
  exact ⟨by rw [outcome, hafter, hfault], hafter⟩

-- The quotient of the lowest word and -1 is no word.
theorem step_faults_exactly_overflow :
    let g : Grid := ⟨1, 2, #[.increment, .div], rfl⟩
    let m : Machine := { start 2 ⟨0, 1⟩ with accumulator := Int32.minValue, pointer := 1, stack := #[7, -1] }
    m.Refuses .div (.divisionOverflow Int32.minValue ⟨0, 1⟩) ∧
      (m.step g).1 = .faulted (.divisionOverflow Int32.minValue ⟨0, 1⟩) ∧
      (m.step g).2 = m ∧ m.outcome g 5 = .faulted (.divisionOverflow Int32.minValue ⟨0, 1⟩) ∧
      m.after g 5 = m := by
  intro g m
  have hrefused : m.Refuses .div (.divisionOverflow Int32.minValue ⟨0, 1⟩) :=
    .overflow (by decide) (by decide)
  obtain ⟨hexact, hatomic⟩ := step_faults_exactly g m
  have hfault := (hexact _).mpr ⟨rfl, by decide, .div, by decide, hrefused⟩
  obtain ⟨hkept, hrepeated⟩ := hatomic _ hfault
  exact ⟨hrefused, hfault, hkept, hrepeated 5⟩

end Machine

end GridWalk
