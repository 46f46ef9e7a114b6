import GridWalk.Machine.Step
import GridWalk.OutputLog

namespace GridWalk.Machine

-- What the next step executes: an instruction, with the machine after it. A
-- step that does not count, at rest or on a fault, executes nothing.
def execute? (g : Grid) (m : Machine) : Option (Instruction × Machine) :=
  match m.step g with
  | (.continued i, after) => some (i, after)
  | (.halted _, after) => if after.steps = m.steps then none else some (.exit, after)
  | (.faulted _, _) => none

def after (g : Grid) (m : Machine) : Nat → Machine
  | 0 => m
  | count + 1 => ((m.after g count).step g).2

-- What the step after the first `k` reports.
def outcome (g : Grid) (m : Machine) (k : Nat) : Outcome := ((m.after g k).step g).1

-- Each of the next steps executes an instruction.
def Executes (g : Grid) (m : Machine) (count : Nat) : Prop :=
  ∀ k < count, ((m.after g k).execute? g).isSome

-- The line that the step after the first `k` prints, if it is a Print.
def line? (g : Grid) (m : Machine) (k : Nat) : Option OutputLine :=
  if (m.after g k).next? g = some .print then
    some ⟨(m.after g k).accumulator, (m.after g k).cursor, m.steps + k + 1⟩
  else none

def printed (g : Grid) (m : Machine) (count : Nat) : List OutputLine :=
  (List.range count).filterMap (m.line? g)

-- The machine after an instruction that raises no fault.
def perform (m : Machine) (i : Instruction) : Machine :=
  if i = .exit then m.leave else (m.apply i).advance

section Perform

variable (m : Machine) (i : Instruction)

@[simp] theorem apply_steps : (m.apply i).steps = m.steps := by
  cases i <;> simp only [apply, face, faceIf] <;> split <;> rfl

@[simp] theorem apply_stack_size : (m.apply i).stack.size = m.stack.size := by
  cases i <;> simp only [apply, face, faceIf, Array.size_setIfInBounds] <;> split <;> rfl

@[simp] theorem perform_steps : (m.perform i).steps = m.steps + 1 := by
  unfold perform
  split <;> simp [leave, advance]

@[simp] theorem perform_stack_size : (m.perform i).stack.size = m.stack.size := by
  unfold perform
  split <;> simp [leave, advance]

@[simp] theorem perform_print_accumulator : (m.perform .print).accumulator = m.accumulator := rfl

end Perform

-- A step executes the instruction under the cursor, or faults on it, or finds
-- the machine at rest. Only in the first case does the machine change.
theorem step_cases (g : Grid) (m : Machine) :
    (∃ i, m.exited = false ∧ g.get? m.cursor = some i ∧ m.fault? i = none ∧
      m.step g = (if i = .exit then .halted .exit else .continued i, m.perform i)) ∨
    (∃ i fault, m.exited = false ∧ g.get? m.cursor = some i ∧ m.fault? i = some fault ∧
      m.step g = (.faulted fault, m)) ∨
    (∃ reason, m.halt? g = some reason ∧ m.step g = (.halted reason, m)) := by
  unfold step
  by_cases hexited : m.exited
  · exact .inr (.inr ⟨.exit, by simp [halt?, hexited], by simp [hexited]⟩)
  cases hget : g.get? m.cursor with
  | none =>
      have hoff : m.cursor ∉ g := by
        intro hmem
        simpa [hget] using (g.get?_isSome_iff m.cursor).mpr hmem
      exact .inr (.inr ⟨.outOfBounds, by simp [halt?, hexited, hoff], by simp [hexited]⟩)
  | some i =>
      cases hfault : m.fault? i with
      | some fault => exact .inr (.inl ⟨i, fault, by simpa using hexited, rfl, hfault, by simp [hexited, hfault]⟩)
      | none =>
          refine .inl ⟨i, by simpa using hexited, rfl, hfault, ?_⟩
          simp only [hexited, hfault, perform]
          by_cases hexit : i = .exit <;> simp [hexit]

theorem step_eq_perform {g : Grid} {m : Machine} {i : Instruction} (hexited : m.exited = false)
    (hget : g.get? m.cursor = some i) (hfault : m.fault? i = none) :
    m.step g = (if i = .exit then .halted .exit else .continued i, m.perform i) := by
  simp only [step, hexited, hget, hfault, perform]
  by_cases hexit : i = .exit <;> simp [hexit]

-- Two machines at one place that can carry out the same instruction report the same step.
-- A relation that the instruction keeps is kept by the step.
theorem step_related {g : Grid} {m other : Machine} {R : Machine → Machine → Prop}
    (hrelated : R m other) (hexited : other.exited = m.exited) (hcursor : other.cursor = m.cursor)
    (hcell : ∀ i, m.exited = false → g.get? m.cursor = some i →
      other.fault? i = m.fault? i ∧ (m.fault? i = none → R (m.perform i) (other.perform i))) :
    (other.step g).1 = (m.step g).1 ∧ R (m.step g).2 (other.step g).2 := by
  cases hrunning : m.exited with
  | true =>
      simp only [step, hexited, hrunning, if_true]
      exact ⟨trivial, hrelated⟩
  | false =>
      cases hget : g.get? m.cursor with
      | none =>
          simp only [step, hexited, hcursor, hrunning, hget]
          exact ⟨rfl, hrelated⟩
      | some i =>
          obtain ⟨hfault, hkept⟩ := hcell i hrunning hget
          cases hraised : m.fault? i with
          | some fault =>
              simp only [step, hexited, hcursor, hrunning, hget, hfault, hraised]
              exact ⟨rfl, hrelated⟩
          | none =>
              rw [step_eq_perform hrunning hget hraised, step_eq_perform (hexited.trans hrunning)
                (hcursor ▸ hget) (hfault.trans hraised)]
              exact ⟨rfl, hkept hraised⟩

theorem execute?_eq_some_iff {g : Grid} {m next : Machine} {i : Instruction} :
    m.execute? g = some (i, next) ↔
      m.exited = false ∧ g.get? m.cursor = some i ∧ m.fault? i = none ∧ next = m.perform i := by
  rcases step_cases g m with ⟨j, hexited, hget, hfault, hstep⟩ | ⟨j, fault, _, hget, hfault, hstep⟩ |
    ⟨reason, hhalt, hstep⟩
  · have hexec : m.execute? g = some (j, m.perform j) := by
      by_cases hexit : j = .exit <;> simp [execute?, hstep, hexit]
    rw [hexec]
    constructor
    · intro h
      cases h
      exact ⟨hexited, hget, hfault, rfl⟩
    · rintro ⟨_, hget', _, rfl⟩
      rw [hget] at hget'
      cases hget'
      rfl
  · have hexec : m.execute? g = none := by simp [execute?, hstep]
    rw [hexec]
    constructor
    · intro h
      cases h
    · rintro ⟨_, hget', hfault', _⟩
      rw [hget] at hget'
      cases hget'
      rw [hfault] at hfault'
      cases hfault'
  · have hexec : m.execute? g = none := by simp [execute?, hstep]
    rw [hexec]
    constructor
    · intro h
      cases h
    · rintro ⟨hexited, hget', _, _⟩
      have hmem := (g.get?_isSome_iff m.cursor).mp (by simp [hget'])
      simp [halt?, hexited, hmem] at hhalt

theorem mem_of_execute? {g : Grid} {m next : Machine} {i : Instruction}
    (h : m.execute? g = some (i, next)) : m.cursor ∈ g := by
  obtain ⟨_, hget, _, _⟩ := execute?_eq_some_iff.mp h
  exact (g.get?_isSome_iff m.cursor).mp (by simp [hget])

theorem step_snd_of_execute? {g : Grid} {m next : Machine} {i : Instruction}
    (h : m.execute? g = some (i, next)) : (m.step g).2 = next := by
  unfold execute? at h
  split at h
  · next hstep => cases h; rw [hstep]
  · next hstep =>
      split at h
      · cases h
      · cases h; rw [hstep]
  · cases h

theorem after_succ_of_execute? {g : Grid} {m next : Machine} {count : Nat} {i : Instruction}
    (h : (m.after g count).execute? g = some (i, next)) : m.after g (count + 1) = next :=
  step_snd_of_execute? h

theorem Executes.mono {g : Grid} {m : Machine} {count fewer : Nat} (h : m.Executes g count)
    (hle : fewer ≤ count) : m.Executes g fewer :=
  fun k hk => h k (by omega)

theorem Executes.succ {g : Grid} {m : Machine} {count : Nat} (h : m.Executes g count)
    (hnext : ((m.after g count).execute? g).isSome) : m.Executes g (count + 1) := by
  intro k hk
  rcases Nat.lt_succ_iff_lt_or_eq.mp hk with hlt | rfl
  · exact h k hlt
  · exact hnext

theorem Executes.steps_after {g : Grid} {m : Machine} {count : Nat} (h : m.Executes g count) :
    (m.after g count).steps = m.steps + count := by
  induction count with
  | zero => rfl
  | succ count ih =>
      obtain ⟨⟨i, next⟩, hexec⟩ := Option.isSome_iff_exists.mp (h count (by omega))
      have hcount := ih (h.mono (by omega))
      obtain ⟨_, _, _, rfl⟩ := execute?_eq_some_iff.mp hexec
      rw [after_succ_of_execute? hexec, perform_steps, hcount]
      omega

theorem after_add (g : Grid) (m : Machine) (n k : Nat) : (m.after g n).after g k = m.after g (n + k) := by
  induction k with
  | zero => rfl
  | succ k ih => rw [after, ih, ← Nat.add_assoc, after]

theorem after_step (g : Grid) (m : Machine) (n : Nat) : (m.step g).2.after g n = m.after g (n + 1) := by
  rw [Nat.add_comm]
  exact after_add g m 1 n

theorem outcome_after (g : Grid) (m : Machine) (n k : Nat) :
    (m.after g n).outcome g k = m.outcome g (n + k) := by
  rw [outcome, after_add, outcome]

-- What a step does not change, no number of steps changes.
theorem after_of_step_snd {g : Grid} {m : Machine} (h : (m.step g).2 = m) (n : Nat) :
    m.after g n = m := by
  induction n with
  | zero => rfl
  | succ n ih => rw [after, ih, h]

-- A change of the machine that every step of a run carries along is carried along
-- by the whole run, also if the other run takes place on another grid.
theorem run_of_steps {g other : Grid} {m : Machine} {f : Machine → Machine} {count : Nat}
    (hstep : ∀ k < count,
      (f (m.after g k)).step other = (m.outcome g k, f ((m.after g k).step g).2)) :
    (∀ k < count, (f m).outcome other k = m.outcome g k) ∧
      ∀ k ≤ count, (f m).after other k = f (m.after g k) := by
  have hafter : ∀ k ≤ count, (f m).after other k = f (m.after g k) := by
    intro k
    induction k with
    | zero => exact fun _ => rfl
    | succ k ih =>
        intro hk
        simp only [after]
        rw [ih (by omega), hstep k (by omega)]
  refine ⟨?_, hafter⟩
  intro k hk
  rw [outcome, hafter k (by omega), hstep k hk]

theorem printed_succ (g : Grid) (m : Machine) (count : Nat) :
    m.printed g (count + 1) = m.printed g count ++ (m.line? g count).toList := by
  simp only [printed, List.range_succ, List.filterMap_append]
  cases h : m.line? g count <;> simp [h]

end GridWalk.Machine
