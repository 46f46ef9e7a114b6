import GridWalk.Proofs.Machine.Outcome

namespace GridWalk.Machine

-- The next step reads its instruction from the cell at `p`.
def Reads (g : Grid) (m : Machine) (p : Point) : Prop := m.halt? g = none ∧ m.cursor = p

instance (g : Grid) (m : Machine) (p : Point) : Decidable (m.Reads g p) :=
  inferInstanceAs (Decidable (_ ∧ _))

theorem reads_iff {g : Grid} {m : Machine} {p : Point} :
    m.Reads g p ↔ m.exited = false ∧ m.cursor = p ∧ p ∈ g := by
  rw [Reads, halt?_eq_none_iff]
  constructor
  · rintro ⟨⟨hexited, hon⟩, rfl⟩
    exact ⟨hexited, rfl, hon⟩
  · rintro ⟨hexited, rfl, hon⟩
    exact ⟨⟨hexited, hon⟩, rfl⟩

-- A step looks at no cell but the one under the cursor.
theorem step_congr {g other : Grid} {m : Machine}
    (hcell : m.exited = false → other.get? m.cursor = g.get? m.cursor) : m.step other = m.step g := by
  unfold step
  cases hexited : m.exited with
  | true => rfl
  | false => rw [hcell hexited]

theorem step_of_not_reads {g painted : Grid} {m : Machine} {p : Point} {i previous : Instruction}
    (hset : g.set p i = .ok (previous, painted)) (hunread : ¬m.Reads g p) :
    m.step painted = m.step g := by
  apply step_congr
  intro hexited
  have hp := Grid.mem_of_get? (Grid.set_eq_ok_iff.mp hset).1
  have hne : m.cursor ≠ p := fun heq => hunread (reads_iff.mpr ⟨hexited, heq, hp⟩)
  exact Grid.get?_of_set_of_ne hset hne

-- A cell that no step of a run reads may hold any instruction: with it overwritten
-- the run reports the same and goes through the same states.
theorem run_ignores_unread_cell {g : Grid} {p : Point} (hp : p ∈ g) (i : Instruction) (m : Machine)
    (n : Nat) (hunread : ∀ k < n, ¬(m.after g k).Reads g p) :
    ∃ previous painted, g.set p i = .ok (previous, painted) ∧
      painted.get? p = some i ∧ (∀ q ≠ p, painted.get? q = g.get? q) ∧
      (∀ k < n, m.outcome painted k = m.outcome g k) ∧
      ∀ k ≤ n, m.after painted k = m.after g k := by
  obtain ⟨previous, painted, hset⟩ := Grid.exists_set hp i
  have hsteps : ∀ k < n, (m.after g k).step painted = (m.outcome g k, ((m.after g k).step g).2) :=
    fun k hk => step_of_not_reads hset (hunread k hk)
  obtain ⟨houtcomes, hstates⟩ := run_of_steps (f := id) hsteps
  exact ⟨previous, painted, hset, Grid.get?_of_set_self hset, fun _ => Grid.get?_of_set_of_ne hset,
    houtcomes, hstates⟩

-- The grid is higher than wide, and its last steps find the machine outside.
theorem run_ignores_unread_cell_narrow :
    let g : Grid := ⟨2, 3, #[.moveRight, .noOperation, .print, .increment, .div, .noOperation], rfl⟩
    let m := start 1 Point.zero
    let p : Point := ⟨0, 2⟩
    p ∈ g ∧ (∀ k < 4, ¬(m.after g k).Reads g p) ∧
      ∃ previous painted, g.set p .exit = .ok (previous, painted) ∧ painted.get? p = some .exit ∧
        m.outcome painted 1 = .continued .increment ∧ m.outcome painted 3 = .halted .outOfBounds ∧
        (m.after painted 4).accumulator = 1 := by
  intro g m p
  have hp : p ∈ g := by decide
  have hunread : ∀ k < 4, ¬(m.after g k).Reads g p := by decide
  obtain ⟨previous, painted, hset, hcell, _, houtcomes, hstates⟩ :=
    run_ignores_unread_cell hp .exit m 4 hunread
  refine ⟨hp, hunread, previous, painted, hset, hcell, ?_, ?_, ?_⟩
  · rw [houtcomes 1 (by decide)]
    decide
  · rw [houtcomes 3 (by decide)]
    decide
  · rw [hstates 4 (by decide)]
    decide

end GridWalk.Machine
