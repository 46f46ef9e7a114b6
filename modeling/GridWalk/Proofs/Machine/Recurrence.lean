import GridWalk.Proofs.Machine.Counter
import GridWalk.Proofs.Machine.Walk

namespace GridWalk

-- In the run from `m` the request to stop never comes.
def Observer.NeverAsks {σ : Type} (observer : Observer σ) (g : Grid) (t : σ) (m : Machine) : Prop :=
  ∀ calls last, Machine.Walks g m calls last → observer.cancelled (observer.watch t calls) = false

namespace Machine

section Recurrence

variable {g : Grid} {m : Machine} {n : Nat}

-- What the machine does after one period it has done before, one period earlier.
theorem continued_of_repeated (hperiod : 0 < n) (hgoes : ∀ k < n, ∃ i, m.outcome g k = .continued i)
    (hback : (m.after g n).EqualUpToSteps m) (k : Nat) : ∃ i, m.outcome g k = .continued i := by
  induction k using Nat.strongRecOn with
  | ind k ih =>
      by_cases hfirst : k < n
      · exact hgoes k hfirst
      · obtain ⟨earlier, rfl⟩ : ∃ earlier, k = n + earlier := ⟨k - n, by omega⟩
        obtain ⟨i, hi⟩ := ih earlier (by omega)
        refine ⟨i, ?_⟩
        rw [← outcome_after, ← hback.outcome_eq, hi]

-- Nothing but the limit can stop the run of an endless program.
theorem run_of_endless {σ : Type} {observer : Observer σ} {t : σ} {max fuel : Nat}
    (hendless : ∀ k, ∃ i, m.outcome g k = .continued i) (hquiet : observer.NeverAsks g t m)
    (hfuel : max < fuel) :
    ∃ t', m.run g (some max) observer fuel t = some (t', m.after g max, .ok ⟨.stepLimit, max⟩) := by
  obtain ⟨calls, hwalks, hlength⟩ := exists_walks_of_continued fun k (_ : k < max) => hendless k
  have hopen : Run.Unhindered (some max) observer m.steps t m calls := by
    apply Run.unhindered_of_le
    · intro k _
      obtain ⟨mid, hmid⟩ := hwalks.take k
      exact hquiet _ mid hmid
    · intro limit hlimit
      cases hlimit
      exact Nat.le_of_eq hlength
  have hcount : (m.after g max).steps - m.steps = max := by
    rw [hwalks.steps_eq]
    omega
  have htakes : Run.Takes g (some max) m.steps (m.after g max) false
      (.over (m.after g max) (.ok ⟨.stepLimit, (m.after g max).steps - m.steps⟩)) :=
    .limit rfl (Nat.le_of_eq hcount.symm)
  rw [hcount, ← hquiet _ _ hwalks] at htakes
  exact ⟨observer.watch t calls, Run.loop_of_takes hwalks hopen htakes (by omega)⟩

end Recurrence

-- A step does not look at the counter, so a machine that comes back to a state it was in,
-- the counter apart, goes on for ever. A run of it ends by its limit, whatever the limit is.
theorem repeated_state_never_ends (g : Grid) :
    (∀ a b : Machine, a.EqualUpToSteps b →
      (b.step g).1 = (a.step g).1 ∧ (a.step g).2.EqualUpToSteps (b.step g).2) ∧
    ∀ (m : Machine) (n : Nat), 0 < n → (∀ k < n, ∃ i, m.outcome g k = .continued i) →
      (m.after g n).EqualUpToSteps m →
      (∀ k, ∃ i, m.outcome g k = .continued i) ∧
      ∀ {σ : Type} (observer : Observer σ) (t : σ), observer.NeverAsks g t m →
        ∀ max fuel, max < fuel →
          ∃ t', m.run g (some max) observer fuel t = some (t', m.after g max, .ok ⟨.stepLimit, max⟩) := by
  refine ⟨fun _ _ hsame => hsame.step, ?_⟩
  intro m n hperiod hgoes hback
  have hendless := continued_of_repeated hperiod hgoes hback
  refine ⟨hendless, ?_⟩
  intro σ observer t hquiet max fuel hfuel
  exact run_of_endless hendless hquiet hfuel

-- A machine goes round six cells, and one of them prints.
theorem repeated_state_never_ends_round :
    let g : Grid := ⟨3, 2, #[.moveRight, .moveUp, .print, .isZero, .moveDown, .moveLeft], rfl⟩
    let m : Machine := { start 1 Point.zero with facing := .up, flag := true, steps := 6 }
    let observer : Observer Nat := ⟨fun _ => false, fun count _ i => if i = .print then count + 1 else count⟩
    (∀ k < 6, ∃ i, m.outcome g k = .continued i) ∧ (m.after g 6).EqualUpToSteps m ∧ m.after g 6 ≠ m ∧
      (∃ i, m.outcome g 1000 = .continued i) ∧
      ∃ count, m.run g (some 1000) observer 1001 0 =
        some (count, m.after g 1000, .ok ⟨.stepLimit, 1000⟩) := by
  intro g m observer
  have hgoes : ∀ k < 6, ∃ i, m.outcome g k = .continued i := by
    intro k hk
    have hround : ∀ k < 6, m.outcome g k =
        .continued ([.moveRight, .print, .moveDown, .moveLeft, .isZero, .moveUp][k]?.getD .exit) := by
      decide
    exact ⟨_, hround k hk⟩
  have hback : (m.after g 6).EqualUpToSteps m := by decide
  have hquiet : observer.NeverAsks g 0 m := fun _ _ _ => rfl
  obtain ⟨hendless, hruns⟩ := (repeated_state_never_ends g).2 m 6 (by decide) hgoes hback
  exact ⟨hgoes, hback, by decide, hendless _, hruns observer 0 hquiet _ _ (Nat.lt_succ_self _)⟩

end Machine

end GridWalk
