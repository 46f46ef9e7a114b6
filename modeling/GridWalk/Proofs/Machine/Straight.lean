import GridWalk.Proofs.Machine.Cursor
import GridWalk.Proofs.Machine.Walk

namespace GridWalk

namespace Grid

-- The cells from a point to the edge that a facing leads to, with the cell of the point.
def ahead (g : Grid) (p : Point) : Facing → Nat
  | .up => (p.y.toInt + 1).toNat
  | .down => (g.height - p.y.toInt).toNat
  | .left => (p.x.toInt + 1).toNat
  | .right => (g.width - p.x.toInt).toNat

-- No cell holds an instruction that turns the machine.
def Straight (g : Grid) : Prop := ∀ i ∈ g.cells, i.isMovement = false

section Ahead

variable {g : Grid} {p q : Point} {facing : Facing}

theorem ahead_pos (hp : p ∈ g) (facing : Facing) : 0 < g.ahead p facing := by
  obtain ⟨⟨hx, hxw⟩, hy, hyh⟩ := mem_iff.mp hp
  cases facing <;> simp only [ahead] <;> omega

-- A move uses up one of the cells ahead, and leaves the grid with the last of them.
theorem ahead_of_leads (hp : p ∈ g) (hleads : facing.Leads p q) :
    g.ahead q facing + 1 = g.ahead p facing ∧ (q ∈ g ↔ 0 < g.ahead q facing) := by
  obtain ⟨⟨hx, hxw⟩, hy, hyh⟩ := mem_iff.mp hp
  obtain ⟨hqx, hqy⟩ := hleads
  rw [mem_iff]
  cases facing <;> simp only [ahead, Facing.offset, Int32.toInt_neg, Int32.reduceToInt, Int.reduceNeg,
    Nat.reducePow, Int.reduceBmod] at hqx hqy ⊢ <;> omega

end Ahead

end Grid

namespace Machine

-- There are cells ahead of the machine exactly as long as it is on the grid.
def OnCourse (g : Grid) (m : Machine) : Prop := m.cursor ∈ g ↔ 0 < g.ahead m.cursor m.facing

section Onward

variable {g : Grid} {m next last : Machine} {i : Instruction} {calls : List (Machine × Instruction)}

theorem onCourse_of_mem (hon : m.cursor ∈ g) : m.OnCourse g :=
  iff_of_true hon (Grid.ahead_pos hon _)

theorem facing_of_continued (hstraight : g.Straight) (hstep : m.step g = (.continued i, next)) :
    next.facing = m.facing := by
  obtain ⟨_, hget, _, _, rfl⟩ := step_eq_continued_iff.mp hstep
  exact (facingRule_apply m i).1 (hstraight i (Grid.mem_cells_of_get? hget))

section Straight

variable (hfits : g.fitsHeader = true) (hstraight : g.Straight)

include hfits hstraight

theorem onward_of_continued (hstep : m.step g = (.continued i, next)) :
    next.facing = m.facing ∧
      g.ahead next.cursor next.facing + 1 = g.ahead m.cursor m.facing ∧ next.OnCourse g := by
  have hfacing := facing_of_continued hstraight hstep
  obtain ⟨hon, hleads⟩ := leads_of_continued hfits hstep
  obtain ⟨hahead, hcourse⟩ := Grid.ahead_of_leads hon hleads
  rw [← hfacing]
  exact ⟨rfl, hahead, hcourse⟩

theorem Walks.onward (hwalks : Walks g m calls last) (hcourse : m.OnCourse g) :
    last.facing = m.facing ∧
      calls.length + g.ahead last.cursor last.facing = g.ahead m.cursor m.facing ∧ last.OnCourse g := by
  induction hwalks with
  | rest m => exact ⟨rfl, Nat.zero_add _, hcourse⟩
  | step hstep _ ih =>
      obtain ⟨hfacing, hahead, hnext⟩ := onward_of_continued hfits hstraight hstep
      obtain ⟨hkept, hlength, hlast⟩ := ih hnext
      refine ⟨hkept.trans hfacing, ?_, hlast⟩
      rw [List.length_cons]
      omega

-- The cells ahead become fewer with each step, so the walk has an end.
theorem exists_walks_stopped (m : Machine) :
    ∃ calls last, Walks g m calls last ∧ ∀ i, (last.step g).1 ≠ .continued i := by
  induction hcount : g.ahead m.cursor m.facing using Nat.strongRecOn generalizing m with
  | ind count ih =>
      by_cases hgoes : ∃ i, (m.step g).1 = .continued i
      · obtain ⟨i, hi⟩ := hgoes
        have hstep : m.step g = (.continued i, (m.step g).2) := Prod.ext hi rfl
        obtain ⟨_, hahead, _⟩ := onward_of_continued hfits hstraight hstep
        obtain ⟨calls, last, hwalks, hstops⟩ := ih _ (by omega) (m.step g).2 rfl
        exact ⟨_, last, .step hstep hwalks, hstops⟩
      · exact ⟨[], m, .rest m, not_exists.mp hgoes⟩

-- Where a walk ends, the cells that are left tell how.
theorem Walks.end_cases (hwalks : Walks g m calls last) (hrunning : m.exited = false)
    (hon : m.cursor ∈ g) (hstops : ∀ i, (last.step g).1 ≠ .continued i) :
    (calls.length = g.ahead m.cursor m.facing ∧ last.step g = (.halted .outOfBounds, last)) ∨
    (calls.length < g.ahead m.cursor m.facing ∧ last.step g = (.halted .exit, last.leave)) ∨
    ∃ fault, calls.length < g.ahead m.cursor m.facing ∧ last.step g = (.faulted fault, last) := by
  obtain ⟨_, hlength, hcourse⟩ := hwalks.onward hfits hstraight (onCourse_of_mem hon)
  have hinside : last.cursor ∈ g → calls.length < g.ahead m.cursor m.facing := by
    intro hlast
    have hleft := hcourse.mp hlast
    omega
  rcases stop_cases (hwalks.exited_eq.trans hrunning) hstops with
    ⟨hout, hstep⟩ | ⟨hlast, hstep⟩ | ⟨fault, hlast, hstep⟩
  · have hnone : ¬0 < g.ahead last.cursor last.facing := fun hleft => hout (hcourse.mpr hleft)
    exact .inl ⟨by omega, hstep⟩
  · exact .inr (.inl ⟨hinside hlast, hstep⟩)
  · exact .inr (.inr ⟨fault, hinside hlast, hstep⟩)

end Straight

end Onward

section Ends

variable {g : Grid} {m : Machine} (hfits : g.fitsHeader = true) (hstraight : g.Straight)
  (hrunning : m.exited = false) (hon : m.cursor ∈ g)

include hfits hstraight hrunning hon

theorem exists_end_of_straight :
    ∃ n ≤ g.ahead m.cursor m.facing, m.Executes g n ∧ (∀ k, m.after g (n + k) = m.after g n) ∧
      (m.after g n).facing = m.facing ∧
      (m.outcome g n = .halted .exit ∨ (∃ fault, m.outcome g n = .faulted fault) ∨
        m.outcome g n = .halted .outOfBounds ∧ n = g.ahead m.cursor m.facing) := by
  obtain ⟨calls, last, hwalks, hstops⟩ := exists_walks_stopped hfits hstraight m
  obtain ⟨hfacing, _, _⟩ := hwalks.onward hfits hstraight (onCourse_of_mem hon)
  have hafter := hwalks.after_eq
  -- Where the last step changes nothing, nothing changes any more.
  have hstays : (last.step g).2 = last → ∀ k, m.after g (calls.length + k) = m.after g calls.length := by
    intro hkept k
    rw [← after_add, hafter, after_of_step_snd hkept]
  rcases hwalks.end_cases hfits hstraight hrunning hon hstops with
    ⟨hall, hstep⟩ | ⟨hfewer, hstep⟩ | ⟨fault, hfewer, hstep⟩
  · refine ⟨calls.length, Nat.le_of_eq hall, hwalks.executes, hstays (by rw [hstep]), ?_, ?_⟩
    · rw [hafter, hfacing]
    · exact .inr (.inr ⟨by rw [outcome, hafter, hstep], hall⟩)
  · obtain ⟨hexecutes, hleave⟩ := hwalks.executes_exit hstep
    have hrest := rests_for_good (halt?_of_halted hstep)
    refine ⟨calls.length + 1, hfewer, hexecutes, ?_, ?_, .inl ?_⟩
    · intro k
      rw [← after_add, hleave, (hrest k).2]
    · rw [hleave, ← hfacing]
      rfl
    · rw [outcome, hleave]
      exact (hrest 0).1
  · refine ⟨calls.length, Nat.le_of_lt hfewer, hwalks.executes, hstays (by rw [hstep]), ?_, ?_⟩
    · rw [hafter, hfacing]
    · exact .inr (.inl ⟨fault, by rw [outcome, hafter, hstep]⟩)

theorem exists_run_of_straight {σ : Type} (observer : Observer σ) (t : σ) {fuel : Nat}
    (hfuel : g.ahead m.cursor m.facing < fuel) :
    ∃ t' final result, m.run g none observer fuel t = some (t', final, result) ∧
      final.steps ≤ m.steps + g.ahead m.cursor m.facing ∧ final.facing = m.facing ∧
      ((∃ steps ≤ g.ahead m.cursor m.facing, result = .ok ⟨.halted .exit, steps⟩) ∨
        (∃ fault, result = .error fault) ∨
        result = .ok ⟨.halted .outOfBounds, g.ahead m.cursor m.facing⟩ ∨
        observer.cancelled t' = true ∧ ∃ steps, result = .ok ⟨.cancelled, steps⟩) := by
  -- The run is over at the latest where its longest walk ends.
  obtain ⟨whole, rest, hwhole, hstops⟩ := exists_walks_stopped hfits hstraight m
  obtain ⟨_, hbound, _⟩ := hwhole.onward hfits hstraight (onCourse_of_mem hon)
  have hends : (m.run g none observer fuel t).isSome :=
    Run.isSome_loop_of_walks hwhole hstops (by omega)
  obtain ⟨⟨t', final, result⟩, hrun⟩ := Option.isSome_iff_exists.mp hends
  -- What it says of itself depends on the walk that it made.
  obtain ⟨calls, last, hwalks, _, _, htakes⟩ := Run.exists_walks_of_loop hrun
  obtain ⟨hfacing, hlength, _⟩ := hwalks.onward hfits hstraight (onCourse_of_mem hon)
  have hsteps := hwalks.steps_eq
  have hcases := fun hstops => hwalks.end_cases hfits hstraight hrunning hon hstops
  refine ⟨t', final, result, hrun, ?_⟩
  generalize observer.cancelled t' = asked at htakes
  cases htakes with
  | cancelled => exact ⟨by omega, hfacing, .inr (.inr (.inr ⟨rfl, _, rfl⟩))⟩
  | limit hlimit => cases hlimit
  | halted _ hstep =>
      rcases hcases (by simp [hstep]) with ⟨hall, hsame⟩ | ⟨hfewer, hsame⟩ | ⟨_, _, hsame⟩
      · cases hstep.symm.trans hsame
        have hcount : final.steps - m.steps = g.ahead m.cursor m.facing := by omega
        exact ⟨by omega, hfacing, .inr (.inr (.inl (by rw [hcount])))⟩
      · cases hstep.symm.trans hsame
        have hleave : last.leave.steps = last.steps + 1 := rfl
        exact ⟨by omega, hfacing, .inl ⟨_, by omega, rfl⟩⟩
      · cases hstep.symm.trans hsame
  | faulted _ hstep =>
      rcases hcases (by simp [hstep]) with ⟨_, hsame⟩ | ⟨_, hsame⟩ | ⟨_, hfewer, hsame⟩
      · cases hstep.symm.trans hsame
      · cases hstep.symm.trans hsame
      · cases hstep.symm.trans hsame
        exact ⟨by omega, hfacing, .inr (.inl ⟨_, rfl⟩)⟩

end Ends

-- Without an instruction that turns it a machine goes straight on: it stops by Exit or a
-- fault on one of the cells ahead, or has executed all of them and is off the grid. So a
-- run needs no limit to come to its end.
theorem ends_at_edge_without_movement {g : Grid} (hfits : g.fitsHeader = true) (hstraight : g.Straight)
    {m : Machine} (hrunning : m.exited = false) (hon : m.cursor ∈ g) :
    (∃ n ≤ g.ahead m.cursor m.facing, m.Executes g n ∧ (∀ k, m.after g (n + k) = m.after g n) ∧
      (m.after g n).facing = m.facing ∧
      (m.outcome g n = .halted .exit ∨ (∃ fault, m.outcome g n = .faulted fault) ∨
        m.outcome g n = .halted .outOfBounds ∧ n = g.ahead m.cursor m.facing)) ∧
    ∀ {σ : Type} (observer : Observer σ) (t : σ) (fuel : Nat), g.ahead m.cursor m.facing < fuel →
      ∃ t' final result, m.run g none observer fuel t = some (t', final, result) ∧
        final.steps ≤ m.steps + g.ahead m.cursor m.facing ∧ final.facing = m.facing ∧
        ((∃ steps ≤ g.ahead m.cursor m.facing, result = .ok ⟨.halted .exit, steps⟩) ∨
          (∃ fault, result = .error fault) ∨
          result = .ok ⟨.halted .outOfBounds, g.ahead m.cursor m.facing⟩ ∨
          observer.cancelled t' = true ∧ ∃ steps, result = .ok ⟨.cancelled, steps⟩) := by
  refine ⟨exists_end_of_straight hfits hstraight hrunning hon, ?_⟩
  intro σ observer t fuel hfuel
  exact exists_run_of_straight hfits hstraight hrunning hon observer t hfuel

-- A machine that faces left in the last column executes its row and no other cell.
theorem ends_at_edge_without_movement_row :
    let g : Grid := ⟨3, 2, #[.div, .print, .exit, .isZero, .exit, .increment], rfl⟩
    let m : Machine := { start 1 ⟨2, 1⟩ with facing := .left }
    let observer : Observer Nat := ⟨fun _ => false, fun count _ _ => count + 1⟩
    g.fitsHeader = true ∧ g.Straight ∧ m.exited = false ∧ m.cursor ∈ g ∧
      (∃ n, m.Executes g n ∧ m.outcome g n = .halted .outOfBounds ∧ n = 3) ∧
      ∃ final, m.run g none observer 4 0 = some (3, final, .ok ⟨.halted .outOfBounds, 3⟩) ∧
        final.facing = .left := by
  intro g m observer
  have hstraight : g.Straight := by
    unfold Grid.Straight
    decide
  obtain ⟨⟨n, hn, hexecutes, _, _, hends⟩, hruns⟩ :=
    ends_at_edge_without_movement (g := g) (by decide) hstraight (m := m) rfl (by decide)
  refine ⟨by decide, hstraight, rfl, by decide, ?_, ?_⟩
  · have hreports : ∀ k ≤ 3, m.outcome g k ∈
        [.continued .increment, .continued .isZero, .continued .print, .halted .outOfBounds] := by decide
    have hreport := hreports n hn
    rcases hends with hexit | ⟨fault, hfault⟩ | hedge
    · simp [hexit] at hreport
    · simp [hfault] at hreport
    · exact ⟨n, hexecutes, hedge⟩
  · obtain ⟨count, final, result, hrun, _, hfacing, _⟩ := hruns observer 0 4 (by decide)
    have hcomputed : m.run g none observer 4 0 =
        some (3, m.after g 3, .ok ⟨.halted .outOfBounds, 3⟩) := by
      unfold g m observer
      rfl
    rw [hrun, Option.some.injEq, Prod.mk.injEq, Prod.mk.injEq] at hcomputed
    obtain ⟨rfl, _, rfl⟩ := hcomputed
    exact ⟨final, hrun, hfacing⟩

end Machine

end GridWalk
