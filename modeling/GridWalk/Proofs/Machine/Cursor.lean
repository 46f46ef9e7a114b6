import GridWalk.Proofs.Machine.Halting
import GridWalk.Proofs.Machine.Table

namespace GridWalk

-- `q` is one cell on from `p`, with the coordinates added as integers.
def Facing.Leads (facing : Facing) (p q : Point) : Prop :=
  q.x.toInt = p.x.toInt + facing.offset.x.toInt ∧ q.y.toInt = p.y.toInt + facing.offset.y.toInt

-- On the grid, or off it by one cell in one of the coordinates.
def Grid.Touches (g : Grid) (p : Point) : Prop :=
  ((-1 ≤ p.x.toInt ∧ p.x.toInt ≤ g.width) ∧ -1 ≤ p.y.toInt ∧ p.y.toInt ≤ g.height) ∧
  ((0 ≤ p.x.toInt ∧ p.x.toInt < g.width) ∨ 0 ≤ p.y.toInt ∧ p.y.toInt < g.height)

namespace Grid

variable {g : Grid} {p q : Point}

theorem touches_of_mem (h : p ∈ g) : g.Touches p := by
  obtain ⟨⟨hx, hxw⟩, hy, hyh⟩ := mem_iff.mp h
  exact ⟨⟨⟨by omega, by omega⟩, by omega, by omega⟩, .inl ⟨hx, hxw⟩⟩

-- One of the coordinates is kept, so only the other one can leave the grid.
theorem touches_of_leads {facing : Facing} (h : p ∈ g) (hleads : facing.Leads p q) : g.Touches q := by
  obtain ⟨⟨hx, hxw⟩, hy, hyh⟩ := mem_iff.mp h
  obtain ⟨hqx, hqy⟩ := hleads
  have hunit := facing.offset_unit
  unfold Touches
  omega

end Grid

namespace Machine

section Step

variable {g : Grid} {m next : Machine} {i : Instruction}

-- The instruction is executed before the cursor moves, so it is the new facing that counts.
theorem leads_of_continued (hfits : g.fitsHeader = true) (hstep : m.step g = (.continued i, next)) :
    m.cursor ∈ g ∧ next.facing.Leads m.cursor next.cursor := by
  obtain ⟨hexited, hget, hfault, hexit, rfl⟩ := step_eq_continued_iff.mp hstep
  have hon := Grid.mem_of_get? hget
  have hperform : m.perform i = (m.apply i).advance := if_neg hexit
  have hmoves := (becomes_perform hexited hfault).moves hexit
  rw [hperform] at hmoves
  exact ⟨hon, toInt_of_wraps_offset hfits hon _ hmoves⟩

theorem cursor_of_not_continued (h : ∀ i, (m.step g).1 ≠ .continued i) :
    (m.step g).2.cursor = m.cursor := by
  rcases hstep : m.step g with ⟨i | reason | fault, next⟩
  · exact absurd (congrArg Prod.fst hstep) (h i)
  · rcases step_eq_halted_iff.mp hstep with ⟨_, rfl⟩ | ⟨_, _, _, rfl⟩ <;> rfl
  · obtain ⟨_, _, rfl⟩ := step_eq_faulted_iff.mp hstep
    rfl

theorem touches_step (hfits : g.fitsHeader = true) (h : g.Touches m.cursor) :
    g.Touches (m.step g).2.cursor := by
  by_cases hgoes : ∃ i, (m.step g).1 = .continued i
  · obtain ⟨i, hi⟩ := hgoes
    obtain ⟨hon, hleads⟩ := leads_of_continued hfits (Prod.ext hi rfl)
    exact Grid.touches_of_leads hon hleads
  · rw [cursor_of_not_continued (not_exists.mp hgoes)]
    exact h

theorem touches_after (hfits : g.fitsHeader = true) (hon : m.cursor ∈ g) (k : Nat) :
    g.Touches (m.after g k).cursor := by
  induction k with
  | zero => exact Grid.touches_of_mem hon
  | succ k ih => exact touches_step hfits ih

-- Outside the grid a machine is at rest, whether it has exited or not.
theorem after_of_outside (hout : m.cursor ∉ g) (n : Nat) : m.after g n = m := by
  cases hrest : m.halt? g with
  | none => exact absurd (halt?_eq_none_iff.mp hrest).2 hout
  | some reason => exact (rests_for_good hrest n).2

end Step

-- Where the sides of the grid are 32-bit words, a machine moves from a cell to the one
-- next to it without wrapping. From a start on the grid it comes no farther than one cell
-- off it, and once it is off it does not move any more.
theorem cursor_never_wraps_nor_returns {g : Grid} (hfits : g.fitsHeader = true) (m : Machine) :
    (∀ k i, m.outcome g k = .continued i →
      (m.after g k).cursor ∈ g ∧
      (m.after g (k + 1)).facing.Leads (m.after g k).cursor (m.after g (k + 1)).cursor) ∧
    (m.cursor ∈ g → ∀ k, g.Touches (m.after g k).cursor) ∧
    ∀ k, (m.after g k).cursor ∉ g → ∀ n, m.after g (k + n) = m.after g k := by
  refine ⟨?_, fun hon => touches_after hfits hon, ?_⟩
  · intro k i hgoes
    exact leads_of_continued hfits (Prod.ext hgoes rfl)
  · intro k hout n
    rw [← after_add]
    exact after_of_outside hout n

-- Below the last cell of the highest column is the highest row that a word can hold.
theorem cursor_never_wraps_nor_returns_deep :
    ∃ g m, g = Grid.blank 1 Grid.maxSide ∧ m = start 4 ⟨0, 2147483646⟩ ∧
      g.fitsHeader = true ∧ m.cursor ∈ g ∧ m.outcome g 0 = .continued .noOperation ∧
      (m.after g 1).cursor = ⟨0, 2147483647⟩ ∧ g.Touches ⟨0, 2147483647⟩ ∧ ⟨0, 2147483647⟩ ∉ g ∧
      m.after g 9 = m.after g 1 := by
  -- The grid is kept behind a name: its cells are too many to be computed.
  obtain ⟨g, hg⟩ : ∃ g, g = Grid.blank 1 Grid.maxSide := ⟨_, rfl⟩
  obtain ⟨m, hm⟩ : ∃ m, m = start 4 ⟨0, 2147483646⟩ := ⟨_, rfl⟩
  have hfits : g.fitsHeader = true := by
    rw [hg]
    decide
  have hon : m.cursor ∈ g := by
    rw [hg, hm]
    decide
  have hbelow : ⟨0, 2147483647⟩ ∉ g := by
    rw [hg]
    decide
  have hcell : g.get? m.cursor = some .noOperation := by
    rw [hg] at hon ⊢
    exact Grid.get?_blank hon
  have hstep : m.step g = (.continued .noOperation, (m.apply .noOperation).advance) :=
    step_eq_continued_iff.mpr ⟨by rw [hm]; rfl, hcell, rfl, by decide, rfl⟩
  have hgoes : m.outcome g 0 = .continued .noOperation := congrArg Prod.fst hstep
  have hfacing : (m.after g 1).facing = .down := by
    rw [after, after, hstep, hm]
    rfl
  obtain ⟨hexact, htouches, hstays⟩ := cursor_never_wraps_nor_returns hfits m
  obtain ⟨hcolumn, hrow⟩ := (hexact 0 .noOperation hgoes).2
  rw [Nat.zero_add, hfacing, after, hm] at hcolumn hrow
  have hcursor : (m.after g 1).cursor = ⟨0, 2147483647⟩ := by
    rw [hm]
    exact Point.eq_of_coordinates (Int32.toInt_inj.mp hcolumn) (Int32.toInt_inj.mp hrow)
  have hnear := htouches hon 1
  rw [hcursor] at hnear
  exact ⟨g, m, hg, hm, hfits, hon, hgoes, hcursor, hnear, hbelow, hstays 1 (by rwa [hcursor]) 8⟩

end Machine

end GridWalk
