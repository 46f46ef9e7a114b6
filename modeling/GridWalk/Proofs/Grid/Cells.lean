import GridWalk.Grid

namespace GridWalk

theorem Point.eq_of_coordinates {p q : Point} (hx : p.x = q.x) (hy : p.y = q.y) : p = q := by
  cases p
  cases q
  cases hx
  cases hy
  rfl

namespace Grid

section Index

variable {g : Grid} {p q : Point}

theorem index_div_mod_height (h : p ∈ g) :
    g.index p / g.height = p.x.toInt.toNat ∧ g.index p % g.height = p.y.toInt.toNat := by
  obtain ⟨_, hy0, hy⟩ := mem_iff.mp h
  refine (Nat.div_mod_unique (by omega)).mpr ⟨?_, by omega⟩
  rw [index, Nat.mul_comm, Nat.add_comm]

-- Column and row can be read off the index again, whatever the shape of the grid.
theorem eq_of_index_eq (hp : p ∈ g) (hq : q ∈ g) (h : g.index p = g.index q) : p = q := by
  obtain ⟨⟨hpx, _⟩, hpy, _⟩ := mem_iff.mp hp
  obtain ⟨⟨hqx, _⟩, hqy, _⟩ := mem_iff.mp hq
  have hcolumn : p.x.toInt.toNat = q.x.toInt.toNat := by
    rw [← (index_div_mod_height hp).1, h, (index_div_mod_height hq).1]
  have hrow : p.y.toInt.toNat = q.y.toInt.toNat := by
    rw [← (index_div_mod_height hp).2, h, (index_div_mod_height hq).2]
  have hx : p.x = q.x := Int32.toInt_inj.mp (by omega)
  have hy : p.y = q.y := Int32.toInt_inj.mp (by omega)
  exact Point.eq_of_coordinates hx hy

theorem get?_of_mem (h : p ∈ g) : g.get? p = g.cells[g.index p]? := by
  have hlt := index_lt h
  simp [get?, h, hlt]

theorem get?_blank {width height : Nat} (h : p ∈ blank width height) :
    (blank width height).get? p = some .noOperation := by
  have hlt : (blank width height).index p < width * height :=
    Nat.lt_of_lt_of_eq (index_lt h) (blank width height).size_cells
  rw [get?_of_mem h]
  exact Array.getElem?_replicate.trans (if_pos hlt)

theorem get?_of_not_mem (h : p ∉ g) : g.get? p = none := by
  simp [get?, h]

end Index

section Set

variable {g painted : Grid} {p : Point} {i previous : Instruction}

theorem set_eq_ok_iff :
    g.set p i = .ok (previous, painted) ↔
      g.get? p = some previous ∧
        ∃ hsize, painted = ⟨g.width, g.height, g.cells.setIfInBounds (g.index p) i, hsize⟩ := by
  unfold set
  cases hget : g.get? p with
  | none => simp
  | some cell =>
      constructor
      · intro h
        cases h
        exact ⟨rfl, _, rfl⟩
      · rintro ⟨hcell, _, rfl⟩
        cases hcell
        rfl

theorem mem_of_get? (h : g.get? p = some previous) : p ∈ g :=
  (g.get?_isSome_iff p).mp (by simp [h])

theorem mem_cells_of_get? (h : g.get? p = some i) : i ∈ g.cells := by
  rw [get?_of_mem (mem_of_get? h)] at h
  exact Array.mem_of_getElem? h

theorem exists_set (hp : p ∈ g) (i : Instruction) :
    ∃ previous painted, g.set p i = .ok (previous, painted) := by
  obtain ⟨previous, hget⟩ := Option.isSome_iff_exists.mp ((g.get?_isSome_iff p).mpr hp)
  have hsize : (g.cells.setIfInBounds (g.index p) i).size = g.width * g.height := by
    rw [Array.size_setIfInBounds, g.size_cells]
  exact ⟨previous, _, set_eq_ok_iff.mpr ⟨hget, hsize, rfl⟩⟩

theorem get?_of_set_self (h : g.set p i = .ok (previous, painted)) : painted.get? p = some i := by
  obtain ⟨hget, _, rfl⟩ := set_eq_ok_iff.mp h
  have hp : p ∈ g := mem_of_get? hget
  refine (get?_of_mem (by exact hp)).trans ?_
  exact Array.getElem?_setIfInBounds_self_of_lt (index_lt hp)

-- No other point shares the index of the cell that is overwritten.
theorem get?_of_set_of_ne (h : g.set p i = .ok (previous, painted)) {q : Point} (hne : q ≠ p) :
    painted.get? q = g.get? q := by
  obtain ⟨hget, _, rfl⟩ := set_eq_ok_iff.mp h
  by_cases hq : q ∈ g
  · have hother : g.index p ≠ g.index q :=
      fun heq => hne (eq_of_index_eq hq (mem_of_get? hget) heq.symm)
    rw [get?_of_mem hq]
    exact (get?_of_mem (by exact hq)).trans (Array.getElem?_setIfInBounds_ne hother)
  · rw [get?_of_not_mem hq]
    exact get?_of_not_mem hq

end Set

end Grid

end GridWalk
