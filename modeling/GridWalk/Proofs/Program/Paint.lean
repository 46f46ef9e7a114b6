import GridWalk.Proofs.Grid.Cells
import GridWalk.Proofs.Program.RoundTrip

namespace GridWalk

namespace Grid

theorem set_eq_ok {g after : Grid} {p : Point} {i previous : Instruction}
    (h : g.set p i = .ok (previous, after)) :
    p ∈ g ∧ after.width = g.width ∧ after.height = g.height ∧
      after.opcodes = g.opcodes.set (g.index p) i.opcode := by
  obtain ⟨hget, _, rfl⟩ := set_eq_ok_iff.mp h
  exact ⟨mem_of_get? hget, rfl, rfl, by simp [opcodes, List.map_set]⟩

end Grid

namespace Program

-- A program with one cell overwritten, if it has such a cell.
def painted (p : Program) (point : Point) (i : Instruction) : Option Program :=
  match p.grid.set point i with
  | .ok (_, grid) => some ⟨grid, p.start⟩
  | .error _ => none

section Painted

variable {p q : Program} {point : Point} {i : Instruction}

theorem painted_of_set {previous : Instruction} {grid : Grid}
    (h : p.grid.set point i = .ok (previous, grid)) : p.painted point i = some ⟨grid, p.start⟩ := by
  simp only [painted, h]

theorem exists_set_of_painted (h : p.painted point i = some q) :
    ∃ previous, p.grid.set point i = .ok (previous, q.grid) ∧ q.start = p.start := by
  unfold painted at h
  split at h
  · next previous grid hset =>
      cases h
      exact ⟨previous, hset, rfl⟩
  · cases h

theorem fitsHeader_painted (h : p.painted point i = some q) :
    q.grid.fitsHeader = p.grid.fitsHeader := by
  obtain ⟨previous, hset, _⟩ := exists_set_of_painted h
  obtain ⟨_, hwidth, hheight, _⟩ := Grid.set_eq_ok hset
  simp only [Grid.fitsHeader, hwidth, hheight]

theorem fitsHeader_of_painted {bytes : List UInt8} (hdecode : decode bytes = .ok p)
    (h : p.painted point i = some q) : q.grid.fitsHeader = true :=
  (fitsHeader_painted h).trans (fitsHeader_of_decode hdecode)

-- The sides and the start are written before the cells, so they keep their bytes.
theorem encode_painted (h : p.painted point i = some q) :
    q.encode = p.encode.set (headerLength + p.grid.index point) i.opcode := by
  obtain ⟨previous, hset, hstart⟩ := exists_set_of_painted h
  obtain ⟨_, hwidth, hheight, hopcodes⟩ := Grid.set_eq_ok hset
  unfold encode
  rw [hwidth, hheight, hstart, hopcodes, List.set_append_right _ _ (by simp [headerLength])]
  simp [headerLength]

theorem header_of_decode {bytes : List UInt8} (h : decode bytes = .ok p) :
    (wordOf bytes).toInt = p.grid.width ∧ (wordOf (bytes.drop 4)).toInt = p.grid.height := by
  obtain ⟨_, hwidth, hheight, hgrid, _⟩ := decode_eq_ok_iff.mp h
  obtain ⟨_, _, hw, hh, _⟩ := Grid.ofBytes_eq_ok_iff.mp hgrid
  rw [Int32.not_lt, Int32.le_iff_toInt_le] at hwidth hheight
  rw [hw, hh, Int.toNat_of_nonneg hwidth, Int.toNat_of_nonneg hheight]
  exact ⟨rfl, rfl⟩

-- What painting a cell does to the bytes of a file. Bytes behind the cells are
-- dropped, and one byte in front of them is replaced.
theorem bytes_of_painted {bytes : List UInt8} {x y : Int32} (hdecode : decode bytes = .ok p)
    (hpaint : p.painted ⟨x, y⟩ i = some q) :
    let w := (wordOf bytes).toInt
    let h := (wordOf (bytes.drop 4)).toInt
    (0 ≤ x.toInt ∧ x.toInt < w) ∧ (0 ≤ y.toInt ∧ y.toInt < h) ∧
    headerLength + (w * h).toNat ≤ bytes.length ∧
    q.encode = (bytes.take (headerLength + (w * h).toNat)).set
      (headerLength + (x.toInt * h + y.toInt).toNat) i.opcode := by
  intro w h
  have hwidth : w = p.grid.width := (header_of_decode hdecode).1
  have hheight : h = p.grid.height := (header_of_decode hdecode).2
  obtain ⟨hlength, hencode⟩ := encode_of_decode hdecode
  obtain ⟨previous, hset, _⟩ := exists_set_of_painted hpaint
  obtain ⟨⟨hx, hxw⟩, hy, hyh⟩ := Grid.mem_iff.mp (Grid.set_eq_ok hset).1
  have hcells : (w * h).toNat = p.grid.width * p.grid.height := by
    rw [hwidth, hheight, ← Int.natCast_mul, Int.toNat_natCast]
  have hindex : (x.toInt * h + y.toInt).toNat = p.grid.index ⟨x, y⟩ := by
    have hcolumn : 0 ≤ x.toInt * h := Int.mul_nonneg hx (by omega)
    rw [Int.toNat_add hcolumn hy, Int.toNat_mul hx (by omega), hheight, Int.toNat_natCast]
    rfl
  refine ⟨⟨hx, hwidth ▸ hxw⟩, ⟨hy, hheight ▸ hyh⟩, ?_, ?_⟩
  · rw [hcells]
    exact hlength
  · rw [hcells, hindex, encode_painted hpaint, hencode]

end Painted

end Program

end GridWalk
