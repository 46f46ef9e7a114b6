import GridWalk.Program

namespace GridWalk

namespace Instruction

theorem opcode_of_ofOpcode? {byte : UInt8} {i : Instruction} (h : ofOpcode? byte = some i) :
    i.opcode = byte := by
  have htable : ∀ k, (hk : k < all.length) → all[k].opcode.toNat = k := by decide
  obtain ⟨hlt, hget⟩ := List.getElem?_eq_some_iff.mp h
  apply UInt8.toNat_inj.mp
  rw [← hget, htable _ hlt]

end Instruction

section Words

@[simp] theorem length_wordBytes (n : Nat) : (wordBytes n).length = 4 := rfl

-- The bytes spell the number up to multiples of 2 ^ 32.
theorem wordOf_wordBytes (n : Nat) (rest : List UInt8) : wordOf (wordBytes n ++ rest) = Int32.ofNat n := by
  simp only [wordBytes, List.cons_append, List.nil_append, wordOf, UInt8.toNat_ofNat']
  apply Int32.toBitVec_inj.mp
  apply BitVec.eq_of_toNat_eq
  simp only [Int32.toBitVec_ofNat', BitVec.toNat_ofNat]
  omega

theorem wordBytes_wordOf {bytes : List UInt8} (hlen : 4 ≤ bytes.length) :
    wordBytes (wordOf bytes).toUInt32.toNat = bytes.take 4 := by
  match bytes, hlen with
  | a :: b :: c :: d :: rest, _ =>
      have ha := a.toNat_lt
      have hb := b.toNat_lt
      have hc := c.toNat_lt
      have hd := d.toNat_lt
      have hword : (a.toNat + b.toNat * 0x100 + c.toNat * 0x10000 + d.toNat * 0x1000000) % 2 ^ 32 =
          a.toNat + b.toNat * 0x100 + c.toNat * 0x10000 + d.toNat * 0x1000000 := by omega
      simp only [wordOf, Int32.toUInt32_ofNat', UInt32.toNat_ofNat', hword, wordBytes]
      simp only [List.take_succ_cons, List.take_zero, List.cons.injEq, ← UInt8.toNat_inj,
        UInt8.toNat_ofNat', and_true]
      omega

theorem wordOf_start (x : Int32) (rest : List UInt8) : wordOf (wordBytes x.toUInt32.toNat ++ rest) = x := by
  rw [wordOf_wordBytes]
  exact Int32.ofNat_bitVecToNat x.toBitVec

-- A side that is not negative keeps its bits.
theorem toNat_toInt_eq {x : Int32} (h : ¬x < 0) : x.toInt.toNat = x.toUInt32.toNat := by
  have hnonneg : 0 ≤ x := Int32.not_lt.mp h
  rw [Int32.toNat_toUInt32_of_le hnonneg, Int32.toNat_toInt]

end Words

section Cells

theorem readCells_opcodes (height : Nat) (cells : List Instruction) (before : Array Instruction) :
    readCells height (cells.map Instruction.opcode) before = .ok (before ++ cells.toArray) := by
  induction cells generalizing before with
  | nil => simp [readCells]
  | cons i rest ih =>
      simp only [List.map_cons, readCells, Instruction.ofOpcode?_opcode, ih]
      simp

theorem opcodes_of_readCells {height : Nat} {bytes : List UInt8} {before cells : Array Instruction}
    (h : readCells height bytes before = .ok cells) :
    cells.toList.map Instruction.opcode = before.toList.map Instruction.opcode ++ bytes := by
  induction bytes generalizing before with
  | nil =>
      cases h
      simp
  | cons byte rest ih =>
      unfold readCells at h
      split at h
      · next i hbyte =>
          rw [ih h]
          simp [Instruction.opcode_of_ofOpcode? hbyte]
      · cases h

end Cells

namespace Grid

@[simp] theorem length_opcodes (g : Grid) : g.opcodes.length = g.width * g.height := by
  simp [opcodes, g.size_cells]

theorem fitsHeader_iff {g : Grid} : g.fitsHeader = true ↔ g.width ≤ maxSide ∧ g.height ≤ maxSide := by
  simp [fitsHeader]

-- The bytes of a grid are its opcodes, with anything behind them.
section OfBytes

variable {bytes : List UInt8} {width height : Nat}

theorem ofBytes_of_readCells_error {e : DecodeError} (hlimit : width * height < cellLimit)
    (hlength : width * height ≤ bytes.length)
    (hread : readCells height (bytes.take (width * height)) #[] = .error e) :
    ofBytes bytes width height = .error e := by
  unfold ofBytes
  rw [if_neg (Nat.not_le.mpr hlimit), dif_neg (Nat.not_lt.mpr hlength)]
  split
  · next other hother =>
      cases hread.symm.trans hother
      rfl
  · next cells hcells => cases hread.symm.trans hcells

theorem ofBytes_of_readCells_ok {cells : Array Instruction} (hlimit : width * height < cellLimit)
    (hlength : width * height ≤ bytes.length)
    (hread : readCells height (bytes.take (width * height)) #[] = .ok cells) :
    ∃ hsize, ofBytes bytes width height = .ok ⟨width, height, cells, hsize⟩ := by
  have hsize : cells.size = width * height := by
    have hcount := size_of_readCells hread
    simp only [Array.size_empty, List.length_take] at hcount
    omega
  refine ⟨hsize, ?_⟩
  unfold ofBytes
  rw [if_neg (Nat.not_le.mpr hlimit), dif_neg (Nat.not_lt.mpr hlength)]
  split
  · next e he => cases hread.symm.trans he
  · next other hother =>
      cases hread.symm.trans hother
      rfl

end OfBytes

theorem ofBytes_eq_ok_iff {bytes : List UInt8} {width height : Nat} {g : Grid} :
    ofBytes bytes width height = .ok g ↔
      width * height < cellLimit ∧ width * height ≤ bytes.length ∧
        g.width = width ∧ g.height = height ∧ g.opcodes = bytes.take (width * height) := by
  constructor
  · intro h
    unfold ofBytes at h
    split at h
    · cases h
    · next hlimit =>
        split at h
        · cases h
        · next hlen =>
            split at h
            · cases h
            · next cells hcells =>
                cases h
                have hopcodes := opcodes_of_readCells hcells
                exact ⟨by omega, by omega, rfl, rfl, by simpa [opcodes] using hopcodes⟩
  · rintro ⟨hlimit, hlen, rfl, rfl, hopcodes⟩
    have hread : readCells g.height (bytes.take (g.width * g.height)) #[] = .ok g.cells := by
      rw [← hopcodes, opcodes, readCells_opcodes]
      simp
    obtain ⟨_, hgrid⟩ := ofBytes_of_readCells_ok hlimit hlen hread
    exact hgrid

end Grid

namespace Program

theorem decode_eq_ok_iff {bytes : List UInt8} {p : Program} :
    decode bytes = .ok p ↔
      headerLength ≤ bytes.length ∧ ¬wordOf bytes < 0 ∧ ¬wordOf (bytes.drop 4) < 0 ∧
        Grid.ofBytes (bytes.drop headerLength) (wordOf bytes).toInt.toNat
          (wordOf (bytes.drop 4)).toInt.toNat = .ok p.grid ∧
        p.start = ⟨wordOf (bytes.drop 8), wordOf (bytes.drop 12)⟩ := by
  constructor
  · intro h
    unfold decode at h
    split at h
    · cases h
    · next hlen =>
        simp only at h
        split at h
        · cases h
        · next hsides =>
            rw [not_or] at hsides
            split at h
            · cases h
            · next grid hgrid =>
                cases h
                exact ⟨Nat.not_lt.mp hlen, hsides.1, hsides.2, hgrid, rfl⟩
  · rintro ⟨hlen, hwidth, hheight, hgrid, hstart⟩
    unfold decode
    simp only [if_neg (Nat.not_lt.mpr hlen), hwidth, hheight, or_self, if_false, hgrid, ← hstart]

@[simp] theorem length_encode (p : Program) :
    p.encode.length = headerLength + p.grid.width * p.grid.height := by
  simp only [encode, headerLength, List.length_append, length_wordBytes, Grid.length_opcodes]

theorem encode_eq (p : Program) :
    p.encode = wordBytes p.grid.width ++ (wordBytes p.grid.height ++
      (wordBytes p.start.x.toUInt32.toNat ++ (wordBytes p.start.y.toUInt32.toNat ++ p.grid.opcodes))) := by
  simp only [encode, List.append_assoc]

theorem side_of_le {side : Nat} (h : side ≤ Grid.maxSide) :
    ¬Int32.ofNat side < 0 ∧ (Int32.ofNat side).toInt.toNat = side := by
  have htoInt : (Int32.ofNat side).toInt = side := Int32.toInt_ofNat_of_lt (by unfold Grid.maxSide at h; omega)
  constructor
  · rw [Int32.lt_iff_toInt_lt, htoInt]
    exact Int.not_lt.mpr (Int.natCast_nonneg side)
  · rw [htoInt, Int.toNat_natCast]

-- The words of the header stand four bytes apart, and the cells behind them.
theorem header_encode (p : Program) :
    wordOf p.encode = Int32.ofNat p.grid.width ∧ wordOf (p.encode.drop 4) = Int32.ofNat p.grid.height ∧
      wordOf (p.encode.drop 8) = p.start.x ∧ wordOf (p.encode.drop 12) = p.start.y ∧
      p.encode.drop headerLength = p.grid.opcodes := by
  rw [encode_eq]
  refine ⟨wordOf_wordBytes _ _, ?_, ?_, ?_, rfl⟩
  · exact wordOf_wordBytes p.grid.height _
  · exact wordOf_start p.start.x _
  · exact wordOf_start p.start.y _

theorem decode_encode {p : Program} (hfits : p.grid.fitsHeader = true) : decode p.encode = .ok p := by
  obtain ⟨hw, hh⟩ := Grid.fitsHeader_iff.mp hfits
  obtain ⟨hwidth, hheight, hx, hy, hcells⟩ := header_encode p
  have hlimit : p.grid.width * p.grid.height < Grid.cellLimit :=
    Nat.lt_of_le_of_lt (Nat.mul_le_mul hw hh) (by decide)
  have hgrid : Grid.ofBytes p.grid.opcodes p.grid.width p.grid.height = .ok p.grid := by
    refine Grid.ofBytes_eq_ok_iff.mpr ⟨hlimit, ?_, rfl, rfl, ?_⟩
    · exact Nat.le_of_eq p.grid.length_opcodes.symm
    · rw [← Grid.length_opcodes, List.take_length]
  rw [decode_eq_ok_iff, hwidth, hheight, hx, hy, hcells, (side_of_le hw).2, (side_of_le hh).2]
  refine ⟨?_, (side_of_le hw).1, (side_of_le hh).1, hgrid, rfl⟩
  rw [length_encode]
  omega

theorem encode_of_decode {bytes : List UInt8} {p : Program} (h : decode bytes = .ok p) :
    headerLength + p.grid.width * p.grid.height ≤ bytes.length ∧
      p.encode = bytes.take (headerLength + p.grid.width * p.grid.height) := by
  obtain ⟨hlen, hwidth, hheight, hgrid, hstart⟩ := decode_eq_ok_iff.mp h
  obtain ⟨_, hcells, hw, hh, hopcodes⟩ := Grid.ofBytes_eq_ok_iff.mp hgrid
  unfold headerLength at hlen
  rw [← hw, ← hh] at hopcodes hcells
  rw [List.length_drop] at hcells
  have hlong : ∀ offset ≤ 12, 4 ≤ (bytes.drop offset).length := by
    intro offset hoffset
    rw [List.length_drop]
    omega
  have hwidthBytes : wordBytes p.grid.width = bytes.take 4 := by
    rw [hw, toNat_toInt_eq hwidth]
    exact wordBytes_wordOf (hlong 0 (by omega))
  have hheightBytes : wordBytes p.grid.height = (bytes.drop 4).take 4 := by
    rw [hh, toNat_toInt_eq hheight]
    exact wordBytes_wordOf (hlong 4 (by omega))
  have hxBytes : wordBytes p.start.x.toUInt32.toNat = (bytes.drop 8).take 4 := by
    rw [hstart]
    exact wordBytes_wordOf (hlong 8 (by omega))
  have hyBytes : wordBytes p.start.y.toUInt32.toNat = (bytes.drop 12).take 4 := by
    rw [hstart]
    exact wordBytes_wordOf (hlong 12 (by omega))
  refine ⟨by unfold headerLength at hcells ⊢; omega, ?_⟩
  -- the pieces are consecutive, so they join to one
  rw [encode, hwidthBytes, hheightBytes, hxBytes, hyBytes, hopcodes, headerLength, ← List.take_add,
    ← List.take_add, ← List.take_add, ← List.take_add]

theorem fitsHeader_of_decode {bytes : List UInt8} {p : Program} (h : decode bytes = .ok p) :
    p.grid.fitsHeader = true := by
  obtain ⟨_, _, _, hgrid, _⟩ := decode_eq_ok_iff.mp h
  obtain ⟨_, _, hw, hh, _⟩ := Grid.ofBytes_eq_ok_iff.mp hgrid
  have hwidth := (wordOf bytes).toNatClampNeg_lt
  have hheight := (wordOf (bytes.drop 4)).toNatClampNeg_lt
  rw [Int32.toNat_toInt] at hw hh
  rw [Grid.fitsHeader_iff, Grid.maxSide]
  omega

-- Reading undoes writing for the grids that fit the header and no others. What
-- was read fits, and writing it gives back the file without its trailing bytes.
theorem decode_and_encode_inverse :
    (∀ p : Program, decode p.encode = .ok p ↔ p.grid.fitsHeader = true) ∧
    ∀ (bytes : List UInt8) (p : Program), decode bytes = .ok p →
      headerLength + p.grid.width * p.grid.height ≤ bytes.length ∧
      p.encode = bytes.take (headerLength + p.grid.width * p.grid.height) ∧
      p.grid.cells.size = p.grid.width * p.grid.height ∧ p.grid.fitsHeader = true := by
  constructor
  · intro p
    exact ⟨fitsHeader_of_decode, decode_encode⟩
  · intro bytes p h
    obtain ⟨hlen, hencode⟩ := encode_of_decode h
    exact ⟨hlen, hencode, p.grid.size_cells, fitsHeader_of_decode h⟩

-- A grid of no rows can be too wide, and bytes behind the cells are dropped.
theorem decode_and_encode_inverse_oversized :
    decode (encode ⟨⟨0x80000000, 0, #[], rfl⟩, Point.zero⟩) ≠ .ok ⟨⟨0x80000000, 0, #[], rfl⟩, Point.zero⟩ ∧
    decode [1, 0, 0, 0, 1, 0, 0, 0, 255, 255, 255, 255, 0, 0, 0, 128, 26, 99] =
      .ok ⟨⟨1, 1, #[.exit], rfl⟩, -1, -0x80000000⟩ ∧
    encode ⟨⟨1, 1, #[.exit], rfl⟩, -1, -0x80000000⟩ =
      [1, 0, 0, 0, 1, 0, 0, 0, 255, 255, 255, 255, 0, 0, 0, 128, 26] := by
  have hread : decode [1, 0, 0, 0, 1, 0, 0, 0, 255, 255, 255, 255, 0, 0, 0, 128, 26, 99] =
      .ok ⟨⟨1, 1, #[.exit], rfl⟩, -1, -0x80000000⟩ := rfl
  refine ⟨?_, hread, (decode_and_encode_inverse.2 _ _ hread).2.1⟩
  rw [Ne, decode_and_encode_inverse.1]
  decide

end Program

end GridWalk
