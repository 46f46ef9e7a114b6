import GridWalk.Proofs.Program.Guarded
import GridWalk.Proofs.Program.Paint

namespace GridWalk

namespace Instruction

theorem ofOpcode?_eq_none_iff {byte : UInt8} : ofOpcode? byte = none ↔ 27 < byte := by
  have hlength : all.length = 28 := rfl
  have hnat : (27 : UInt8).toNat = 27 := rfl
  rw [ofOpcode?, List.getElem?_eq_none_iff, hlength, UInt8.lt_iff_toNat_lt, hnat]
  omega

theorem le_of_ofOpcode? {byte : UInt8} {i : Instruction} (h : ofOpcode? byte = some i) : byte ≤ 27 := by
  apply UInt8.not_lt.mp
  rw [← ofOpcode?_eq_none_iff, h]
  nofun

theorem opcode_le (i : Instruction) : i.opcode ≤ 27 := le_of_ofOpcode? (ofOpcode?_opcode i)

end Instruction

-- The byte at `k` is no opcode, and it is the first such byte.
def FirstUnknown (bytes : List UInt8) (k : Nat) (byte : UInt8) : Prop :=
  bytes[k]? = some byte ∧ 27 < byte ∧ ∀ j < k, ∃ opcode, bytes[j]? = some opcode ∧ opcode ≤ 27

section Cells

variable {first byte : UInt8} {rest : List UInt8} {k : Nat}

theorem firstUnknown_cons_zero :
    FirstUnknown (first :: rest) 0 byte ↔ byte = first ∧ 27 < first := by
  constructor
  · rintro ⟨hfirst, hlt, _⟩
    cases hfirst
    exact ⟨rfl, hlt⟩
  · rintro ⟨rfl, hlt⟩
    exact ⟨rfl, hlt, nofun⟩

theorem firstUnknown_cons_succ :
    FirstUnknown (first :: rest) (k + 1) byte ↔ first ≤ 27 ∧ FirstUnknown rest k byte := by
  constructor
  · rintro ⟨hk, hlt, hearlier⟩
    obtain ⟨opcode, hopcode, hle⟩ := hearlier 0 (by omega)
    cases hopcode
    exact ⟨hle, hk, hlt, fun j hj => hearlier (j + 1) (by omega)⟩
  · rintro ⟨hle, hk, hlt, hearlier⟩
    refine ⟨hk, hlt, ?_⟩
    intro j hj
    cases j with
    | zero => exact ⟨first, rfl, hle⟩
    | succ j => exact hearlier j (by omega)

theorem readCells_eq_error_iff {height : Nat} {bytes : List UInt8} {before : Array Instruction}
    {e : DecodeError} :
    readCells height bytes before = .error e ↔
      ∃ k byte, FirstUnknown bytes k byte ∧
        e = .unknownOpcode byte ((before.size + k) / height) ((before.size + k) % height) := by
  induction bytes generalizing before with
  | nil => simp [readCells, FirstUnknown]
  | cons first rest ih =>
      unfold readCells
      cases hfirst : Instruction.ofOpcode? first with
      | some i =>
          have hle := Instruction.le_of_ofOpcode? hfirst
          have hsize : ∀ k, (before.push i).size + k = before.size + (k + 1) := by
            intro k
            rw [Array.size_push]
            omega
          rw [ih]
          constructor
          · rintro ⟨k, byte, hunknown, rfl⟩
            exact ⟨k + 1, byte, firstUnknown_cons_succ.mpr ⟨hle, hunknown⟩, by rw [hsize]⟩
          · rintro ⟨k, byte, hunknown, rfl⟩
            cases k with
            | zero => exact absurd hle (UInt8.not_le.mpr (firstUnknown_cons_zero.mp hunknown).2)
            | succ k => exact ⟨k, byte, (firstUnknown_cons_succ.mp hunknown).2, by rw [hsize]⟩
      | none =>
          have hlt := Instruction.ofOpcode?_eq_none_iff.mp hfirst
          constructor
          · intro h
            cases h
            exact ⟨0, first, firstUnknown_cons_zero.mpr ⟨rfl, hlt⟩, rfl⟩
          · rintro ⟨k, byte, hunknown, rfl⟩
            cases k with
            | zero =>
                obtain ⟨rfl, _⟩ := firstUnknown_cons_zero.mp hunknown
                rfl
            | succ k => exact absurd (firstUnknown_cons_succ.mp hunknown).1 (UInt8.not_le.mpr hlt)

theorem FirstUnknown.lt_length {bytes : List UInt8} (h : FirstUnknown bytes k byte) :
    k < bytes.length :=
  (List.getElem?_eq_some_iff.mp h.1).1

theorem firstUnknown_take {bytes : List UInt8} {count : Nat} (hk : k < count) :
    FirstUnknown (bytes.take count) k byte ↔ FirstUnknown bytes k byte := by
  have hsame : ∀ j ≤ k, (bytes.take count)[j]? = bytes[j]? := by
    intro j hj
    exact List.getElem?_take_of_lt (by omega)
  unfold FirstUnknown
  rw [hsame k (Nat.le_refl k)]
  constructor
  · rintro ⟨hbyte, hlt, hearlier⟩
    refine ⟨hbyte, hlt, fun j hj => ?_⟩
    rw [← hsame j (Nat.le_of_lt hj)]
    exact hearlier j hj
  · rintro ⟨hbyte, hlt, hearlier⟩
    refine ⟨hbyte, hlt, fun j hj => ?_⟩
    rw [hsame j (Nat.le_of_lt hj)]
    exact hearlier j hj

end Cells

namespace Grid

variable {bytes : List UInt8} {width height : Nat}

theorem ofBytes_eq_error_iff (hlimit : width * height < cellLimit) {e : DecodeError} :
    ofBytes bytes width height = .error e ↔
      (bytes.length < width * height ∧ e = .truncatedCells (width * height) bytes.length) ∨
      (width * height ≤ bytes.length ∧
        readCells height (bytes.take (width * height)) #[] = .error e) := by
  by_cases hlength : bytes.length < width * height
  · simp [ofBytes, Nat.not_le.mpr hlimit, hlength, Nat.not_le.mpr hlength, eq_comm]
  rw [Nat.not_lt] at hlength
  cases hread : readCells height (bytes.take (width * height)) #[] with
  | error other =>
      rw [ofBytes_of_readCells_error hlimit hlength hread]
      simp [Nat.not_lt.mpr hlength, hlength]
  | ok cells =>
      obtain ⟨_, hgrid⟩ := ofBytes_of_readCells_ok hlimit hlength hread
      rw [hgrid]
      simp [Nat.not_lt.mpr hlength]

theorem exists_ofBytes_ok_iff (hlimit : width * height < cellLimit) :
    (∃ g, ofBytes bytes width height = .ok g) ↔
      width * height ≤ bytes.length ∧ ∀ byte ∈ bytes.take (width * height), byte ≤ 27 := by
  constructor
  · rintro ⟨g, hgrid⟩
    obtain ⟨_, hlength, _, _, hopcodes⟩ := ofBytes_eq_ok_iff.mp hgrid
    refine ⟨hlength, ?_⟩
    intro byte hbyte
    rw [← hopcodes] at hbyte
    obtain ⟨i, _, rfl⟩ := List.mem_map.mp hbyte
    exact i.opcode_le
  · rintro ⟨hlength, hall⟩
    cases hgrid : ofBytes bytes width height with
    | ok g => exact ⟨g, rfl⟩
    | error e =>
        rcases (ofBytes_eq_error_iff hlimit).mp hgrid with ⟨hshort, _⟩ | ⟨_, hread⟩
        · omega
        · obtain ⟨k, byte, ⟨hk, hlt, _⟩, _⟩ := readCells_eq_error_iff.mp hread
          exact absurd (hall byte (List.mem_of_getElem? hk)) (UInt8.not_le.mpr hlt)

theorem ofBytes_append {g : Grid} (h : ofBytes bytes width height = .ok g) (more : List UInt8) :
    ofBytes (bytes ++ more) width height = .ok g := by
  obtain ⟨hlimit, hlength, hw, hh, hopcodes⟩ := ofBytes_eq_ok_iff.mp h
  refine ofBytes_eq_ok_iff.mpr ⟨hlimit, ?_, hw, hh, ?_⟩
  · rw [List.length_append]
    omega
  · rw [List.take_append_of_le_length hlength]
    exact hopcodes

-- Every cell holds the instruction of the byte at its index.
theorem get?_of_ofBytes {g : Grid} (h : ofBytes bytes width height = .ok g) {p : Point} (hp : p ∈ g) :
    ∃ byte, bytes[g.index p]? = some byte ∧ byte ≤ 27 ∧ g.get? p = Instruction.ofOpcode? byte := by
  obtain ⟨_, _, rfl, rfl, hopcodes⟩ := ofBytes_eq_ok_iff.mp h
  have hindex := index_lt hp
  have hbyte : bytes[g.index p]? = some (g.cells[g.index p]).opcode := by
    have hcell : g.opcodes[g.index p]? = some (g.cells[g.index p]).opcode := by
      simp [opcodes, hindex]
    rw [hopcodes, List.getElem?_take_of_lt (by rw [← g.size_cells]; exact hindex)] at hcell
    exact hcell
  refine ⟨_, hbyte, Instruction.opcode_le _, ?_⟩
  rw [get?_of_mem hp, Instruction.ofOpcode?_opcode, Array.getElem?_eq_getElem hindex]

end Grid

namespace Program

-- A complete header that asks for `width` columns and `height` rows.
def Headed (bytes : List UInt8) (width height : Nat) : Prop :=
  headerLength ≤ bytes.length ∧ (wordOf bytes).toInt = width ∧ (wordOf (bytes.drop 4)).toInt = height

section Header

variable {bytes : List UInt8} {width height : Nat}

theorem Headed.lt_cellLimit (h : Headed bytes width height) : width * height < Grid.cellLimit := by
  obtain ⟨_, hwidth, hheight⟩ := h
  have hw : width ≤ Grid.maxSide := by
    have hlt := (wordOf bytes).toInt_lt
    unfold Grid.maxSide
    omega
  have hh : height ≤ Grid.maxSide := by
    have hlt := (wordOf (bytes.drop 4)).toInt_lt
    unfold Grid.maxSide
    omega
  exact Nat.lt_of_le_of_lt (Nat.mul_le_mul hw hh) (by decide)

theorem header_cases (bytes : List UInt8) :
    bytes.length < headerLength ∨
      (headerLength ≤ bytes.length ∧ (wordOf bytes < 0 ∨ wordOf (bytes.drop 4) < 0)) ∨
      ∃ width height, Headed bytes width height := by
  by_cases hlength : bytes.length < headerLength
  · exact .inl hlength
  by_cases hsides : wordOf bytes < 0 ∨ wordOf (bytes.drop 4) < 0
  · exact .inr (.inl ⟨Nat.not_lt.mp hlength, hsides⟩)
  · rw [not_or, Int32.not_lt, Int32.not_lt, Int32.le_iff_toInt_le, Int32.le_iff_toInt_le] at hsides
    exact .inr (.inr ⟨_, _, Nat.not_lt.mp hlength, (Int.toNat_of_nonneg hsides.1).symm,
      (Int.toNat_of_nonneg hsides.2).symm⟩)

theorem Headed.not_negative (h : Headed bytes width height) :
    ¬(wordOf bytes < 0 ∨ wordOf (bytes.drop 4) < 0) := by
  obtain ⟨_, hwidth, hheight⟩ := h
  rw [not_or, Int32.not_lt, Int32.not_lt, Int32.le_iff_toInt_le, Int32.le_iff_toInt_le, hwidth, hheight]
  exact ⟨Int.natCast_nonneg width, Int.natCast_nonneg height⟩

theorem headed_of_decode {p : Program} (h : decode bytes = .ok p) :
    Headed bytes p.grid.width p.grid.height :=
  ⟨(decode_eq_ok_iff.mp h).1, header_of_decode h⟩

theorem decode_of_short (h : bytes.length < headerLength) :
    decode bytes = .error (.truncatedHeader bytes.length) := by
  simp only [decode, h, if_true]

theorem decode_of_negative (hlength : headerLength ≤ bytes.length)
    (h : wordOf bytes < 0 ∨ wordOf (bytes.drop 4) < 0) :
    decode bytes = .error (.negativeSide (wordOf bytes) (wordOf (bytes.drop 4))) := by
  simp only [decode, Nat.not_lt.mpr hlength, h, if_true, if_false]

theorem decode_of_headed (h : Headed bytes width height) :
    decode bytes = (Grid.ofBytes (bytes.drop headerLength) width height).map
      fun grid => ⟨grid, wordOf (bytes.drop 8), wordOf (bytes.drop 12)⟩ := by
  have hsides := h.not_negative
  obtain ⟨hlength, hwidth, hheight⟩ := h
  simp only [decode, Nat.not_lt.mpr hlength, hsides, if_false, hwidth, hheight, Int.toNat_natCast]
  cases Grid.ofBytes (bytes.drop headerLength) width height <;> rfl

end Header

section Verdicts

variable {bytes : List UInt8}

theorem decode_eq_error_iff_of_headed {w h : Nat} (hhead : Headed bytes w h) {e : DecodeError} :
    decode bytes = .error e ↔
      (bytes.length - headerLength < w * h ∧
        e = .truncatedCells (w * h) (bytes.length - headerLength)) ∨
      (w * h ≤ bytes.length - headerLength ∧
        ∃ k byte, FirstUnknown ((bytes.drop headerLength).take (w * h)) k byte ∧
          e = .unknownOpcode byte (k / h) (k % h)) := by
  have hgrid : decode bytes = .error e ↔ Grid.ofBytes (bytes.drop headerLength) w h = .error e := by
    rw [decode_of_headed hhead]
    cases Grid.ofBytes (bytes.drop headerLength) w h <;> simp [Except.map]
  rw [hgrid, Grid.ofBytes_eq_error_iff hhead.lt_cellLimit, List.length_drop, readCells_eq_error_iff]
  simp only [Array.size_empty, Nat.zero_add]

-- The four ways to fail, in the order in which they are looked for.
theorem decode_eq_error_iff {e : DecodeError} :
    decode bytes = .error e ↔
      (bytes.length < headerLength ∧ e = .truncatedHeader bytes.length) ∨
      (headerLength ≤ bytes.length ∧ (wordOf bytes < 0 ∨ wordOf (bytes.drop 4) < 0) ∧
        e = .negativeSide (wordOf bytes) (wordOf (bytes.drop 4))) ∨
      ∃ w h, Headed bytes w h ∧
        ((bytes.length - headerLength < w * h ∧
          e = .truncatedCells (w * h) (bytes.length - headerLength)) ∨
        (w * h ≤ bytes.length - headerLength ∧
          ∃ k byte, FirstUnknown ((bytes.drop headerLength).take (w * h)) k byte ∧
            e = .unknownOpcode byte (k / h) (k % h))) := by
  constructor
  · intro hdecode
    rcases header_cases bytes with hshort | ⟨hlength, hsides⟩ | ⟨w, h, hhead⟩
    · rw [decode_of_short hshort] at hdecode
      cases hdecode
      exact .inl ⟨hshort, rfl⟩
    · rw [decode_of_negative hlength hsides] at hdecode
      cases hdecode
      exact .inr (.inl ⟨hlength, hsides, rfl⟩)
    · exact .inr (.inr ⟨w, h, hhead, (decode_eq_error_iff_of_headed hhead).mp hdecode⟩)
  · rintro (⟨hshort, rfl⟩ | ⟨hlength, hsides, rfl⟩ | ⟨w, h, hhead, hcells⟩)
    · exact decode_of_short hshort
    · exact decode_of_negative hlength hsides
    · exact (decode_eq_error_iff_of_headed hhead).mpr hcells

-- The place of a cell is its column and its row.
theorem place_iff {w h k x y : Nat} (hrows : 0 < h) :
    (k / h = x ∧ k % h = y) ∧ k < w * h ↔ (x < w ∧ y < h) ∧ x * h + y = k := by
  rw [← Nat.div_lt_iff_lt_mul hrows]
  constructor
  · rintro ⟨⟨rfl, rfl⟩, hx⟩
    exact ⟨⟨hx, Nat.mod_lt k hrows⟩, Nat.div_add_mod' k h⟩
  · rintro ⟨⟨hx, hy⟩, rfl⟩
    have hsum : y + h * x = x * h + y := by rw [Nat.mul_comm, Nat.add_comm]
    have hplace := (Nat.div_mod_unique hrows).mpr ⟨hsum, hy⟩
    exact ⟨hplace, by rw [hplace.1]; exact hx⟩

theorem decode_eq_unknownOpcode_iff {byte : UInt8} {x y : Nat} :
    decode bytes = .error (.unknownOpcode byte x y) ↔
      ∃ w h, Headed bytes w h ∧ w * h ≤ bytes.length - headerLength ∧ (x < w ∧ y < h) ∧
        FirstUnknown (bytes.drop headerLength) (x * h + y) byte := by
  rw [decode_eq_error_iff]
  constructor
  · rintro (⟨_, he⟩ | ⟨_, _, he⟩ | ⟨w, h, hhead, ⟨_, he⟩ | ⟨hroom, k, _, hfirst, he⟩⟩)
    · cases he
    · cases he
    · cases he
    · cases he
      have hk : k < w * h := by
        have hlt := hfirst.lt_length
        rw [List.length_take] at hlt
        omega
      have hrows : 0 < h := Nat.pos_of_ne_zero (by rintro rfl; omega)
      obtain ⟨hon, hplace⟩ := (place_iff hrows).mp ⟨⟨rfl, rfl⟩, hk⟩
      refine ⟨w, h, hhead, hroom, hon, ?_⟩
      rw [hplace]
      exact (firstUnknown_take hk).mp hfirst
  · rintro ⟨w, h, hhead, hroom, ⟨hx, hy⟩, hfirst⟩
    obtain ⟨⟨hdiv, hmod⟩, hk⟩ := (place_iff (Nat.zero_lt_of_lt hy)).mpr ⟨⟨hx, hy⟩, rfl⟩
    refine .inr (.inr ⟨w, h, hhead, .inr ⟨hroom, _, byte, (firstUnknown_take hk).mpr hfirst, ?_⟩⟩)
    rw [hdiv, hmod]

theorem exists_decode_ok_iff_of_headed {w h : Nat} (hhead : Headed bytes w h) :
    (∃ p, decode bytes = .ok p) ↔
      w * h ≤ bytes.length - headerLength ∧
        ∀ byte ∈ (bytes.drop headerLength).take (w * h), byte ≤ 27 := by
  rw [← List.length_drop, ← Grid.exists_ofBytes_ok_iff hhead.lt_cellLimit, decode_of_headed hhead]
  cases Grid.ofBytes (bytes.drop headerLength) w h <;> simp [Except.map]

theorem exists_decode_ok_iff :
    (∃ p, decode bytes = .ok p) ↔
      ∃ w h, Headed bytes w h ∧ w * h ≤ bytes.length - headerLength ∧
        ∀ byte ∈ (bytes.drop headerLength).take (w * h), byte ≤ 27 := by
  constructor
  · rintro ⟨p, hdecode⟩
    have hhead := headed_of_decode hdecode
    exact ⟨_, _, hhead, (exists_decode_ok_iff_of_headed hhead).mp ⟨p, hdecode⟩⟩
  · rintro ⟨w, h, hhead, hcells⟩
    exact (exists_decode_ok_iff_of_headed hhead).mpr hcells

theorem exists_decode_unknownOpcode_iff :
    (∃ byte x y, decode bytes = .error (.unknownOpcode byte x y)) ↔
      ∃ w h, Headed bytes w h ∧ w * h ≤ bytes.length - headerLength ∧
        ∃ byte ∈ (bytes.drop headerLength).take (w * h), 27 < byte := by
  constructor
  · rintro ⟨byte, x, y, hdecode⟩
    rcases decode_eq_error_iff.mp hdecode with
      ⟨_, he⟩ | ⟨_, _, he⟩ | ⟨w, h, hhead, ⟨_, he⟩ | ⟨hroom, k, unknown, hfirst, _⟩⟩
    · cases he
    · cases he
    · cases he
    · exact ⟨w, h, hhead, hroom, unknown, List.mem_of_getElem? hfirst.1, hfirst.2.1⟩
  · rintro ⟨w, h, hhead, hroom, byte, hbyte, hlt⟩
    cases hdecode : decode bytes with
    | ok p =>
        have hall := ((exists_decode_ok_iff_of_headed hhead).mp ⟨p, hdecode⟩).2
        exact absurd (hall byte hbyte) (UInt8.not_le.mpr hlt)
    | error e =>
        rcases (decode_eq_error_iff_of_headed hhead).mp hdecode with ⟨hshort, _⟩ | ⟨_, k, unknown, _, rfl⟩
        · omega
        · exact ⟨unknown, _, _, rfl⟩

theorem wordOf_append (hlength : 4 ≤ bytes.length) (more : List UInt8) :
    wordOf (bytes ++ more) = wordOf bytes := by
  match bytes, hlength with
  | _ :: _ :: _ :: _ :: _, _ => rfl

theorem decode_append {p : Program} (hdecode : decode bytes = .ok p) (more : List UInt8) :
    decode (bytes ++ more) = .ok p := by
  obtain ⟨hlength, hwidth, hheight, hgrid, hstart⟩ := decode_eq_ok_iff.mp hdecode
  have hsixteen : headerLength = 16 := rfl
  have hdrop : ∀ offset ≤ headerLength, (bytes ++ more).drop offset = bytes.drop offset ++ more := by
    intro offset hoffset
    exact List.drop_append_of_le_length (by omega)
  have hword : ∀ offset ≤ 12, wordOf (bytes.drop offset ++ more) = wordOf (bytes.drop offset) := by
    intro offset hoffset
    exact wordOf_append (by rw [List.length_drop]; omega) more
  rw [decode_eq_ok_iff, wordOf_append (by omega), hdrop 4 (by omega), hdrop 8 (by omega),
    hdrop 12 (by omega), hdrop headerLength (Nat.le_refl _), hword 4 (by omega), hword 8 (by omega),
    hword 12 (by omega)]
  refine ⟨?_, hwidth, hheight, Grid.ofBytes_append hgrid more, hstart⟩
  rw [List.length_append]
  omega

end Verdicts

-- What reading says of any bytes. Every way to fail has a condition of its own, and
-- a byte that is no opcode is named with its column and row. Bytes behind the cells
-- do not matter, and no slice or division goes wrong on the way.
theorem decode_reports_exactly (bytes : List UInt8) :
    (∀ length, decode bytes = .error (.truncatedHeader length) ↔
      bytes.length < headerLength ∧ length = bytes.length) ∧
    (∀ width height, decode bytes = .error (.negativeSide width height) ↔
      headerLength ≤ bytes.length ∧ (wordOf bytes < 0 ∨ wordOf (bytes.drop 4) < 0) ∧
        width = wordOf bytes ∧ height = wordOf (bytes.drop 4)) ∧
    (∀ expected actual, decode bytes = .error (.truncatedCells expected actual) ↔
      ∃ w h, Headed bytes w h ∧ bytes.length - headerLength < w * h ∧
        expected = w * h ∧ actual = bytes.length - headerLength) ∧
    ((∃ byte x y, decode bytes = .error (.unknownOpcode byte x y)) ↔
      ∃ w h, Headed bytes w h ∧ w * h ≤ bytes.length - headerLength ∧
        ∃ byte ∈ (bytes.drop headerLength).take (w * h), 27 < byte) ∧
    (∀ byte x y, decode bytes = .error (.unknownOpcode byte x y) ↔
      ∃ w h, Headed bytes w h ∧ w * h ≤ bytes.length - headerLength ∧ (x < w ∧ y < h) ∧
        bytes[headerLength + (x * h + y)]? = some byte ∧ 27 < byte ∧
        ∀ k < x * h + y, ∃ opcode, bytes[headerLength + k]? = some opcode ∧ opcode ≤ 27) ∧
    (∀ width height, decode bytes ≠ .error (.tooManyCells width height)) ∧
    ((∃ p, decode bytes = .ok p) ↔
      ∃ w h, Headed bytes w h ∧ w * h ≤ bytes.length - headerLength ∧
        ∀ byte ∈ (bytes.drop headerLength).take (w * h), byte ≤ 27) ∧
    (∀ p, decode bytes = .ok p →
      Headed bytes p.grid.width p.grid.height ∧
      p.start = ⟨wordOf (bytes.drop 8), wordOf (bytes.drop 12)⟩ ∧
      (∀ point ∈ p.grid, ∃ byte,
        bytes[headerLength + (point.x.toInt.toNat * p.grid.height + point.y.toInt.toNat)]? = some byte ∧
        byte ≤ 27 ∧ p.grid.get? point = Instruction.ofOpcode? byte) ∧
      ∀ more, decode (bytes ++ more) = .ok p) ∧
    Guarded.decode? bytes = some (decode bytes) := by
  refine ⟨?_, ?_, ?_, exists_decode_unknownOpcode_iff, ?_, ?_, exists_decode_ok_iff, ?_,
    Guarded.decode?_eq bytes⟩
  · intro length
    simp [decode_eq_error_iff]
  · intro width height
    simp [decode_eq_error_iff]
  · intro expected actual
    simp [decode_eq_error_iff]
  · intro byte x y
    simp only [decode_eq_unknownOpcode_iff, FirstUnknown, List.getElem?_drop]
  · intro width height
    simp [decode_eq_error_iff]
  · intro p hdecode
    obtain ⟨_, _, _, hgrid, hstart⟩ := decode_eq_ok_iff.mp hdecode
    refine ⟨headed_of_decode hdecode, hstart, ?_, decode_append hdecode⟩
    intro point hpoint
    obtain ⟨byte, hbyte, hle, hget⟩ := Grid.get?_of_ofBytes hgrid hpoint
    rw [List.getElem?_drop] at hbyte
    exact ⟨byte, hbyte, hle, hget⟩

-- Of two bytes that are no opcodes the first is named. With both of them mended,
-- the bytes behind the cells do not matter.
theorem decode_reports_exactly_mended :
    decode [2, 0, 0, 0, 3, 0, 0, 0, 255, 255, 255, 255, 1, 0, 0, 0, 0, 27, 26, 28, 5, 99] =
      .error (.unknownOpcode 28 1 0) ∧
    decode [2, 0, 0, 0, 3, 0, 0, 0, 255, 255, 255, 255, 1, 0, 0, 0, 0, 27, 26, 1, 5, 9] =
      .ok ⟨⟨2, 3, #[.noOperation, .isZero, .exit, .moveLeft, .add, .increment], rfl⟩, -1, 1⟩ ∧
    decode ([2, 0, 0, 0, 3, 0, 0, 0, 255, 255, 255, 255, 1, 0, 0, 0, 0, 27, 26, 1, 5, 9] ++ [28, 99]) =
      .ok ⟨⟨2, 3, #[.noOperation, .isZero, .exit, .moveLeft, .add, .increment], rfl⟩, -1, 1⟩ := by
  have hread :
      decode [2, 0, 0, 0, 3, 0, 0, 0, 255, 255, 255, 255, 1, 0, 0, 0, 0, 27, 26, 1, 5, 9] =
        .ok ⟨⟨2, 3, #[.noOperation, .isZero, .exit, .moveLeft, .add, .increment], rfl⟩, -1, 1⟩ := rfl
  obtain ⟨_, _, _, _, hunknown, _⟩ := decode_reports_exactly
    [2, 0, 0, 0, 3, 0, 0, 0, 255, 255, 255, 255, 1, 0, 0, 0, 0, 27, 26, 28, 5, 99]
  obtain ⟨_, _, _, _, _, _, _, haccepted, _⟩ := decode_reports_exactly
    [2, 0, 0, 0, 3, 0, 0, 0, 255, 255, 255, 255, 1, 0, 0, 0, 0, 27, 26, 1, 5, 9]
  refine ⟨(hunknown 28 1 0).mpr ?_, hread, (haccepted _ hread).2.2.2 [28, 99]⟩
  refine ⟨2, 3, ⟨by decide, by decide, by decide⟩, by decide, by decide, rfl, by decide, ?_⟩
  intro k hk
  match k, hk with
  | 0, _ => exact ⟨0, rfl, by decide⟩
  | 1, _ => exact ⟨27, rfl, by decide⟩
  | 2, _ => exact ⟨26, rfl, by decide⟩

end Program

end GridWalk
