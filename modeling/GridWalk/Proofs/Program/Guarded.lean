import GridWalk.Proofs.Program.RoundTrip

-- The reader of program files once more, with an answer only if every slice it
-- takes lies within the bytes and every number it divides by is not zero.
namespace GridWalk.Guarded

def slice? (bytes : List UInt8) (first last : Nat) : Option (List UInt8) :=
  if first ≤ last ∧ last ≤ bytes.length then some ((bytes.take last).drop first) else none

def word? (bytes : List UInt8) (offset : Nat) : Option Int32 :=
  (slice? bytes offset (offset + 4)).map wordOf

def place? (index height : Nat) : Option (Nat × Nat) :=
  if height = 0 then none else some (index / height, index % height)

def cells? (height : Nat) :
    List UInt8 → Array Instruction → Option (Except DecodeError (Array Instruction))
  | [], cells => some (.ok cells)
  | byte :: rest, cells =>
      match Instruction.ofOpcode? byte with
      | some i => cells? height rest (cells.push i)
      | none => do
          let (x, y) ← place? cells.size height
          return .error (.unknownOpcode byte x y)

def grid? (bytes : List UInt8) (width height : Nat) : Option (Except DecodeError Grid) :=
  if Grid.cellLimit ≤ width * height then some (.error (.tooManyCells width height))
  else if bytes.length < width * height then
    some (.error (.truncatedCells (width * height) bytes.length))
  else do
    let region ← slice? bytes 0 (width * height)
    match ← cells? height region #[] with
    | .error e => return .error e
    | .ok cells =>
        if h : cells.size = width * height then return .ok ⟨width, height, cells, h⟩ else none

def decode? (bytes : List UInt8) : Option (Except DecodeError Program) :=
  if bytes.length < Program.headerLength then some (.error (.truncatedHeader bytes.length))
  else do
    let width ← word? bytes 0
    let height ← word? bytes 4
    let x ← word? bytes 8
    let y ← word? bytes 12
    if width < 0 ∨ height < 0 then return .error (.negativeSide width height)
    else
      let region ← slice? bytes Program.headerLength bytes.length
      match ← grid? region width.toInt.toNat height.toInt.toNat with
      | .error e => return .error e
      | .ok grid => return .ok ⟨grid, x, y⟩

theorem slice?_of_le {bytes : List UInt8} {first last : Nat} (h : first ≤ last)
    (hlast : last ≤ bytes.length) : slice? bytes first last = some ((bytes.take last).drop first) :=
  if_pos ⟨h, hlast⟩

theorem wordOf_take (bytes : List UInt8) : wordOf (bytes.take 4) = wordOf bytes := by
  match bytes with
  | [] | [_] | [_, _] | [_, _, _] | _ :: _ :: _ :: _ :: _ => rfl

theorem word?_of_le {bytes : List UInt8} {offset : Nat} (h : offset + 4 ≤ bytes.length) :
    word? bytes offset = some (wordOf (bytes.drop offset)) := by
  unfold word?
  rw [slice?_of_le (by omega) h, List.drop_take, Nat.add_sub_cancel_left]
  exact congrArg some (wordOf_take _)

-- A division takes place for a byte, and there is a byte only if there are rows.
theorem cells?_eq {height : Nat} {bytes : List UInt8} (before : Array Instruction)
    (hrows : bytes ≠ [] → height ≠ 0) :
    cells? height bytes before = some (readCells height bytes before) := by
  induction bytes generalizing before with
  | nil => rfl
  | cons byte rest ih =>
      have hheight : height ≠ 0 := hrows (List.cons_ne_nil _ _)
      unfold cells? readCells
      cases Instruction.ofOpcode? byte with
      | some i => exact ih (before.push i) fun _ => hheight
      | none => simp [place?, hheight]

theorem grid?_eq (bytes : List UInt8) (width height : Nat) :
    grid? bytes width height = some (Grid.ofBytes bytes width height) := by
  by_cases hlimit : Grid.cellLimit ≤ width * height
  · simp only [grid?, Grid.ofBytes, hlimit, if_true]
  by_cases hlength : bytes.length < width * height
  · simp only [grid?, Grid.ofBytes, hlimit, hlength, if_true, if_false, dite_true]
  have hrows : bytes.take (width * height) ≠ [] → height ≠ 0 := by
    rintro hne rfl
    exact hne rfl
  unfold grid?
  rw [if_neg hlimit, if_neg hlength, slice?_of_le (Nat.zero_le _) (Nat.not_lt.mp hlength),
    List.drop_zero]
  simp only [Option.bind_eq_bind, Option.bind_some, cells?_eq #[] hrows]
  rw [Nat.not_le] at hlimit
  rw [Nat.not_lt] at hlength
  cases hread : readCells height (bytes.take (width * height)) #[] with
  | error e =>
      rw [Grid.ofBytes_of_readCells_error hlimit hlength hread]
      rfl
  | ok cells =>
      obtain ⟨hsize, hgrid⟩ := Grid.ofBytes_of_readCells_ok hlimit hlength hread
      rw [hgrid]
      exact dif_pos hsize

theorem decode?_eq (bytes : List UInt8) : decode? bytes = some (Program.decode bytes) := by
  unfold decode? Program.decode
  by_cases hlength : bytes.length < Program.headerLength
  · rw [if_pos hlength, if_pos hlength]
  · rw [if_neg hlength, if_neg hlength]
    unfold Program.headerLength at hlength
    rw [word?_of_le (by omega), word?_of_le (by omega), word?_of_le (by omega), word?_of_le (by omega),
      slice?_of_le (by unfold Program.headerLength; omega) (Nat.le_refl _), List.take_length]
    simp only [Option.bind_eq_bind, Option.bind_some, List.drop_zero, grid?_eq]
    by_cases hsides : wordOf bytes < 0 ∨ wordOf (bytes.drop 4) < 0
    · rw [if_pos hsides, if_pos hsides]
      rfl
    · rw [if_neg hsides, if_neg hsides]
      cases Grid.ofBytes (bytes.drop Program.headerLength) (wordOf bytes).toInt.toNat
        (wordOf (bytes.drop 4)).toInt.toNat <;> rfl

end GridWalk.Guarded
