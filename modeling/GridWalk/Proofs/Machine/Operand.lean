import GridWalk.Machine.Step

namespace GridWalk.Machine

-- The pointer names a cell of the stack, and `value` is in it.
def Holds (m : Machine) (value : Int32) : Prop :=
  0 ≤ m.pointer.toInt ∧ m.stack[m.pointer.toInt.toNat]? = some value

instance (m : Machine) (value : Int32) : Decidable (m.Holds value) :=
  inferInstanceAs (Decidable (_ ∧ _))

-- The cell that an instruction uses, if it uses one, is there.
def Fits (m : Machine) (i : Instruction) : Prop := i.usesCell = true → m.pointerInRange = true

variable {m : Machine} {i : Instruction} {value other : Int32}

theorem pointerInRange_iff :
    m.pointerInRange = true ↔ 0 ≤ m.pointer.toInt ∧ m.pointer.toInt < m.stack.size := by
  simp [pointerInRange]

theorem slot_lt (h : m.pointerInRange = true) : m.slot < m.stack.size := by
  obtain ⟨hnonneg, hlt⟩ := pointerInRange_iff.mp h
  unfold slot
  omega

theorem holds_iff : m.Holds value ↔ m.pointerInRange = true ∧ m.operand = value := by
  constructor
  · rintro ⟨hnonneg, hcell⟩
    obtain ⟨hlt, _⟩ := Array.getElem?_eq_some_iff.mp hcell
    refine ⟨pointerInRange_iff.mpr ⟨hnonneg, by omega⟩, ?_⟩
    change m.stack[m.pointer.toInt.toNat]?.getD 0 = value
    rw [hcell]
    rfl
  · rintro ⟨hrange, rfl⟩
    have hlt := slot_lt hrange
    refine ⟨(pointerInRange_iff.mp hrange).1, ?_⟩
    change m.stack[m.slot]? = some m.operand
    simp [operand, hlt]

theorem Holds.unique (h : m.Holds value) (hother : m.Holds other) : value = other := by
  obtain ⟨_, rfl⟩ := holds_iff.mp h
  obtain ⟨_, rfl⟩ := holds_iff.mp hother
  rfl

theorem Fits.holds (h : m.Fits i) (hcell : i.usesCell = true) : m.Holds m.operand :=
  holds_iff.mpr ⟨h hcell, rfl⟩

theorem fault?_of_out_of_range (hcell : i.usesCell = true) (hout : m.pointerInRange = false) :
    m.fault? i = some (.pointerOutOfRange m.pointer m.stack.size m.cursor) := by
  simp [fault?, hcell, hout]

theorem fits_of_fault?
    (h : ∀ pointer length point, m.fault? i ≠ some (.pointerOutOfRange pointer length point)) :
    m.Fits i := by
  intro hcell
  cases hrange : m.pointerInRange with
  | true => rfl
  | false => exact absurd (fault?_of_out_of_range hcell hrange) (h _ _ _)

end GridWalk.Machine
