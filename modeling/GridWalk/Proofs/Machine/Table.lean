import Mathlib.Data.Int.ModEq
import GridWalk.Proofs.Machine.Counter
import GridWalk.Proofs.Machine.Refusal

namespace GridWalk

-- A word that stands for an integer up to multiples of 2 ^ 32.
def Wraps (word : Int32) (exact : Int) : Prop :=
  (-2 ^ 31 ≤ word.toInt ∧ word.toInt < 2 ^ 31) ∧ word.toInt ≡ exact [ZMOD 2 ^ 32]

-- `q` is `a` divided by `d` and rounded toward zero.
def Truncates (a d q : Int) : Prop :=
  ∃ r, a = q * d + r ∧ r.natAbs < d.natAbs ∧ (r = 0 ∨ (0 < a ∧ 0 < r) ∨ (a < 0 ∧ r < 0))

section Words

variable {word other : Int32} {exact : Int}

theorem wraps_of_bmod (h : word.toInt = exact.bmod (2 ^ 32)) : Wraps word exact := by
  refine ⟨⟨word.le_toInt, word.toInt_lt⟩, ?_⟩
  rw [h]
  exact Int.bmod_emod

theorem Wraps.unique (h : Wraps word exact) (hother : Wraps other exact) : word = other := by
  obtain ⟨⟨hlo, hhi⟩, hword⟩ := h
  obtain ⟨⟨hlo', hhi'⟩, hother⟩ := hother
  have hsame : word.toInt % 2 ^ 32 = other.toInt % 2 ^ 32 := hword.trans hother.symm
  apply Int32.toInt_inj.mp
  omega

theorem Wraps.toInt_eq (h : Wraps word exact) (hlo : -2 ^ 31 ≤ exact) (hhi : exact < 2 ^ 31) :
    word.toInt = exact := by
  obtain ⟨⟨hlo', hhi'⟩, hword⟩ := h
  have hsame : word.toInt % 2 ^ 32 = exact % 2 ^ 32 := hword
  omega

theorem Truncates.unique {a d q p : Int} (hq : Truncates a d q) (hp : Truncates a d p) : q = p := by
  obtain ⟨r, hr, hrlt, hrsign⟩ := hq
  obtain ⟨s, hs, hslt, hssign⟩ := hp
  have hdiff : (q - p) * d = s - r := by
    rw [Int.sub_mul]
    omega
  -- Both remainders lie on one side of zero, so they differ by less than `d`.
  have hsmall : (s - r).natAbs < d.natAbs := by omega
  rw [← hdiff, Int.natAbs_mul] at hsmall
  have hzero : (q - p).natAbs = 0 := by
    by_contra hne
    have hle := Nat.le_mul_of_pos_left d.natAbs (Nat.pos_of_ne_zero hne)
    omega
  omega

theorem truncates_tdiv (a : Int) {d : Int} (hd : d ≠ 0) : Truncates a d (a.tdiv d) := by
  refine ⟨a.tmod d, ?_, ?_, ?_⟩
  · have hsum := Int.tmod_add_mul_tdiv a d
    rw [Int.mul_comm] at hsum
    omega
  · rw [Int.natAbs_tmod]
    exact Nat.mod_lt _ (by omega)
  · rcases Int.lt_trichotomy a 0 with hneg | hzero | hpos
    · have hnonneg := Int.tmod_nonneg d (show 0 ≤ -a by omega)
      rw [Int.neg_tmod] at hnonneg
      omega
    · simp [hzero]
    · have hnonneg := Int.tmod_nonneg d (show 0 ≤ a by omega)
      omega

end Words

-- The turning instructions that look at the flag first.
def Instruction.isConditional : Instruction → Bool
  | .moveLeftIfTrue | .moveRightIfTrue | .moveUpIfTrue | .moveDownIfTrue => true
  | _ => false

-- A facing moves along one of the axes, by one.
theorem Facing.offset_unit (facing : Facing) :
    facing.offset.x.toInt.natAbs + facing.offset.y.toInt.natAbs = 1 := by
  cases facing <;> decide

namespace Machine

-- The word that comes of the accumulator and the cell under the pointer.
def Computes (m : Machine) (operation : Int → Int → Int) (after : Int32) : Prop :=
  ∃ value, m.Holds value ∧ Wraps after (operation m.accumulator.toInt value.toInt)

-- The flag that tells how the accumulator compares to the cell under the pointer.
def Compares (m : Machine) (relation : Int → Int → Prop) (after : Bool) : Prop :=
  ∃ value, m.Holds value ∧ (after = true ↔ relation m.accumulator.toInt value.toInt)

section Rules

variable (m : Machine)

def AccumulatorRule (after : Int32) : Instruction → Prop
  | .add => m.Computes (· + ·) after
  | .sub => m.Computes (· - ·) after
  | .mul => m.Computes (· * ·) after
  | .div => ∃ value, m.Holds value ∧ Truncates m.accumulator.toInt value.toInt after.toInt
  | .increment => Wraps after (m.accumulator.toInt + 1)
  | .decrement => Wraps after (m.accumulator.toInt - 1)
  | .readToAccumulator => m.Holds after
  | _ => after = m.accumulator

def FlagRule (after : Bool) : Instruction → Prop
  | .isLess => m.Compares (· < ·) after
  | .isMore => m.Compares (· > ·) after
  | .isLessOrEqual => m.Compares (· ≤ ·) after
  | .isMoreOrEqual => m.Compares (· ≥ ·) after
  | .isEqual => m.Compares (· = ·) after
  | .isNotEqual => m.Compares (· ≠ ·) after
  | .isZero => after = true ↔ m.accumulator.toInt = 0
  | _ => after = m.flag

def FacingRule (after : Facing) (i : Instruction) : Prop :=
  (i.isMovement = false → after = m.facing) ∧
  ∀ named, i.turn? = some named →
    after = if i.isConditional = true ∧ m.flag = false then m.facing else named

def PointerRule (after : Int64) : Instruction → Prop
  | .moveStackDown => after.toInt ≡ m.pointer.toInt + 1 [ZMOD 2 ^ 64]
  | .moveStackUp => after.toInt ≡ m.pointer.toInt - 1 [ZMOD 2 ^ 64]
  | _ => after = m.pointer

def StackRule (after : Array Int32) (i : Instruction) : Prop :=
  after.size = m.stack.size ∧
  ∀ k : Nat, after[k]? =
    if i = .writeFromAccumulator ∧ (k : Int) = m.pointer.toInt then some m.accumulator
    else m.stack[k]?

end Rules

-- The instruction table, in integers: what each register is after an instruction that
-- raises no fault.
structure Becomes (m : Machine) (i : Instruction) (next : Machine) : Prop where
  accumulator : m.AccumulatorRule next.accumulator i
  flag : m.FlagRule next.flag i
  facing : m.FacingRule next.facing i
  pointer : m.PointerRule next.pointer i
  stack : m.StackRule next.stack i
  moves : i ≠ .exit →
    Wraps next.cursor.x (m.cursor.x.toInt + next.facing.offset.x.toInt) ∧
    Wraps next.cursor.y (m.cursor.y.toInt + next.facing.offset.y.toInt)
  stays : i = .exit → next.cursor = m.cursor
  exited : next.exited = true ↔ i = .exit
  counter : m.CounterRule next.counter

section Apply

variable {m : Machine} {i : Instruction}

theorem faceIf_eq (m : Machine) (facing : Facing) :
    m.faceIf facing = { m with facing := if m.flag then facing else m.facing } := by
  unfold faceIf
  by_cases hflag : m.flag = true
  · rw [if_pos hflag, if_pos hflag]
    rfl
  · rw [if_neg hflag, if_neg hflag]

theorem apply_cursor (m : Machine) (i : Instruction) : (m.apply i).cursor = m.cursor := by
  cases i <;> simp only [apply, face, faceIf_eq]

theorem perform_eq (m : Machine) (i : Instruction) :
    m.perform i =
      { m.apply i with
        cursor := if i = .exit then m.cursor else m.cursor + (m.apply i).facing.offset
        exited := m.exited || decide (i = .exit)
        steps := m.steps + 1 } := by
  unfold perform
  by_cases hexit : i = .exit
  · subst hexit
    simp [leave, apply]
  · simp [hexit, advance, apply_cursor]

theorem accumulatorRule_apply (hfits : m.Fits i)
    (hdivides : i = .div → m.operand ≠ 0 ∧ ¬(m.operand = -1 ∧ m.accumulator = Int32.minValue)) :
    m.AccumulatorRule (m.apply i).accumulator i := by
  cases i with
  | add => exact ⟨m.operand, hfits.holds rfl, wraps_of_bmod (Int32.toInt_add _ _)⟩
  | sub => exact ⟨m.operand, hfits.holds rfl, wraps_of_bmod (Int32.toInt_sub _ _)⟩
  | mul => exact ⟨m.operand, hfits.holds rfl, wraps_of_bmod (Int32.toInt_mul _ _)⟩
  | div =>
      obtain ⟨hnonzero, hfitting⟩ := hdivides rfl
      have hdivisor : m.operand.toInt ≠ 0 := fun h => hnonzero (Int32.toInt_inj.mp h)
      have hquotient : (m.accumulator / m.operand).toInt =
          m.accumulator.toInt.tdiv m.operand.toInt := by
        by_cases hminus : m.operand = -1
        · exact Int32.toInt_div_of_ne_left _ _ fun hlowest => hfitting ⟨hminus, hlowest⟩
        · exact Int32.toInt_div_of_ne_right _ _ hminus
      refine ⟨m.operand, hfits.holds rfl, ?_⟩
      change Truncates _ _ (m.accumulator / m.operand).toInt
      rw [hquotient]
      exact truncates_tdiv _ hdivisor
  | increment => exact wraps_of_bmod (Int32.toInt_add _ _)
  | decrement => exact wraps_of_bmod (Int32.toInt_sub _ _)
  | readToAccumulator => exact hfits.holds rfl
  | moveLeftIfTrue | moveRightIfTrue | moveUpIfTrue | moveDownIfTrue =>
      simp only [AccumulatorRule, apply, faceIf_eq]
  | _ => rfl

theorem flagRule_apply (hfits : m.Fits i) : m.FlagRule (m.apply i).flag i := by
  cases i with
  | isLess | isMore => exact ⟨m.operand, hfits.holds rfl, by simp [apply, Int32.lt_iff_toInt_lt]⟩
  | isLessOrEqual | isMoreOrEqual =>
      exact ⟨m.operand, hfits.holds rfl, by simp [apply, Int32.le_iff_toInt_le]⟩
  | isEqual | isNotEqual => exact ⟨m.operand, hfits.holds rfl, by simp [apply, Int32.toInt_inj]⟩
  | isZero => simp [FlagRule, apply, ← Int32.toInt_inj]
  | moveLeftIfTrue | moveRightIfTrue | moveUpIfTrue | moveDownIfTrue =>
      simp only [FlagRule, apply, faceIf_eq]
  | _ => rfl

theorem facingRule_apply (m : Machine) (i : Instruction) : m.FacingRule (m.apply i).facing i := by
  unfold FacingRule
  cases i with
  | moveLeftIfTrue | moveRightIfTrue | moveUpIfTrue | moveDownIfTrue =>
      simp only [apply, faceIf_eq]
      cases m.flag <;> simp [Instruction.isMovement, Instruction.turn?, Instruction.isConditional]
  | _ => simp [apply, face, Instruction.isMovement, Instruction.turn?, Instruction.isConditional]

theorem pointerRule_apply (m : Machine) (i : Instruction) : m.PointerRule (m.apply i).pointer i := by
  cases i with
  | moveStackDown =>
      change (m.pointer + 1).toInt ≡ m.pointer.toInt + 1 [ZMOD 2 ^ 64]
      rw [Int64.toInt_add]
      exact Int.bmod_emod
  | moveStackUp =>
      change (m.pointer - 1).toInt ≡ m.pointer.toInt - 1 [ZMOD 2 ^ 64]
      rw [Int64.toInt_sub]
      exact Int.bmod_emod
  | moveLeftIfTrue | moveRightIfTrue | moveUpIfTrue | moveDownIfTrue =>
      simp only [PointerRule, apply, faceIf_eq]
  | _ => rfl

theorem stackRule_apply (hfits : m.Fits i) : m.StackRule (m.apply i).stack i := by
  refine ⟨apply_stack_size m i, ?_⟩
  intro k
  by_cases hwrite : i = .writeFromAccumulator
  · subst hwrite
    have hlt := slot_lt (hfits rfl)
    obtain ⟨hnonneg, _⟩ := pointerInRange_iff.mp (hfits rfl)
    have hslot : (k : Int) = m.pointer.toInt ↔ m.slot = k := by
      unfold slot
      omega
    simp only [apply, Array.getElem?_setIfInBounds, hlt, if_true, hslot, true_and]
  · have hkept : (m.apply i).stack = m.stack := by
      cases i <;> simp_all only [apply, face, faceIf_eq, reduceCtorEq, not_true_eq_false]
    simp [hwrite, hkept]

theorem divides_of_fault? (hfault : m.fault? .div = none) :
    m.operand ≠ 0 ∧ ¬(m.operand = -1 ∧ m.accumulator = Int32.minValue) := by
  have hfits : m.Fits .div := fits_of_fault? (by simp [hfault])
  rw [fault?_of_fits hfits, if_pos rfl] at hfault
  constructor
  · intro hzero
    simp [hzero] at hfault
  · intro hover
    simp [hover] at hfault

-- An instruction that raises no fault does what the table says.
theorem becomes_perform (hrunning : m.exited = false) (hfault : m.fault? i = none) :
    m.Becomes i (m.perform i) := by
  have hfits : m.Fits i := fits_of_fault? (by simp [hfault])
  rw [perform_eq]
  constructor
  case accumulator =>
    apply accumulatorRule_apply hfits
    rintro rfl
    exact divides_of_fault? hfault
  case flag => exact flagRule_apply hfits
  case facing => exact facingRule_apply m i
  case pointer => exact pointerRule_apply m i
  case stack => exact stackRule_apply hfits
  case moves =>
    intro hexit
    simp only [hexit, if_false]
    exact ⟨wraps_of_bmod (Int32.toInt_add _ _), wraps_of_bmod (Int32.toInt_add _ _)⟩
  case stays =>
    intro hexit
    simp [hexit]
  case exited => simp [hrunning]
  case counter => exact counterRule_of_steps rfl

end Apply

section Unique

variable {m a b : Machine} {i : Instruction}

theorem Computes.unique {operation : Int → Int → Int} {x y : Int32} (h : m.Computes operation x)
    (hother : m.Computes operation y) : x = y := by
  obtain ⟨value, hvalue, hx⟩ := h
  obtain ⟨other, hsame, hy⟩ := hother
  rw [hsame.unique hvalue] at hy
  exact hx.unique hy

theorem Compares.unique {relation : Int → Int → Prop} {x y : Bool} (h : m.Compares relation x)
    (hother : m.Compares relation y) : x = y := by
  obtain ⟨value, hvalue, hx⟩ := h
  obtain ⟨other, hsame, hy⟩ := hother
  rw [hsame.unique hvalue] at hy
  exact Bool.eq_iff_iff.mpr (hx.trans hy.symm)

theorem AccumulatorRule.unique {x y : Int32} (hx : m.AccumulatorRule x i)
    (hy : m.AccumulatorRule y i) : x = y := by
  cases i with
  | add | sub | mul => exact Computes.unique hx hy
  | div =>
      obtain ⟨value, hvalue, hx⟩ := hx
      obtain ⟨other, hsame, hy⟩ := hy
      rw [hsame.unique hvalue] at hy
      exact Int32.toInt_inj.mp (hx.unique hy)
  | increment | decrement => exact Wraps.unique hx hy
  | readToAccumulator => exact Holds.unique hx hy
  | _ => exact Eq.trans hx (Eq.symm hy)

theorem FlagRule.unique {x y : Bool} (hx : m.FlagRule x i) (hy : m.FlagRule y i) : x = y := by
  cases i with
  | isLess | isMore | isLessOrEqual | isMoreOrEqual | isEqual | isNotEqual =>
      exact Compares.unique hx hy
  | isZero => exact Bool.eq_iff_iff.mpr (Iff.trans hx (Iff.symm hy))
  | _ => exact Eq.trans hx (Eq.symm hy)

theorem FacingRule.unique {x y : Facing} (hx : m.FacingRule x i) (hy : m.FacingRule y i) :
    x = y := by
  cases hturn : i.turn? with
  | none =>
      have hstraight : i.isMovement = false := by simp [Instruction.isMovement, hturn]
      rw [hx.1 hstraight, hy.1 hstraight]
  | some named => rw [hx.2 named hturn, hy.2 named hturn]

theorem PointerRule.unique {x y : Int64} (hx : m.PointerRule x i) (hy : m.PointerRule y i) :
    x = y := by
  have hxlo := x.le_toInt
  have hxhi := x.toInt_lt
  have hylo := y.le_toInt
  have hyhi := y.toInt_lt
  cases i with
  | moveStackDown | moveStackUp =>
      have hsame : x.toInt % 2 ^ 64 = y.toInt % 2 ^ 64 := Int.ModEq.trans hx (Int.ModEq.symm hy)
      apply Int64.toInt_inj.mp
      omega
  | _ => exact Eq.trans hx (Eq.symm hy)

theorem StackRule.unique {x y : Array Int32} (hx : m.StackRule x i) (hy : m.StackRule y i) :
    x = y := by
  apply Array.ext_getElem?
  intro k
  rw [hx.2 k, hy.2 k]

-- The table leaves no choice for what is kept.
theorem Becomes.unique (ha : m.Becomes i a) (hb : m.Becomes i b) : a.kept = b.kept := by
  have hfacing : a.facing = b.facing := ha.facing.unique hb.facing
  have hcursor : a.cursor = b.cursor := by
    by_cases hexit : i = .exit
    · rw [ha.stays hexit, hb.stays hexit]
    · obtain ⟨hax, hay⟩ := ha.moves hexit
      obtain ⟨hbx, hby⟩ := hb.moves hexit
      rw [← hfacing] at hbx hby
      exact Point.eq_of_coordinates (hax.unique hbx) (hay.unique hby)
  have haccumulator := ha.accumulator.unique hb.accumulator
  have hflag := ha.flag.unique hb.flag
  have hpointer := ha.pointer.unique hb.pointer
  have hstack := ha.stack.unique hb.stack
  have hexited : a.exited = b.exited := Bool.eq_iff_iff.mpr (ha.exited.trans hb.exited.symm)
  have hcounter : a.counter.toNat = b.counter.toNat := ha.counter.trans hb.counter.symm
  simp only [kept, recount, Machine.mk.injEq]
  exact ⟨hcursor, hfacing, haccumulator, hflag, hpointer, hstack, hexited, hcounter⟩

end Unique

-- On a grid whose sides are 32-bit words, the cell next to a cell of the grid is
-- found without wrapping.
theorem toInt_of_wraps_offset {g : Grid} {p q : Point} (hfits : g.fitsHeader = true) (hp : p ∈ g)
    (facing : Facing)
    (hmoves : Wraps q.x (p.x.toInt + facing.offset.x.toInt) ∧
      Wraps q.y (p.y.toInt + facing.offset.y.toInt)) :
    q.x.toInt = p.x.toInt + facing.offset.x.toInt ∧
      q.y.toInt = p.y.toInt + facing.offset.y.toInt := by
  obtain ⟨⟨hx0, hx⟩, hy0, hy⟩ := Grid.mem_iff.mp hp
  obtain ⟨hwidth, hheight⟩ : g.width ≤ Grid.maxSide ∧ g.height ≤ Grid.maxSide := by
    simpa [Grid.fitsHeader] using hfits
  have hunit := facing.offset_unit
  unfold Grid.maxSide at hwidth hheight
  exact ⟨hmoves.1.toInt_eq (by omega) (by omega), hmoves.2.toInt_eq (by omega) (by omega)⟩

end Machine

end GridWalk
