import GridWalk.Proofs.Session.Act

namespace GridWalk.Session

-- What a write to memory needs: a paused program, the focus and a cell.
def CanEdit (s : Session) : Prop :=
  s.playing = false ∧ s.focus = .memory ∧ s.selected < s.machine.stack.size

instance (s : Session) : Decidable s.CanEdit := inferInstanceAs (Decidable (_ ∧ _ ∧ _))

-- An event edits if it is a key for memory and reports the cell as written.
def Edits (s : Session) (e : Event) : Prop :=
  e.kind = .edit ∧ ∃ value, (s.handle e).notice = .cellWritten s.selected value

-- The value that a key for memory puts in place of another.
def editValue (c : Char) (old : Int32) : Int32 :=
  if c = '0' then 0 else if c = '-' then old + -1 else old + 1

-- The session after a write to the selected cell.
def written (s : Session) (value : Int32) : Session :=
  let machine := { s.machine with stack := s.machine.stack.setIfInBounds s.selected value }
  { s with
    machine := machine
    initial := if s.machine.steps = 0 ∧ s.history.isEmpty then machine else s.initial
    fault := none
    notice := .cellWritten s.selected value }

-- What is told instead of a write. It is a fault only if there is no cell.
def Refuses (s : Session) (notice : Notice) : Prop :=
  (∀ index value, notice ≠ .cellWritten index value) ∧
    ∀ fault, notice = .editFailed fault → s.machine.stack.size ≤ s.selected

section Write

variable {s : Session}

theorem writeSelected_of_canEdit (h : s.CanEdit) (value : Int32) : s.writeSelected value = s.written value := by
  obtain ⟨hpaused, hfocus, hindex⟩ := h
  have hstore : s.machine.store s.selected value = .ok (s.written value).machine :=
    Machine.store_eq_ok_iff.mpr ⟨hindex, rfl⟩
  rw [writeSelected, if_neg (by simp [hpaused]), if_neg (not_not_intro hfocus), hstore]
  rfl

theorem writeSelected_of_not_canEdit (h : ¬s.CanEdit) (value : Int32) :
    ∃ notice, s.writeSelected value = s.tell notice ∧ s.Refuses notice := by
  by_cases hplaying : s.playing = true
  · exact ⟨.pauseToEdit, by simp only [writeSelected, hplaying, if_true], by simp [Refuses]⟩
  by_cases hfocus : s.focus = .memory
  · have hindex : ¬s.selected < s.machine.stack.size :=
      fun hlt => h ⟨eq_false_of_ne_true hplaying, hfocus, hlt⟩
    refine ⟨.editFailed (.noSuchCell s.selected s.machine.stack.size), ?_, ?_⟩
    · simp [writeSelected, hplaying, hfocus, Machine.store, hindex]
    · simpa [Refuses] using hindex
  · exact ⟨.focusToEdit, by simp [writeSelected, hplaying, hfocus], by simp [Refuses]⟩

-- A key for memory writes if it can, and says why if it cannot.
theorem press_of_canEdit (h : s.CanEdit) {c : Char} (hc : c ∈ editChars) :
    ∃ old, s.machine.stack[s.selected]? = some old ∧ s.press (.char c) = s.written (editValue c old) := by
  obtain ⟨old, hold⟩ : ∃ old, s.machine.stack[s.selected]? = some old :=
    ⟨_, Array.getElem?_eq_getElem h.2.2⟩
  have hchange : ∀ delta, s.changeSelected delta = s.written (old + delta) := by
    intro delta
    simp only [changeSelected, hold, writeSelected_of_canEdit h]
  refine ⟨old, hold, ?_⟩
  simp only [editChars, List.mem_cons, List.not_mem_nil, or_false] at hc
  rcases hc with rfl | rfl | rfl | rfl
  · exact hchange 1
  · exact hchange 1
  · exact hchange (-1)
  · exact writeSelected_of_canEdit h 0

theorem press_of_not_canEdit (h : ¬s.CanEdit) {c : Char} (hc : c ∈ editChars) :
    ∃ notice, s.press (.char c) = s.tell notice ∧ s.Refuses notice := by
  have hchange : ∀ delta, ∃ notice, s.changeSelected delta = s.tell notice ∧ s.Refuses notice := by
    intro delta
    cases hcell : s.machine.stack[s.selected]? with
    | none => exact ⟨.noCellSelected, by simp only [changeSelected, hcell], by simp [Refuses]⟩
    | some old =>
        simp only [changeSelected, hcell]
        exact writeSelected_of_not_canEdit h _
  simp only [editChars, List.mem_cons, List.not_mem_nil, or_false] at hc
  rcases hc with rfl | rfl | rfl | rfl
  · exact hchange 1
  · exact hchange 1
  · exact hchange (-1)
  · exact writeSelected_of_not_canEdit h 0

end Write

theorem kind_eq_edit_iff {e : Event} : e.kind = .edit ↔ ∃ c ∈ editChars, e = .press (.char c) := by
  constructor
  · intro hkind
    cases e with
    | press key =>
        cases key with
        | char c =>
            by_cases hmem : c ∈ editChars
            · exact ⟨c, hmem, rfl⟩
            · simp only [Event.kind, Key.kind, hmem, if_false] at hkind
              split at hkind <;> cases hkind
        | _ => cases hkind
    | _ => cases hkind
  · rintro ⟨c, hc, rfl⟩
    have hreset : c ≠ 'r' := by
      rintro rfl
      exact absurd hc (by decide)
    simp only [Event.kind, Key.kind, if_neg hreset, if_pos hc]

theorem edits_iff {s : Session} {e : Event} : s.Edits e ↔ e.kind = .edit ∧ s.CanEdit := by
  constructor
  · rintro ⟨hkind, value, hnotice⟩
    refine ⟨hkind, ?_⟩
    by_cases hcan : s.CanEdit
    · exact hcan
    · obtain ⟨c, hc, rfl⟩ := kind_eq_edit_iff.mp hkind
      obtain ⟨notice, hpress, hrefuses⟩ := press_of_not_canEdit hcan hc
      rw [handle, hpress] at hnotice
      exact absurd hnotice (hrefuses.1 _ _)
  · rintro ⟨hkind, hcan⟩
    obtain ⟨c, hc, rfl⟩ := kind_eq_edit_iff.mp hkind
    obtain ⟨_, _, hpress⟩ := press_of_canEdit hcan hc
    exact ⟨hkind, _, congrArg notice hpress⟩

instance (s : Session) (e : Event) : Decidable (s.Edits e) := decidable_of_iff _ edits_iff.symm

theorem alike_handle_of_not_edits {s : Session} {e : Event} (hkind : e.kind = .edit)
    (hedits : ¬s.Edits e) : Alike s (s.handle e) := by
  have hcannot : ¬s.CanEdit := fun hcan => hedits (edits_iff.mpr ⟨hkind, hcan⟩)
  obtain ⟨c, hc, rfl⟩ := kind_eq_edit_iff.mp hkind
  obtain ⟨notice, hpress, _⟩ := press_of_not_canEdit hcannot hc
  rw [handle, hpress]
  exact alike_tell s notice

end GridWalk.Session
