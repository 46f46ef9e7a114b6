import GridWalk.Session.Screen
import GridWalk.Proofs.Machine.Table
import GridWalk.Proofs.Session.Edit
import GridWalk.Proofs.Session.Forward
import GridWalk.Proofs.Session.Origin
import Mathlib.Tactic.IntervalCases

namespace GridWalk

-- The exact result of a key for memory on a value, before it is brought into a word.
def editResult (c : Char) (value : Int) : Int :=
  if c = '0' then 0 else if c = '-' then value - 1 else value + 1

-- The keys that can do something to the program: to write to its memory, to take steps or to
-- take them back, and to start over.
def programKeys : List Key :=
  editChars.map .char ++ [.char 's', .right, .left, .enter, .char 'r', .backspace] ++
    ['1', '2', '3', '4', '5', '6', '7', '8', '9'].map .char

namespace Session

theorem wraps_editValue {c : Char} (hc : c ∈ editChars) (old : Int32) :
    Wraps (editValue c old) (editResult c old.toInt) := by
  simp only [editChars, List.mem_cons, List.not_mem_nil, or_false] at hc
  rcases hc with rfl | rfl | rfl | rfl
  · exact wraps_of_bmod (Int32.toInt_add old 1)
  · exact wraps_of_bmod (Int32.toInt_add old 1)
  · exact wraps_of_bmod (Int32.toInt_add old (-1))
  · exact wraps_of_bmod rfl

section Write

variable {s : Session}

theorem written_machine_eq_iff {value : Int32} (hindex : s.selected < s.machine.stack.size) :
    (s.written value).machine = s.machine ↔ s.machine.stack[s.selected]? = some value := by
  constructor
  · intro hsame
    have hcell := congrArg (fun m : Machine => m.stack[s.selected]?) hsame
    simpa [written, hindex] using hcell.symm
  · intro hcell
    have hstack : s.machine.stack.setIfInBounds s.selected value = s.machine.stack := by
      apply Array.ext_getElem?
      intro k
      rw [Array.getElem?_setIfInBounds]
      by_cases hk : s.selected = k
      · rw [if_pos hk, if_pos hindex, ← hk, hcell]
      · rw [if_neg hk]
    simp only [written, hstack]

-- A key for memory leaves all but these four fields alone.
theorem press_of_mem_editChars (s : Session) {c : Char} (hc : c ∈ editChars) :
    s.press (.char c) =
      { s with
        machine := (s.press (.char c)).machine
        initial := (s.press (.char c)).initial
        fault := (s.press (.char c)).fault
        notice := (s.press (.char c)).notice } := by
  by_cases hcan : s.CanEdit
  · obtain ⟨_, _, hpress⟩ := press_of_canEdit hcan hc
    rw [hpress]
    rfl
  · obtain ⟨_, hpress, _⟩ := press_of_not_canEdit hcan hc
    rw [hpress]
    rfl

theorem canEdit_of_press_ne {c : Char} (hc : c ∈ editChars)
    (hne : (s.press (.char c)).machine ≠ s.machine) : s.CanEdit := by
  by_cases hcan : s.CanEdit
  · exact hcan
  · obtain ⟨_, hpress, _⟩ := press_of_not_canEdit hcan hc
    rw [hpress] at hne
    exact absurd rfl hne

theorem press_ne_iff {c : Char} (hc : c ∈ editChars) :
    (s.press (.char c)).machine ≠ s.machine ↔
      s.CanEdit ∧ ∃ old new, s.machine.stack[s.selected]? = some old ∧
        Wraps new (editResult c old.toInt) ∧ new ≠ old := by
  have hchanged : s.CanEdit → ∃ old, s.machine.stack[s.selected]? = some old ∧
      ((s.press (.char c)).machine ≠ s.machine ↔ editValue c old ≠ old) := by
    intro hcan
    obtain ⟨old, hold, hpress⟩ := press_of_canEdit hcan hc
    refine ⟨old, hold, ?_⟩
    rw [hpress, ne_eq, written_machine_eq_iff hcan.2.2, hold, Option.some_inj]
    exact not_congr eq_comm
  constructor
  · intro hne
    have hcan := canEdit_of_press_ne hc hne
    obtain ⟨old, hold, hiff⟩ := hchanged hcan
    exact ⟨hcan, old, editValue c old, hold, wraps_editValue hc old, hiff.mp hne⟩
  · rintro ⟨hcan, old', new, hold', hnew, hne⟩
    obtain ⟨old, hold, hiff⟩ := hchanged hcan
    obtain rfl : old = old' := Option.some_inj.mp (hold.symm.trans hold')
    -- the key determines what it writes
    exact hiff.mpr ((wraps_editValue hc old).unique hnew ▸ hne)

end Write

-- The selection stays, and no failed edit is told that was not told before.
structure Steady (s t : Session) : Prop where
  selected : t.selected = s.selected := by rfl
  notice : ∀ fault, t.notice = .editFailed fault → s.notice = .editFailed fault := by exact nofun

section Steady

variable {s t u : Session}

theorem Steady.refl (s : Session) : Steady s s := ⟨rfl, fun _ h => h⟩

theorem Steady.trans (h : Steady s t) (h' : Steady t u) : Steady s u where
  selected := h'.selected.trans h.selected
  notice fault hfault := h.notice fault (h'.notice fault hfault)

theorem steady_pause (s : Session) : Steady s s.pause := ⟨rfl, fun _ h => h⟩

theorem steady_stepForward (s : Session) : Steady s s.stepForward.2 := by
  rcases hforward : s.stepForward with ⟨goes, after⟩
  cases stepForward_eq_iff.mp hforward with
  | blocked | halted | faulted => exact {}
  | continued =>
      unfold executed
      split <;> exact {}

theorem steady_stepBackward (s : Session) : Steady s s.stepBackward := by
  unfold stepBackward
  split
  · exact {}
  · split <;> exact {}

theorem steady_togglePlay (s : Session) : Steady s s.togglePlay := by
  unfold togglePlay
  split
  · exact {}
  · split <;> exact {}

theorem steady_toggleBreakpoint (s : Session) : Steady s s.toggleBreakpoint := by
  unfold toggleBreakpoint
  simp only
  split
  · exact {}
  · split <;> exact {}

theorem Steady.stepForward (h : Steady s t) : Steady s t.stepForward.2 := h.trans (steady_stepForward t)

theorem Steady.tell (h : Steady s t) {notice : Notice} (hnotice : ∀ fault, notice ≠ .editFailed fault) :
    Steady s (t.tell notice) :=
  h.trans ⟨rfl, fun fault hfault => absurd hfault (hnotice fault)⟩

theorem Steady.pause (h : Steady s t) : Steady s t.pause := h.trans (steady_pause t)

theorem steady_runOn (limit left : Nat) (s : Session) : Steady s (runOn limit left s) :=
  runOn_preserves (P := Steady s) (fun _ => Steady.stepForward) (fun _ _ hnotice h => h.tell hnotice)
    (.refl s) limit left

theorem steady_playTick (s : Session) : Steady s s.playTick :=
  playTick_preserves (P := Steady s) (fun _ => Steady.stepForward) (fun _ _ hnotice h => h.tell hnotice)
    (fun _ => Steady.pause) (.refl s)

theorem steady_pressDigit (s : Session) (count : Nat) : Steady s (s.pressDigit count) := by
  have hsteps : Steady s (stepUpTo count 0 s.pause).2 :=
    stepUpTo_preserves (fun _ => Steady.stepForward) (steady_pause s) count 0
  unfold pressDigit
  simp only
  split
  · exact hsteps.trans {}
  · exact hsteps

theorem steady_pressSpace (s : Session) : Steady s s.pressSpace := by
  have hnow : Steady s { s with sinceSpaceMs := 0 } := ⟨rfl, fun _ h => h⟩
  unfold pressSpace
  split
  · exact hnow.trans (steady_togglePlay _)
  · exact .refl s

theorem steady_pressChar (s : Session) {c : Char} (hc : c ∉ editChars) : Steady s (s.pressChar c) := by
  unfold pressChar
  split
  · exact steady_pressDigit s _
  · split
    · exact ⟨rfl, fun _ h => h⟩
    · exact ⟨rfl, fun _ h => h⟩
    · exact (steady_pause s).trans (steady_stepForward s.pause)
    · exact absurd (by decide) hc
    · exact absurd (by decide) hc
    · exact absurd (by decide) hc
    · exact absurd (by decide) hc
    · exact steady_toggleBreakpoint s
    · exact steady_pressSpace s
    · exact {}
    · exact .refl s

theorem steady_handle (s : Session) {e : Event} (hkind : e.kind ≠ .edit) (hup : e ≠ .press .up)
    (hdown : e ≠ .press .down) : Steady s (s.handle e) := by
  cases e with
  | press key =>
      cases key with
      | char c => exact steady_pressChar s fun hc => hkind (kind_eq_edit_iff.mpr ⟨c, hc, rfl⟩)
      | left => exact (steady_pause s).trans (steady_stepBackward s.pause)
      | right => exact (steady_pause s).trans (steady_stepForward s.pause)
      | up => exact absurd rfl hup
      | down => exact absurd rfl hdown
      | tab | backTab | other => exact ⟨rfl, fun _ h => h⟩
      | enter => exact (steady_pause s).trans (steady_runOn runLimit runLimit s.pause)
      | backspace => exact {}
  | togglePlay => exact steady_togglePlay s
  | playTick => exact steady_playTick s
  | stepForward => exact steady_stepForward s
  | stepBackward => exact steady_stepBackward s
  | runToEnd => exact steady_runOn runLimit runLimit s
  | reset => exact {}
  | toggleBreakpoint => exact steady_toggleBreakpoint s
  | wait ms => exact ⟨rfl, fun _ h => h⟩

end Steady

-- The sessions that a user can meet: besides events, they are drawn, which settles the scroll
-- offset, and are given breakpoints by their owner.
inductive Attainable (g : Grid) (m : Machine) (capacity : Nat) : Session → Prop where
  | start (hfresh : m.Fresh) : Attainable g m capacity (start g m capacity)
  | handle {s : Session} (h : Attainable g m capacity s) (e : Event) : Attainable g m capacity (s.handle e)
  | render {s : Session} (h : Attainable g m capacity s) (width height : Nat) :
      Attainable g m capacity (s.render width height).2
  | addBreakpoint {s : Session} (h : Attainable g m capacity s) (point : Point) :
      Attainable g m capacity (s.addBreakpoint point).2

-- What events alone lead to can be met.
theorem Reachable.attainable {g : Grid} {m : Machine} {capacity : Nat} {s : Session}
    (h : Reachable g m capacity s) : Attainable g m capacity s := by
  induction h with
  | start hfresh => exact .start hfresh
  | handle _ e ih => exact ih.handle e

-- The memory keeps its size, whatever machine is brought back, and the selection stays in it.
structure Selects (m : Machine) (s : Session) : Prop where
  ledger : s.course.Ledger
  rooted : s.course.Rooted m
  selected_le : s.selected ≤ m.stack.size - 1
  refused : ∀ fault, s.notice = .editFailed fault → m.stack.size = 0

section Selects

variable {m : Machine} {s : Session}

theorem Selects.size_eq (h : Selects m s) : s.machine.stack.size = m.stack.size := by
  obtain ⟨stack, hsize, hinitial⟩ := h.rooted.rewritten
  have hsame : s.initial.stack.size = s.machine.stack.size := h.ledger.initial_size
  change s.initial = _ at hinitial
  rw [← hsame, hinitial]
  exact hsize

theorem Selects.canEdit_iff (h : Selects m s) :
    s.CanEdit ↔ s.playing = false ∧ s.focus = .memory ∧ 0 < m.stack.size := by
  have hsize := h.size_eq
  have hselected := h.selected_le
  have hindex : s.selected < s.machine.stack.size ↔ 0 < m.stack.size := by omega
  rw [CanEdit, hindex]

theorem Selects.handle (h : Selects m s) (e : Event) : Selects m (s.handle e) := by
  have hsize := h.size_eq
  have hselected := h.selected_le
  obtain ⟨hledger, hrooted⟩ := preserved_along (P := fun c => c.Ledger ∧ c.Rooted m)
    (fun _ _ hmove hc => ⟨hc.1.move hmove, hc.2.move hmove hc.1⟩) (moves_handle s e) ⟨h.ledger, h.rooted⟩
  suffices hview : (s.handle e).selected ≤ m.stack.size - 1 ∧
      ∀ fault, (s.handle e).notice = .editFailed fault → m.stack.size = 0 from
    ⟨hledger, hrooted, hview.1, hview.2⟩
  by_cases hkind : e.kind = .edit
  · obtain ⟨c, hc, rfl⟩ := kind_eq_edit_iff.mp hkind
    simp only [Session.handle]
    by_cases hcan : s.CanEdit
    · obtain ⟨_, _, hpress⟩ := press_of_canEdit hcan hc
      rw [hpress]
      exact ⟨hselected, by simp [written]⟩
    · obtain ⟨notice, hpress, hrefuses⟩ := press_of_not_canEdit hcan hc
      rw [hpress]
      refine ⟨hselected, fun fault hfault => ?_⟩
      have hbeyond := hrefuses.2 fault hfault
      omega
  by_cases hup : e = .press .up
  · subst hup
    simp only [Session.handle, press, pressUp]
    split
    · exact ⟨hselected, h.refused⟩
    · exact ⟨Nat.le_trans (Nat.sub_le _ _) hselected, h.refused⟩
    · exact ⟨hselected, h.refused⟩
  by_cases hdown : e = .press .down
  · subst hdown
    simp only [Session.handle, press, pressDown]
    split
    · exact ⟨hselected, h.refused⟩
    · exact ⟨hsize ▸ Nat.min_le_right _ _, h.refused⟩
    · exact ⟨hselected, h.refused⟩
  have hsteady := steady_handle s hkind hup hdown
  exact ⟨hsteady.selected ▸ hselected, fun fault hfault => h.refused fault (hsteady.notice fault hfault)⟩

theorem Attainable.selects {g : Grid} {capacity : Nat} (h : Attainable g m capacity s) : Selects m s := by
  induction h with
  | start hfresh =>
      exact ⟨ledger_start g hfresh.steps_eq_zero capacity, rooted_start g m capacity, Nat.zero_le _, nofun⟩
  | handle _ e ih => exact ih.handle e
  | render _ width height ih => exact ⟨ih.ledger, ih.rooted, ih.selected_le, ih.refused⟩
  | addBreakpoint _ point ih =>
      unfold Session.addBreakpoint
      split
      · exact ih
      · exact ⟨ih.ledger, ih.rooted, ih.selected_le, ih.refused⟩

end Selects

theorem stepCount?_of_not_mem {c : Char} (hc : .char c ∉ programKeys) : stepCount? c = none := by
  unfold stepCount?
  split
  case isTrue hdigit =>
    obtain ⟨hlo, hhi⟩ := hdigit
    rw [Char.le_def, UInt32.le_iff_toNat_le] at hlo hhi
    have hcode : c = Char.ofNat c.val.toNat := (Char.ofNat_toNat c).symm
    generalize c.val.toNat = code at hcode hlo hhi
    subst hcode
    change 49 ≤ code at hlo
    change code ≤ 57 at hhi
    interval_cases code <;> exact absurd (by decide) hc
  case isFalse => rfl

theorem course_press_of_not_mem (s : Session) {key : Key} (hkey : key ∉ programKeys) :
    (s.press key).course = s.course := by
  cases key with
  | char c =>
      simp only [press, pressChar, stepCount?_of_not_mem hkey]
      split
      · rfl
      · rfl
      · exact absurd (by decide) hkey
      · exact absurd (by decide) hkey
      · exact absurd (by decide) hkey
      · exact absurd (by decide) hkey
      · exact absurd (by decide) hkey
      · exact (alike_toggleBreakpoint s).course_eq
      · unfold pressSpace
        split
        · exact course_togglePlay _
        · rfl
      · exact absurd (by decide) hkey
      · rfl
  | left | right | enter | backspace => exact absurd (by decide) hkey
  | up =>
      simp only [press, pressUp]
      split <;> rfl
  | down =>
      simp only [press, pressDown]
      split <;> rfl
  | tab | backTab | other => rfl

-- Wherever a session is led, its memory keeps its size and the selection is one of its cells, if
-- it has any. A key for memory writes exactly if the program is paused, the memory has the focus
-- and there is a cell; it touches that cell, what a reset goes back to, the fault and the notice,
-- and nothing else. So an edit fails for want of a cell only in an empty memory. Keys for the
-- screen leave the program and its past alone.
theorem memory_edits_gated_and_local {g : Grid} {m : Machine} {capacity : Nat} {s : Session}
    (h : Attainable g m capacity s) :
    (s.machine.stack.size = m.stack.size ∧
      (s.selected < m.stack.size ∨ (m.stack.size = 0 ∧ s.selected = 0))) ∧
    (∀ c ∈ editChars,
      let t := s.press (.char c)
      (t.machine ≠ s.machine ↔
        s.playing = false ∧ s.focus = .memory ∧ 0 < m.stack.size ∧
          ∃ old new, s.machine.stack[s.selected]? = some old ∧ Wraps new (editResult c old.toInt) ∧
            new ≠ old) ∧
      (t.machine ≠ s.machine →
        ∃ old new, s.machine.stack[s.selected]? = some old ∧ Wraps new (editResult c old.toInt) ∧
          t.machine = { s.machine with stack := s.machine.stack.setIfInBounds s.selected new }) ∧
      t = { s with machine := t.machine, initial := t.initial, fault := t.fault, notice := t.notice }) ∧
    (∀ fault, s.notice = .editFailed fault → m.stack.size = 0) ∧
    ∀ key ∉ programKeys,
      let t := s.press key
      t.machine = s.machine ∧ t.history = s.history ∧ t.output = s.output ∧ t.initial = s.initial := by
  have hselects := h.selects
  have hselected := hselects.selected_le
  refine ⟨⟨hselects.size_eq, by omega⟩, ?_, hselects.refused, ?_⟩
  · intro c hc t
    refine ⟨?_, ?_, press_of_mem_editChars s hc⟩
    · rw [press_ne_iff hc, hselects.canEdit_iff]
      simp only [and_assoc]
    · intro hne
      obtain ⟨old, hold, hpress⟩ := press_of_canEdit (canEdit_of_press_ne hc hne) hc
      exact ⟨old, editValue c old, hold, wraps_editValue hc old, congrArg Session.machine hpress⟩
  · intro key hkey t
    have hcourse := course_press_of_not_mem s hkey
    exact ⟨congrArg Course.machine hcourse, congrArg Course.history hcourse,
      congrArg Course.output hcourse, congrArg Course.initial hcourse⟩

-- The least word is counted down in the second of two cells of a session that was drawn, and
-- not while the program is played. In an empty memory the edit itself fails.
theorem memory_edits_gated_and_local_least :
    let g : Grid := ⟨1, 2, #[.print, .exit], rfl⟩
    let m : Machine := { Machine.start 2 Point.zero with stack := #[0, Int32.minValue] }
    let s := (((start g m 4).handleAll [.press .tab, .press .down]).render 40 12).2
    let played := s.handle .togglePlay
    let bare := (start g (Machine.start 0 Point.zero) 4).handleAll [.press .tab, .press (.char '0')]
    Attainable g m 4 s ∧ s.selected = 1 ∧ (s.press (.char '-')).machine ≠ s.machine ∧
      (s.press (.char '-')).machine.stack = #[0, Int32.maxValue] ∧
      (s.press (.char '-')).history = s.history ∧
      Attainable g m 4 played ∧ (played.press (.char '-')).machine = played.machine ∧
      bare.notice = .editFailed (.noSuchCell 0 0) ∧ (Machine.start 0 Point.zero).stack.size = 0 := by
  intro g m s played bare
  have hs : Attainable g m 4 s :=
    ((Reachable.start ⟨2, Point.zero, [⟨1, Int32.minValue⟩], rfl⟩).handleAll _).attainable.render 40 12
  have hplayed : Attainable g m 4 played := hs.handle .togglePlay
  have hbare : Attainable g (Machine.start 0 Point.zero) 4 bare :=
    ((Reachable.start ⟨0, Point.zero, [], rfl⟩).handleAll _).attainable
  have hplaying : played.playing = true := by decide +kernel
  have hnotice : bare.notice = .editFailed (.noSuchCell 0 0) := by decide +kernel
  have hold : s.machine.stack[s.selected]? = some Int32.minValue := by decide +kernel
  obtain ⟨_, hedits, _⟩ := memory_edits_gated_and_local hs
  obtain ⟨hiff, _, hframe⟩ := hedits '-' (by decide)
  have hne : (s.press (.char '-')).machine ≠ s.machine :=
    hiff.mpr ⟨by decide +kernel, by decide +kernel, by decide, Int32.minValue, Int32.maxValue, hold,
      ⟨by decide, by decide⟩, by decide⟩
  have hhistory : (s.press (.char '-')).history = s.history := by rw [hframe]
  obtain ⟨_, hrefused, _⟩ := memory_edits_gated_and_local hplayed
  have hsame : (played.press (.char '-')).machine = played.machine := by
    by_contra hchanged
    have hpaused := ((hrefused '-' (by decide)).1.mp hchanged).1
    rw [hplaying] at hpaused
    cases hpaused
  obtain ⟨_, _, hempty, _⟩ := memory_edits_gated_and_local hbare
  exact ⟨hs, by decide +kernel, hne, by decide +kernel, hhistory, hplayed, hsame, hnotice,
    hempty _ hnotice⟩

end Session

end GridWalk
