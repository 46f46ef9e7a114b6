import GridWalk.Proofs.Session.Forward

namespace GridWalk.Session

-- A session that is the same but for its history.
def withHistory (s : Session) (past : History Snapshot) : Session := { s with history := past }

section WithHistory

variable (s : Session) (past : History Snapshot)

theorem executed_withHistory (i : Instruction) (next : Machine) :
    (s.withHistory past).executed i next = (s.executed i next).withHistory (past.push s.snapshot) := by
  by_cases hprint : i = .print <;> simp [executed, withHistory, hprint, logPrint, snapshot]

theorem togglePlay_withHistory : (s.withHistory past).togglePlay = s.togglePlay.withHistory past := by
  cases hplaying : s.playing with
  | true => simp [togglePlay, withHistory, hplaying, pause, tell]
  | false =>
      cases hfault : s.fault with
      | some fault => simp [togglePlay, withHistory, hplaying, hfault, tell]
      | none =>
          cases hhalt : s.machine.halt? s.grid <;>
            simp [togglePlay, withHistory, hplaying, hfault, hhalt, tell]

theorem toggleBreakpoint_withHistory :
    (s.withHistory past).toggleBreakpoint = s.toggleBreakpoint.withHistory past := by
  by_cases hon : s.machine.cursor ∈ s.grid
  · by_cases hset : s.machine.cursor ∈ s.breakpoints
    · simp only [toggleBreakpoint, withHistory, hon, hset, not_true, if_true, if_false]
      rfl
    · simp only [toggleBreakpoint, withHistory, hon, hset, not_true, if_false]
  · simp [toggleBreakpoint, withHistory, hon, tell]

theorem pressSpace_withHistory : (s.withHistory past).pressSpace = s.pressSpace.withHistory past := by
  by_cases hheld : debounceMs ≤ s.sinceSpaceMs
  · have htoggle := togglePlay_withHistory { s with sinceSpaceMs := 0 } past
    simpa [pressSpace, withHistory, hheld] using htoggle
  · simp [pressSpace, withHistory, hheld]

theorem pressUp_withHistory : (s.withHistory past).pressUp = s.pressUp.withHistory past := by
  cases hfocus : s.focus <;> simp [pressUp, withHistory, hfocus]

theorem pressDown_withHistory : (s.withHistory past).pressDown = s.pressDown.withHistory past := by
  cases hfocus : s.focus <;> simp [pressDown, withHistory, hfocus]

-- A write looks whether the history is empty, but only before the first step.
theorem writeSelected_withHistory {s : Session} {past : History Snapshot} (value : Int32)
    (hempty : s.machine.steps = 0 → past.isEmpty = s.history.isEmpty) :
    (s.withHistory past).writeSelected value = (s.writeSelected value).withHistory past := by
  cases hplaying : s.playing with
  | true => simp [writeSelected, withHistory, hplaying, tell]
  | false =>
      by_cases hfocus : s.focus = .memory
      · cases hstore : s.machine.store s.selected value with
        | error fault => simp [writeSelected, withHistory, hplaying, hfocus, hstore, tell]
        | ok m =>
            obtain ⟨stack, _, rfl⟩ := Machine.exists_stack_of_store hstore
            by_cases hsteps : s.machine.steps = 0
            · simp [writeSelected, withHistory, hplaying, hfocus, hstore, hempty hsteps]
            · simp [writeSelected, withHistory, hplaying, hfocus, hstore, hsteps]
      · simp [writeSelected, withHistory, hplaying, hfocus, tell]

theorem changeSelected_withHistory {s : Session} {past : History Snapshot} (delta : Int32)
    (hempty : s.machine.steps = 0 → past.isEmpty = s.history.isEmpty) :
    (s.withHistory past).changeSelected delta = (s.changeSelected delta).withHistory past := by
  cases hcell : s.machine.stack[s.selected]? with
  | none => simp [changeSelected, withHistory, hcell, tell]
  | some value =>
      have hwrite := writeSelected_withHistory (value + delta) hempty
      simpa [changeSelected, withHistory, hcell] using hwrite

end WithHistory

-- The same session with a history that may go back further.
inductive Widened (s : Session) : Session → Prop where
  | mk (past : History Snapshot) (h : s.history.Within past) : Widened s (s.withHistory past)

section Acts

variable {s t : Session}

-- A change that does the same whatever the history leaves it alone.
theorem Widened.map {f : Session → Session} (h : Widened s t)
    (hf : ∀ past, s.history.Within past → f (s.withHistory past) = (f s).withHistory past) :
    Widened (f s) (f t) := by
  obtain ⟨past, hwithin⟩ := h
  have hsame : f s = (f s).withHistory s.history := hf s.history hwithin.refl_left
  have hkept : (f s).history = s.history := by
    rw [hsame]
    rfl
  rw [hf past hwithin]
  exact .mk past (hkept ▸ hwithin)

theorem Widened.machine_eq (h : Widened s t) : t.machine = s.machine := by
  cases h
  rfl

theorem Widened.grid_eq (h : Widened s t) : t.grid = s.grid := by
  cases h
  rfl

theorem Widened.breakpoints_eq (h : Widened s t) : t.breakpoints = s.breakpoints := by
  cases h
  rfl

theorem Widened.fault_eq (h : Widened s t) : t.fault = s.fault := by
  cases h
  rfl

theorem Widened.tell (h : Widened s t) (notice : Notice) : Widened (s.tell notice) (t.tell notice) :=
  h.map (f := (·.tell notice)) fun _ _ => rfl

theorem Widened.pause (h : Widened s t) : Widened s.pause t.pause :=
  h.map (f := Session.pause) fun _ _ => rfl

theorem Widened.reset (h : Widened s t) : Widened s.reset t.reset := by
  obtain ⟨past, hwithin⟩ := h
  exact .mk _ hwithin.clear

theorem Widened.stepForward (h : Widened s t) :
    ∃ goes after after', s.stepForward = (goes, after) ∧ t.stepForward = (goes, after') ∧
      Widened after after' := by
  obtain ⟨past, hwithin⟩ := h
  have hnew : (s.history.push s.snapshot).Within (past.push s.snapshot) := hwithin.push s.snapshot
  rcases hforward : s.stepForward with ⟨goes, after⟩
  cases stepForward_eq_iff.mp hforward with
  | blocked hfault =>
      exact ⟨_, _, _, rfl, stepForward_eq_iff.mpr (.blocked hfault), Widened.tell (.mk past hwithin) _⟩
  | continued hfault hstep =>
      refine ⟨_, _, _, rfl, stepForward_eq_iff.mpr (.continued hfault hstep), ?_⟩
      rw [executed_withHistory]
      exact .mk _ (by rw [executed_history]; exact hnew)
  | @halted reason next hfault hstep =>
      refine ⟨_, _, _, rfl, stepForward_eq_iff.mpr (.halted hfault hstep), ?_⟩
      have hpast : History.Within (if s.machine = next then s.history else s.history.push s.snapshot)
          (if s.machine = next then past else past.push s.snapshot) := by
        split
        · exact hwithin
        · exact hnew
      exact .mk _ hpast
  | faulted hfault hstep =>
      refine ⟨_, _, _, rfl, stepForward_eq_iff.mpr (.faulted hfault hstep), ?_⟩
      exact .mk past hwithin

theorem Widened.stepBackward (h : Widened s t) (hsome : s.history.isEmpty = false) :
    Widened s.stepBackward t.stepBackward := by
  obtain ⟨past, hwithin⟩ := h
  cases hpop : s.history.pop? with
  | none =>
      rw [(History.isEmpty_iff _).mpr ((History.pop?_eq_none_iff _).mp hpop)] at hsome
      cases hsome
  | some popped =>
      obtain ⟨before, rest⟩ := popped
      obtain ⟨rest', hpop', hrest⟩ := hwithin.pop? hpop
      simp only [Session.stepBackward, withHistory, hpop, hpop']
      exact .mk rest' hrest

theorem Widened.stepUpTo (h : Widened s t) (count done : Nat) :
    ∃ number after after', stepUpTo count done s = (number, after) ∧
      stepUpTo count done t = (number, after') ∧ Widened after after' := by
  induction count generalizing done s t with
  | zero => exact ⟨done, s, t, rfl, rfl, h⟩
  | succ count ih =>
      obtain ⟨goes, after, after', hstep, hstep', hafter⟩ := h.stepForward
      cases goes with
      | true =>
          simp only [Session.stepUpTo, hstep, hstep']
          exact ih hafter (done + 1)
      | false =>
          simp only [Session.stepUpTo, hstep, hstep']
          exact ⟨done, after, after', rfl, rfl, hafter⟩

theorem Widened.runOn (h : Widened s t) (limit left : Nat) :
    Widened (runOn limit left s) (runOn limit left t) := by
  induction left generalizing s t with
  | zero => exact h.tell _
  | succ left ih =>
      obtain ⟨goes, after, after', hstep, hstep', hafter⟩ := h.stepForward
      cases goes with
      | false =>
          simp only [Session.runOn, hstep, hstep']
          exact hafter
      | true =>
          simp only [Session.runOn, hstep, hstep', hafter.machine_eq, hafter.breakpoints_eq]
          split
          · exact hafter.tell _
          · exact ih hafter

theorem Widened.playTick (h : Widened s t) : Widened s.playTick t.playTick := by
  obtain ⟨goes, after, after', hstep, hstep', hafter⟩ := h.stepForward
  cases goes with
  | false =>
      simp only [Session.playTick, hstep, hstep']
      exact hafter.pause
  | true =>
      simp only [Session.playTick, hstep, hstep', hafter.machine_eq, hafter.breakpoints_eq]
      split
      · exact hafter.pause.tell _
      · exact hafter.tell _

theorem Widened.pressDigit (h : Widened s t) (count : Nat) :
    Widened (s.pressDigit count) (t.pressDigit count) := by
  obtain ⟨number, after, after', hsteps, hsteps', hafter⟩ := h.pause.stepUpTo count 0
  simp only [Session.pressDigit, hsteps, hsteps', hafter.machine_eq, hafter.fault_eq, hafter.grid_eq]
  split
  · exact hafter.tell _
  · exact hafter

end Acts

section Events

variable {s t : Session}

-- Before the first step nothing was pushed, so no history holds anything.
theorem isEmpty_of_within {past : History Snapshot} (hledger : s.course.Ledger)
    (hwithin : s.history.Within past) (hsteps : s.machine.steps = 0) :
    past.isEmpty = s.history.isEmpty := by
  have hcounted : s.machine.steps = s.history.length + s.history.dropped := hledger.steps_eq
  have htotal := hwithin.total
  have hlength : s.history.length = 0 := by omega
  have hlength' : past.length = 0 := by omega
  simp [History.isEmpty, hlength, hlength']

theorem Widened.writeSelected (h : Widened s t) (hledger : s.course.Ledger) (value : Int32) :
    Widened (s.writeSelected value) (t.writeSelected value) :=
  h.map (f := (·.writeSelected value)) fun _ hwithin =>
    writeSelected_withHistory value (isEmpty_of_within hledger hwithin)

theorem Widened.changeSelected (h : Widened s t) (hledger : s.course.Ledger) (delta : Int32) :
    Widened (s.changeSelected delta) (t.changeSelected delta) :=
  h.map (f := (·.changeSelected delta)) fun _ hwithin =>
    changeSelected_withHistory delta (isEmpty_of_within hledger hwithin)

theorem Widened.stepForward_snd (h : Widened s t) : Widened s.stepForward.2 t.stepForward.2 := by
  obtain ⟨goes, after, after', hstep, hstep', hafter⟩ := h.stepForward
  rw [hstep, hstep']
  exact hafter

theorem Widened.pressChar (h : Widened s t) (hledger : s.course.Ledger) (c : Char) :
    Widened (s.pressChar c) (t.pressChar c) := by
  unfold Session.pressChar
  split
  · exact h.pressDigit _
  · split
    · exact h.map (f := fun s => { s with quitting := true }) fun _ _ => rfl
    · exact h.map (f := fun s => { s with quitting := true }) fun _ _ => rfl
    · exact h.pause.stepForward_snd
    · exact h.changeSelected hledger 1
    · exact h.changeSelected hledger 1
    · exact h.changeSelected hledger (-1)
    · exact h.writeSelected hledger 0
    · exact h.map fun past _ => toggleBreakpoint_withHistory s past
    · exact h.map fun past _ => pressSpace_withHistory s past
    · exact h.reset
    · exact h

theorem Widened.press (h : Widened s t) (hledger : s.course.Ledger) (key : Key)
    (hback : key.kind = .back → s.history.isEmpty = false) : Widened (s.press key) (t.press key) := by
  cases key with
  | char c => exact h.pressChar hledger c
  | left => exact h.pause.stepBackward (hback rfl)
  | right => exact h.pause.stepForward_snd
  | up => exact h.map fun past _ => pressUp_withHistory s past
  | down => exact h.map fun past _ => pressDown_withHistory s past
  | tab => exact h.map (f := fun s => { s with focus := s.focus.next }) fun _ _ => rfl
  | backTab => exact h.map (f := fun s => { s with focus := s.focus.previous }) fun _ _ => rfl
  | enter => exact h.pause.runOn runLimit runLimit
  | backspace => exact h.reset
  | other => exact h

theorem Widened.handle (h : Widened s t) (hledger : s.course.Ledger) (e : Event)
    (hback : e.kind = .back → s.history.isEmpty = false) : Widened (s.handle e) (t.handle e) := by
  cases e with
  | press key => exact h.press hledger key hback
  | togglePlay => exact h.map fun past _ => togglePlay_withHistory s past
  | playTick => exact h.playTick
  | stepForward => exact h.stepForward_snd
  | stepBackward => exact h.stepBackward (hback rfl)
  | runToEnd => exact h.runOn runLimit runLimit
  | reset => exact h.reset
  | toggleBreakpoint => exact h.map fun past _ => toggleBreakpoint_withHistory s past
  | wait ms =>
      exact h.map (f := fun s => { s with sinceSpaceMs := s.sinceSpaceMs + ms }) fun _ _ => rfl

end Events

-- Every step back among the events finds a step that can be taken back.
def RemembersBack (s : Session) : List Event → Prop
  | [] => True
  | e :: rest => (e.kind = .back → s.history.isEmpty = false) ∧ (s.handle e).RemembersBack rest

instance decidableRemembersBack : (s : Session) → (events : List Event) →
    Decidable (s.RemembersBack events)
  | _, [] => inferInstanceAs (Decidable True)
  | s, e :: rest =>
      have := decidableRemembersBack (s.handle e) rest
      inferInstanceAs (Decidable (_ ∧ _))

theorem RemembersBack.of_prefix {s : Session} {done events : List Event} (hdone : done <+: events)
    (h : s.RemembersBack events) : s.RemembersBack done := by
  induction done generalizing s events with
  | nil => trivial
  | cons e rest ih =>
      obtain ⟨later, rfl⟩ := hdone
      exact ⟨h.1, ih (List.prefix_append rest later) h.2⟩

theorem Widened.handleAll {s t : Session} (h : Widened s t) (hledger : s.course.Ledger)
    {events : List Event} (hback : s.RemembersBack events) :
    Widened (s.handleAll events) (t.handleAll events) := by
  induction events generalizing s t with
  | nil => exact h
  | cons e rest ih =>
      obtain ⟨hfirst, hrest⟩ := hback
      exact ih (h.handle hledger e hfirst) (ledger_handle hledger e) hrest

-- The capacity of the history bounds how far one can go back and nothing else. As
-- long as the smaller history is not asked for what it gave up, the two sessions
-- differ only in their histories, and the smaller one is the end of the other.
theorem capacity_only_limits_undo {m : Machine} (hfresh : m.Fresh) (g : Grid) {capacity more : Nat}
    (hle : capacity ≤ more) (events : List Event)
    (hback : (start g m capacity).RemembersBack events) :
    ∀ done, done <+: events →
      let s := (start g m capacity).handleAll done
      let t := (start g m more).handleAll done
      t = s.withHistory t.history ∧
      s.history.toList <:+ t.history.toList ∧
      s.history.length + s.history.dropped = t.history.length + t.history.dropped := by
  intro done hdone s t
  have hstart : Widened (start g m capacity) (start g m more) := .mk _ (History.within_empty hle)
  have hledger := ledger_start g hfresh.steps_eq_zero capacity
  have hwidened : Widened s t := hstart.handleAll hledger (hback.of_prefix hdone)
  generalize t = u at hwidened
  obtain ⟨past, hwithin⟩ := hwidened
  exact ⟨rfl, hwithin.suffix, hwithin.total⟩

-- Memory is written before the first step, a step is taken back, and the smaller
-- history has given up all but one snapshot at the end.
theorem capacity_only_limits_undo_evicting :
    let g : Grid := ⟨1, 4, #[.increment, .print, .increment, .exit], rfl⟩
    let m := Machine.start 2 Point.zero
    let events : List Event := [.press .tab, .press (.char '+'), .press (.char '3'), .press .left,
      .press .enter]
    let s := (start g m 1).handleAll events
    let t := (start g m 3).handleAll events
    m.Fresh ∧ (start g m 1).RemembersBack events ∧ s.initial.stack = #[1, 0] ∧
      s.history.length = 1 ∧ s.history.dropped = 3 ∧ t.history.length = 3 ∧ t.history.dropped = 1 ∧
      t = s.withHistory t.history ∧ s.history.toList <:+ t.history.toList := by
  intro g m events s t
  have hfresh : m.Fresh := ⟨2, Point.zero, [], rfl⟩
  have hback : (start g m 1).RemembersBack events := by decide +kernel
  have hle : 1 ≤ 3 := by decide
  obtain ⟨hsame, hsuffix, _⟩ :=
    capacity_only_limits_undo hfresh g hle events hback events List.prefix_rfl
  exact ⟨hfresh, hback, by decide +kernel, by decide +kernel, by decide +kernel, by decide +kernel,
    by decide +kernel, hsame, hsuffix⟩

end GridWalk.Session
