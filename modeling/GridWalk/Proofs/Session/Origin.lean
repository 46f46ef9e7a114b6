import GridWalk.Proofs.Session.Undo

namespace GridWalk

-- The same machine, but for the values in its memory.
def Machine.Rewritten (m n : Machine) : Prop :=
  ∃ stack, stack.size = m.stack.size ∧ n = { m with stack := stack }

namespace Machine

theorem Rewritten.refl (m : Machine) : m.Rewritten m := ⟨m.stack, rfl, rfl⟩

theorem Rewritten.trans {m n k : Machine} (hmn : m.Rewritten n) (hnk : n.Rewritten k) :
    m.Rewritten k := by
  obtain ⟨stack, hsize, rfl⟩ := hmn
  obtain ⟨final, hfinal, rfl⟩ := hnk
  exact ⟨final, hfinal.trans hsize, rfl⟩

theorem Fresh.rewritten_start {m : Machine} (h : m.Fresh) :
    (start m.stack.size m.cursor).Rewritten m := by
  obtain ⟨size, point, presets, hpreset⟩ := h
  obtain ⟨stack, hsize, rfl⟩ := exists_stack_of_preset hpreset
  exact ⟨stack, by simp [start], rfl⟩

end Machine

namespace History

variable {α : Type}

theorem toList_eq_nil_iff (h : History α) : h.toList = [] ↔ h.length = 0 := by
  rw [← length_toList, List.length_eq_zero_iff]

-- What lies in the array without being kept was counted as given up.
theorem oldest_le_dropped_push {h : History α} (a : α) (hle : h.oldest ≤ h.dropped) :
    (h.push a).oldest ≤ (h.push a).dropped := by
  unfold push
  split
  · exact Nat.le_succ_of_le hle
  · split
    · exact hle
    · unfold sweep
      split
      · exact Nat.zero_le _
      · exact Nat.succ_le_succ hle

theorem oldest_of_pop? {h rest : History α} {a : α} (hpop : h.pop? = some (a, rest)) :
    rest.oldest = h.oldest := by
  unfold pop? at hpop
  split at hpop
  · cases hpop; rfl
  · cases hpop

theorem eq_empty {h : History α} (hlist : h.toList = []) (hdropped : h.dropped = 0)
    (hle : h.oldest ≤ h.dropped) : h = empty h.capacity := by
  obtain ⟨capacity, entries, oldest, dropped, _⟩ := h
  simp only at hdropped hle
  subst hdropped
  obtain rfl : oldest = 0 := Nat.le_zero.mp hle
  have hentries : entries = #[] := by simpa [toList] using hlist
  subst hentries
  rfl

end History

theorem OutputLog.eq_empty {log : OutputLog} (h : log.length = 0) : log = empty :=
  congrArg OutputLog.mk (Array.size_eq_zero_iff.mp h)

namespace Course

theorem Ledger.toList_eq_nil {c : Course} (h : c.Ledger) (hsteps : c.machine.steps = 0) :
    c.history.toList = [] := by
  have hcount := h.steps_eq
  rw [History.toList_eq_nil_iff]
  omega

-- How the initial machine fits the past. As long as no snapshot was given up,
-- the past begins with it.
structure Rooted (origin : Machine) (c : Course) : Prop where
  rewritten : origin.Rewritten c.initial
  first : c.history.dropped = 0 → (c.history.toList ++ [c.present]).head? = some ⟨c.initial, 0⟩
  oldest_le : c.history.oldest ≤ c.history.dropped

theorem Rooted.present_eq {origin : Machine} {c : Course} (h : c.Rooted origin) (hledger : c.Ledger)
    (hsteps : c.machine.steps = 0) : c.present = ⟨c.initial, 0⟩ := by
  have hcount := hledger.steps_eq
  have hfirst := h.first (by omega)
  simpa [hledger.toList_eq_nil hsteps] using hfirst

theorem Rooted.execute {origin : Machine} {c : Course} (h : c.Rooted origin) (hledger : c.Ledger)
    (i : Instruction) (next : Machine) : (c.execute i next).Rooted origin := by
  have hdropped := History.dropped_push c.history c.present hledger.length_le
  constructor
  case rewritten => exact h.rewritten
  case first =>
    intro hnone
    change (c.history.push c.present).dropped = 0 at hnone
    have hover : c.history.overflow = 0 := by omega
    have hlist : (c.execute i next).history.toList = c.history.toList ++ [c.present] := by
      have hpush := History.toList_push c.history c.present hledger.length_le
      rwa [hover, List.drop_zero] at hpush
    rw [hlist, List.head?_append, h.first (by omega)]
    rfl
  case oldest_le => exact History.oldest_le_dropped_push c.present h.oldest_le

theorem Rooted.undo {origin : Machine} {c : Course} (h : c.Rooted origin) (hledger : c.Ledger)
    {before : Snapshot} {rest : History Snapshot} (hpop : c.history.pop? = some (before, rest)) :
    (c.undo before rest).Rooted origin := by
  have hlist : c.history.toList = rest.toList ++ [before] := History.toList_of_pop? hpop
  have hdropped := History.dropped_of_pop? hpop
  have holdest := History.oldest_of_pop? hpop
  -- the output is cut to the length that the snapshot remembers
  have hpresent : (c.undo before rest).present = before := by
    have hlogged := hledger.logged before (by simp [hlist])
    have hcut : before.outputLength ≤ c.output.length := by
      rw [hlogged]
      simpa [OutputLog.printedBy, OutputLog.length] using
        List.countP_le_length (l := c.output.lines.toList)
    simp only [OutputLog.length] at hcut
    simp [present, Course.undo, OutputLog.truncate, OutputLog.length, Nat.min_eq_left hcut]
  constructor
  case rewritten => exact h.rewritten
  case first =>
    intro hnone
    change rest.dropped = 0 at hnone
    have hfirst := h.first (hdropped ▸ hnone)
    rw [hpresent]
    rw [hlist, List.append_assoc, List.head?_append] at hfirst
    simpa [List.head?_append, Course.undo] using hfirst
  case oldest_le =>
    change rest.oldest ≤ rest.dropped
    rw [holdest, hdropped]
    exact h.oldest_le

theorem Rooted.reset {origin : Machine} {c : Course} (h : c.Rooted origin) : c.reset.Rooted origin where
  rewritten := h.rewritten
  first _ := rfl
  oldest_le := Nat.le_refl 0

-- A write before the first step moves the present and the initial machine
-- together. One after it finds the initial machine already in the past.
theorem Rooted.edit {origin : Machine} {c : Course} (h : c.Rooted origin) (hledger : c.Ledger)
    {index : Nat} {value : Int32} {m : Machine} (hstore : c.machine.store index value = .ok m) :
    (c.edit m).Rooted origin := by
  have hwritten : c.machine.Rewritten m := Machine.exists_stack_of_store hstore
  have hsteps : m.steps = c.machine.steps := by
    obtain ⟨stack, _, rfl⟩ := hwritten
    rfl
  by_cases hzero : c.machine.steps = 0
  · have hpresent := h.present_eq hledger hzero
    have hmachine : c.machine = c.initial := congrArg Snapshot.machine hpresent
    have houtput : c.output.length = 0 := congrArg Snapshot.outputLength hpresent
    have hempty := hledger.toList_eq_nil hzero
    have hinitial : (c.edit m).initial = m := by
      simp [Course.edit, hsteps, hzero, (History.isEmpty_iff _).mpr hempty]
    constructor
    case rewritten =>
      rw [hinitial]
      exact h.rewritten.trans (hmachine ▸ hwritten)
    case first =>
      intro _
      rw [hinitial]
      simp [Course.edit, present, hempty, houtput]
    case oldest_le => exact h.oldest_le
  · have hinitial : (c.edit m).initial = c.initial := by
      simp [Course.edit, hsteps, hzero]
    constructor
    case rewritten =>
      rw [hinitial]
      exact h.rewritten
    case first =>
      intro hnone
      change c.history.dropped = 0 at hnone
      have hcount := hledger.steps_eq
      have hfirst := h.first hnone
      rw [hinitial]
      change (c.history.toList ++ [(c.edit m).present]).head? = _
      cases hlist : c.history.toList with
      | nil =>
          have hlength : c.history.length = 0 := (History.toList_eq_nil_iff _).mp hlist
          omega
      | cons oldest later =>
          rw [hlist] at hfirst
          exact hfirst
    case oldest_le => exact h.oldest_le

theorem Rooted.move {origin : Machine} {kind : Event.Kind} {c d : Course} (hmove : Move kind c d)
    (hledger : c.Ledger) (h : c.Rooted origin) : d.Rooted origin := by
  cases hmove with
  | execute => exact h.execute hledger _ _
  | undo hpop => exact h.undo hledger hpop
  | reset => exact h.reset
  | edit hstore => exact h.edit hledger hstore

end Course

namespace Session

theorem rooted_start (g : Grid) (m : Machine) (capacity : Nat) :
    (start g m capacity).course.Rooted m where
  rewritten := .refl m
  first _ := rfl
  oldest_le := Nat.le_refl 0

section Reachable

variable {g : Grid} {m : Machine} {capacity : Nat} {s : Session}

theorem Reachable.fresh (h : Reachable g m capacity s) : m.Fresh := by
  induction h with
  | start hfresh => exact hfresh
  | handle _ _ ih => exact ih

theorem Reachable.rooted (h : Reachable g m capacity s) : s.course.Rooted m := by
  have hboth := h.course_induction (P := fun c => c.Ledger ∧ c.Rooted m)
    (fun hfresh => ⟨ledger_start g hfresh.steps_eq_zero capacity, rooted_start g m capacity⟩)
    (fun _ _ _ hmove hc => ⟨hc.1.move hmove, hc.2.move hmove hc.1⟩)
  exact hboth.2

theorem Reachable.stepBackward_iterate (h : Reachable g m capacity s) (count : Nat) :
    Reachable g m capacity (stepBackward^[count] s) := by
  induction count generalizing s with
  | zero => exact h
  | succ count ih => exact ih (h.handle .stepBackward)

-- With nothing given up, the whole past can be taken back: what is left is the
-- initial machine, no output and no history.
theorem Reachable.stepBackward_all (h : Reachable g m capacity s) (hdropped : s.history.dropped = 0) :
    let back := stepBackward^[s.history.length] s
    back.machine = s.initial ∧ back.output = OutputLog.empty ∧
    back.history = History.empty capacity ∧ (s.history.length ≠ 0 → back.fault = none) := by
  intro back
  have hfirst := h.rooted.first hdropped
  have hback : Reachable g m capacity back := h.stepBackward_iterate _
  have hempty : ∀ (hlist : back.history.toList = []) (hnone : back.history.dropped = 0),
      back.history = History.empty capacity := by
    intro hlist hnone
    rw [← hback.capacity_eq]
    exact History.eq_empty hlist hnone hback.rooted.oldest_le
  cases hlist : s.history.toList with
  | nil =>
      have hlength : s.history.length = 0 := (History.toList_eq_nil_iff _).mp hlist
      have hsame : back = s := by simp only [back, hlength, Function.iterate_zero, id_eq]
      change (s.history.toList ++ [s.course.present]).head? = _ at hfirst
      rw [hlist] at hfirst
      have hpresent : s.course.present = ⟨s.initial, 0⟩ := Option.some_inj.mp hfirst
      have houtput : s.output = OutputLog.empty :=
        OutputLog.eq_empty (congrArg Snapshot.outputLength hpresent)
      refine ⟨?_, ?_, hempty (by rw [hsame]; exact hlist) (by rw [hsame]; exact hdropped), ?_⟩
      · rw [hsame]
        exact congrArg Snapshot.machine hpresent
      · rw [hsame]
        exact houtput
      · exact fun hne => absurd hlength hne
  | cons oldest later =>
      change (s.history.toList ++ [s.course.present]).head? = _ at hfirst
      rw [hlist] at hfirst
      obtain rfl : oldest = ⟨s.initial, 0⟩ := Option.some_inj.mp hfirst
      have hwhole : s.history.toList = [] ++ ⟨s.initial, 0⟩ :: later := hlist
      obtain ⟨hmachine, houtput, hfault, hkept, hdrops, _⟩ :=
        Session.stepBackward_iterate hwhole rfl (fun _ _ => Nat.zero_le _)
      rw [← hlist, History.length_toList] at hmachine houtput hfault hkept hdrops
      have hlines : back.output.lines.toList = [] := by simpa using houtput
      refine ⟨hmachine, ?_, hempty hkept (hdrops.trans hdropped), fun _ => hfault⟩
      exact congrArg OutputLog.mk (Array.toList_eq_nil_iff.mp hlines)

-- The machine that a reset goes back to is the one of the start, with the memory
-- written since. It is shown whenever no step is counted, and stepping back
-- through a history that is still whole ends where a reset does.
theorem stepBackward_all_agrees_with_reset (h : Reachable g m capacity s) :
    (s.initial = { m with stack := s.initial.stack } ∧ s.initial.stack.size = m.stack.size ∧
      s.initial.facing = .down ∧ s.initial.accumulator = 0 ∧ s.initial.pointer = 0 ∧
      s.initial.steps = 0 ∧ s.initial.flag = false ∧ s.initial.exited = false) ∧
    (s.machine.steps = 0 → s.machine = s.initial ∧ s.output = OutputLog.empty) ∧
    (s.history.dropped = 0 →
      let back := stepBackward^[s.history.length] s
      back.machine = s.reset.machine ∧
      (back.output = s.reset.output ∧ s.reset.output = OutputLog.empty) ∧
      (back.history = s.reset.history ∧ s.reset.history = History.empty capacity) ∧
      (s.history.length ≠ 0 → back.fault = none)) := by
  refine ⟨?_, ?_, ?_⟩
  · obtain ⟨stack, hsize, hinitial⟩ := h.rooted.rewritten
    change s.initial = _ at hinitial
    obtain ⟨_, _, hm⟩ := h.fresh.rewritten_start
    rw [hinitial]
    refine ⟨rfl, hsize, ?_⟩
    rw [hm]
    exact ⟨rfl, rfl, rfl, rfl, rfl, rfl⟩
  · intro hsteps
    have hpresent := h.rooted.present_eq h.ledger hsteps
    exact ⟨congrArg Snapshot.machine hpresent,
      OutputLog.eq_empty (congrArg Snapshot.outputLength hpresent)⟩
  · intro hdropped back
    obtain ⟨hmachine, houtput, hhistory, hfault⟩ := h.stepBackward_all hdropped
    have hcleared : s.reset.history = History.empty capacity := by
      rw [← h.capacity_eq]
      rfl
    exact ⟨hmachine, ⟨houtput, rfl⟩, ⟨hhistory.trans hcleared.symm, hcleared⟩, hfault⟩

end Reachable

-- Memory is written before the first step and again in the middle, where the
-- program then faults. The write before the first step outlives the way back.
theorem stepBackward_all_agrees_with_reset_faulted :
    let g : Grid := ⟨1, 4, #[.increment, .print, .div, .exit], rfl⟩
    let m : Machine := { Machine.start 2 Point.zero with stack := #[0, 5] }
    let s := (start g m 3).handleAll [.press .tab, .press (.char '+'), .press (.char '2'),
      .press (.char '-'), .press .enter]
    let back := stepBackward^[s.history.length] s
    Reachable g m 3 s ∧ s.fault = some (.divisionByZero ⟨0, 2⟩) ∧ s.history.dropped = 0 ∧
      s.history.length = 2 ∧ s.machine.stack = #[0, 5] ∧ s.initial.stack = #[1, 5] ∧
      s.initial = { m with stack := #[1, 5] } ∧ back.machine = s.reset.machine ∧ back.fault = none := by
  intro g m s back
  have hs : Reachable g m 3 s := (Reachable.start ⟨2, Point.zero, [⟨1, 5⟩], rfl⟩).handleAll _
  have hdropped : s.history.dropped = 0 := by decide +kernel
  have hlength : s.history.length = 2 := by decide +kernel
  have hstack : s.initial.stack = #[1, 5] := by decide +kernel
  obtain ⟨⟨hinitial, _⟩, _, hback⟩ := stepBackward_all_agrees_with_reset hs
  obtain ⟨hmachine, _, _, hfault⟩ := hback hdropped
  rw [hstack] at hinitial
  exact ⟨hs, by decide +kernel, hdropped, hlength, by decide +kernel, hstack, hinitial, hmachine,
    hfault (by rw [hlength]; decide)⟩

end Session

end GridWalk
