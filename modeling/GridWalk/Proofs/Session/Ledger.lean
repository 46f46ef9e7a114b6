import GridWalk.Proofs.Machine.Memory
import GridWalk.Proofs.Session.Course

namespace GridWalk

-- A snapshot of a machine that was about to execute an instruction.
structure Snapshot.Live (g : Grid) (size : Nat) (snap : Snapshot) : Prop where
  running : snap.machine.exited = false
  on_grid : snap.machine.cursor ∈ g
  size_eq : snap.machine.stack.size = size

-- How many lines had been printed when so many steps were counted.
def OutputLog.printedBy (log : OutputLog) (steps : Nat) : Nat :=
  log.lines.toList.countP (·.step ≤ steps)

namespace Course

-- How the step counter, the history and the output of a course fit together.
structure Ledger (c : Course) : Prop where
  initial_steps : c.initial.steps = 0
  initial_size : c.initial.stack.size = c.machine.stack.size
  length_le : c.history.length ≤ c.history.capacity
  steps_eq : c.machine.steps = c.history.length + c.history.dropped
  counters : c.history.toList.map (·.machine.steps) = List.range' c.history.dropped c.history.length
  live : ∀ snap ∈ c.history.toList, snap.Live c.grid c.machine.stack.size
  increasing : c.output.lines.toList.Pairwise (·.step < ·.step)
  numbered : ∀ line ∈ c.output.lines.toList, 1 ≤ line.step ∧ line.step ≤ c.machine.steps
  prints : ∀ line ∈ c.output.lines.toList, c.grid.get? line.point = some .print
  logged : ∀ snap ∈ c.history.toList, snap.outputLength = c.output.printedBy snap.machine.steps

-- Lines are logged in the order of their steps, so the first ones are those of
-- the first steps.
theorem take_printedBy (log : OutputLog) (hsorted : log.lines.toList.Pairwise (·.step < ·.step))
    (steps : Nat) :
    log.lines.toList.take (log.printedBy steps) = log.lines.toList.filter (·.step ≤ steps) := by
  unfold OutputLog.printedBy
  generalize log.lines.toList = lines at hsorted ⊢
  induction lines with
  | nil => rfl
  | cons line rest ih =>
      obtain ⟨hfirst, hrest⟩ := List.pairwise_cons.mp hsorted
      by_cases hstep : line.step ≤ steps
      · simp [hstep, ih hrest]
      · have hlate : ∀ later ∈ rest, ¬later.step ≤ steps := by
          intro later hlater
          have := hfirst later hlater
          omega
        have hnone : rest.countP (·.step ≤ steps) = 0 := by
          rw [List.countP_eq_zero]
          simpa using hlate
        simp only [List.countP_cons, List.filter_cons, hstep, hnone, decide_false]
        simpa using hlate

theorem Ledger.steps_lt {c : Course} (h : c.Ledger) {snap : Snapshot} (hsnap : snap ∈ c.history.toList) :
    snap.machine.steps < c.machine.steps := by
  have hmem : snap.machine.steps ∈ c.history.toList.map (·.machine.steps) := List.mem_map_of_mem hsnap
  rw [h.counters, List.mem_range'_1] at hmem
  have := h.steps_eq
  omega

theorem Ledger.newest {c : Course} (h : c.Ledger) {kept : List Snapshot} {snap : Snapshot}
    (hlist : c.history.toList = kept ++ [snap]) :
    kept.map (·.machine.steps) = List.range' c.history.dropped kept.length ∧
      snap.machine.steps + 1 = c.machine.steps := by
  have hlength : c.history.length = kept.length + 1 := by
    rw [← History.length_toList, hlist, List.length_append, List.length_singleton]
  have hcounters := h.counters
  rw [hlist, List.map_append, List.map_singleton, hlength, List.range'_1_concat] at hcounters
  obtain ⟨hkept, hlast⟩ := List.append_inj' hcounters rfl
  have hsnap := List.singleton_inj.mp hlast
  have hsteps := h.steps_eq
  exact ⟨hkept, by omega⟩

theorem Ledger.printedBy_steps {c : Course} (h : c.Ledger) :
    c.output.printedBy c.machine.steps = c.output.length := by
  have hall : ∀ line ∈ c.output.lines.toList, line.step ≤ c.machine.steps :=
    fun line hline => (h.numbered line hline).2
  simpa [OutputLog.printedBy, OutputLog.length] using hall

-- A line of the next step does not count for the steps before it.
theorem printedBy_execute {c : Course} {i : Instruction} {next : Machine}
    (hexec : c.machine.execute? c.grid = some (i, next)) {steps : Nat}
    (hsteps : steps ≤ c.machine.steps) :
    (c.execute i next).output.printedBy steps = c.output.printedBy steps := by
  obtain ⟨_, _, _, rfl⟩ := Machine.execute?_eq_some_iff.mp hexec
  have hlate : ¬c.machine.steps + 1 ≤ steps := by omega
  unfold OutputLog.printedBy
  rw [toList_execute_output]
  by_cases hprint : i = .print <;> simp [newLines, hprint, hlate]

theorem Ledger.execute {c : Course} (h : c.Ledger) {i : Instruction} {next : Machine}
    (hexec : c.machine.execute? c.grid = some (i, next)) : (c.execute i next).Ledger := by
  obtain ⟨hexited, hget, _, rfl⟩ := Machine.execute?_eq_some_iff.mp hexec
  have hle := h.length_le
  have hlength := History.length_push c.history ⟨c.machine, c.output.length⟩ hle
  have hdropped := History.dropped_push c.history ⟨c.machine, c.output.length⟩ hle
  have hsteps := h.steps_eq
  have hline : ∀ line ∈ c.newLines i (c.machine.perform i),
      line.step = c.machine.steps + 1 ∧ c.grid.get? line.point = some .print := by
    intro line hnew
    by_cases hprint : i = .print
    · simp only [newLines, hprint, if_true, List.mem_singleton] at hnew
      subst hnew hprint
      exact ⟨Machine.perform_steps _ _, hget⟩
    · simp [newLines, hprint] at hnew
  constructor
  case initial_steps => exact h.initial_steps
  case initial_size => exact h.initial_size.trans (Machine.perform_stack_size _ _).symm
  case length_le => exact History.length_push_le _ _ hle
  case steps_eq =>
    simp only [Course.execute, Machine.perform_steps]
    omega
  case counters =>
    have hcounter : c.machine.steps = c.history.dropped + c.history.length := by omega
    simp only [Course.execute]
    rw [History.toList_push _ _ hle, List.map_drop, List.map_append, h.counters, List.map_singleton,
      hcounter, ← List.range'_1_concat, List.drop_range', hdropped]
    congr 1 <;> omega
  case live =>
    intro snap hsnap
    rcases History.mem_push hle hsnap with hold | rfl
    · obtain ⟨hrunning, hgrid, hsize⟩ := h.live snap hold
      exact ⟨hrunning, hgrid, hsize.trans (Machine.perform_stack_size _ _).symm⟩
    · exact ⟨hexited, Machine.mem_of_execute? hexec, (Machine.perform_stack_size _ _).symm⟩
  case increasing =>
    rw [toList_execute_output, List.pairwise_append]
    refine ⟨h.increasing, ?_, ?_⟩
    · unfold newLines
      split <;> simp
    · intro line hline' new hnew
      have := (h.numbered line hline').2
      have := (hline new hnew).1
      omega
  case numbered =>
    intro line hmem
    rw [toList_execute_output, List.mem_append] at hmem
    simp only [Course.execute, Machine.perform_steps]
    rcases hmem with hold | hnew
    · have := h.numbered line hold
      omega
    · have := (hline line hnew).1
      omega
  case prints =>
    intro line hmem
    rw [toList_execute_output, List.mem_append] at hmem
    rcases hmem with hold | hnew
    · exact h.prints line hold
    · exact (hline line hnew).2
  case logged =>
    intro snap hsnap
    rcases History.mem_push hle hsnap with hold | rfl
    · rw [printedBy_execute hexec (Nat.le_of_lt (h.steps_lt hold))]
      exact h.logged snap hold
    · rw [printedBy_execute hexec (Nat.le_refl _), h.printedBy_steps]

theorem Ledger.undo {c : Course} (h : c.Ledger) {before : Snapshot} {rest : History Snapshot}
    (hpop : c.history.pop? = some (before, rest)) : (c.undo before rest).Ledger := by
  have hlist : c.history.toList = rest.toList ++ [before] := History.toList_of_pop? hpop
  have hlength := History.length_of_pop? hpop
  have hdropped := History.dropped_of_pop? hpop
  have hcapacity := History.capacity_of_pop? hpop
  have hbefore : before ∈ c.history.toList := by simp [hlist]
  have hrest : ∀ snap ∈ rest.toList, snap ∈ c.history.toList := by
    intro snap hsnap
    simp [hlist, hsnap]
  have hlive := h.live before hbefore
  have hle := h.length_le
  have hsteps := h.steps_eq
  obtain ⟨hcounters, hnewest⟩ := h.newest hlist
  rw [← hdropped, History.length_toList] at hcounters
  have hlines : (c.undo before rest).output.lines.toList =
      c.output.lines.toList.filter (·.step ≤ before.machine.steps) := by
    simp only [Course.undo, OutputLog.toList_truncate, h.logged before hbefore]
    exact take_printedBy c.output h.increasing _
  constructor
  case initial_steps => exact h.initial_steps
  case initial_size => exact h.initial_size.trans hlive.size_eq.symm
  case length_le =>
    simp only [Course.undo]
    omega
  case steps_eq =>
    simp only [Course.undo]
    omega
  case counters => exact hcounters
  case live =>
    intro snap hsnap
    obtain ⟨hrunning, hgrid, hsize⟩ := h.live snap (hrest snap hsnap)
    exact ⟨hrunning, hgrid, hsize.trans hlive.size_eq.symm⟩
  case increasing =>
    rw [hlines]
    exact h.increasing.filter _
  case numbered =>
    intro line hline
    rw [hlines, List.mem_filter] at hline
    exact ⟨(h.numbered line hline.1).1, of_decide_eq_true hline.2⟩
  case prints =>
    intro line hline
    rw [hlines, List.mem_filter] at hline
    exact h.prints line hline.1
  case logged =>
    intro snap hsnap
    have hearlier : snap.machine.steps < before.machine.steps := by
      have hmem : snap.machine.steps ∈ rest.toList.map (·.machine.steps) := List.mem_map_of_mem hsnap
      rw [hcounters, List.mem_range'_1] at hmem
      omega
    rw [h.logged snap (hrest snap hsnap), OutputLog.printedBy, OutputLog.printedBy, hlines,
      List.countP_filter]
    apply List.countP_congr
    intro line _
    simp only [Bool.and_eq_true, decide_eq_true_eq]
    omega

theorem Ledger.reset {c : Course} (h : c.Ledger) : c.reset.Ledger where
  initial_steps := h.initial_steps
  initial_size := rfl
  length_le := Nat.zero_le _
  steps_eq := h.initial_steps
  counters := rfl
  live := by simp [Course.reset, History.clear]
  increasing := List.Pairwise.nil
  numbered := by simp [Course.reset, OutputLog.empty]
  prints := by simp [Course.reset, OutputLog.empty]
  logged := by simp [Course.reset, History.clear]

theorem Ledger.edit {c : Course} (h : c.Ledger) {index : Nat} {value : Int32} {m : Machine}
    (hstore : c.machine.store index value = .ok m) : (c.edit m).Ledger := by
  obtain ⟨stack, hsize, rfl⟩ := Machine.exists_stack_of_store hstore
  constructor
  case initial_steps =>
    simp only [Course.edit]
    split
    · next hzero => exact hzero.1
    · exact h.initial_steps
  case initial_size =>
    simp only [Course.edit]
    split
    · rfl
    · exact h.initial_size.trans hsize.symm
  case length_le => exact h.length_le
  case steps_eq => exact h.steps_eq
  case counters => exact h.counters
  case live =>
    intro snap hsnap
    obtain ⟨hrunning, hgrid, hsnapsize⟩ := h.live snap hsnap
    exact ⟨hrunning, hgrid, hsnapsize.trans hsize.symm⟩
  case increasing => exact h.increasing
  case numbered => exact h.numbered
  case prints => exact h.prints
  case logged => exact h.logged

theorem Ledger.move {kind : Event.Kind} {c d : Course} (hmove : Move kind c d) (h : c.Ledger) :
    d.Ledger := by
  cases hmove with
  | execute hexec => exact h.execute hexec
  | undo hpop => exact h.undo hpop
  | reset => exact h.reset
  | edit hstore => exact h.edit hstore

theorem Move.grid_eq {kind : Event.Kind} {c d : Course} (hmove : Move kind c d) : d.grid = c.grid := by
  cases hmove <;> rfl

theorem Move.capacity_eq {kind : Event.Kind} {c d : Course} (hmove : Move kind c d) :
    d.history.capacity = c.history.capacity := by
  cases hmove with
  | execute => exact History.capacity_push _ _
  | undo hpop => exact History.capacity_of_pop? hpop
  | reset => rfl
  | edit => rfl

end Course

namespace Session

theorem ledger_start (g : Grid) {m : Machine} (hsteps : m.steps = 0) (capacity : Nat) :
    (start g m capacity).course.Ledger where
  initial_steps := hsteps
  initial_size := rfl
  length_le := Nat.zero_le _
  steps_eq := hsteps
  counters := rfl
  live := by simp [course, start]
  increasing := List.Pairwise.nil
  numbered := by simp [course, start, OutputLog.empty]
  prints := by simp [course, start, OutputLog.empty]
  logged := by simp [course, start]

theorem ledger_handle {s : Session} (h : s.course.Ledger) (e : Event) : (s.handle e).course.Ledger :=
  preserved_along (P := Course.Ledger) (fun _ _ hmove => Course.Ledger.move hmove) (moves_handle s e) h

section Reachable

variable {g : Grid} {m : Machine} {capacity : Nat} {s : Session}

theorem Reachable.ledger (h : Reachable g m capacity s) : s.course.Ledger :=
  h.course_induction (fun hfresh => ledger_start g hfresh.steps_eq_zero capacity)
    (fun _ _ _ => Course.Ledger.move)

theorem Reachable.grid_eq (h : Reachable g m capacity s) : s.grid = g :=
  h.course_induction (P := fun c => c.grid = g) (fun _ => rfl)
    (fun _ _ _ hmove hc => hmove.grid_eq.trans hc)

theorem Reachable.capacity_eq (h : Reachable g m capacity s) : s.history.capacity = capacity :=
  h.course_induction (P := fun c => c.history.capacity = capacity) (fun _ => rfl)
    (fun _ _ _ hmove hc => hmove.capacity_eq.trans hc)

-- The counters and the logs of a session agree, whatever was done to it.
theorem history_and_output_agree (h : Reachable g m capacity s) :
    let lines := s.output.lines.toList
    s.machine.steps = s.history.length + s.history.dropped ∧
    s.history.length ≤ capacity ∧
    s.history.toList.map (·.machine.steps) = List.range' s.history.dropped s.history.length ∧
    (∀ snap, s.history.toList.getLast? = some snap → snap.machine.steps = s.machine.steps - 1) ∧
    (∀ snap ∈ s.history.toList, snap.machine.exited = false ∧ snap.machine.cursor ∈ g ∧
      snap.machine.stack.size = s.machine.stack.size) ∧
    lines.Pairwise (·.step < ·.step) ∧
    (∀ line ∈ lines, 1 ≤ line.step ∧ line.step ≤ s.machine.steps ∧
      g.get? line.point = some .print) ∧
    ∀ snap ∈ s.history.toList,
      snap.outputLength = (lines.filter (·.step ≤ snap.machine.steps)).length := by
  intro lines
  have hledger := h.ledger
  have hgrid : s.course.grid = g := h.grid_eq
  refine ⟨hledger.steps_eq, h.capacity_eq ▸ hledger.length_le, hledger.counters, ?_, ?_,
    hledger.increasing, ?_, ?_⟩
  · intro snap hlast
    obtain ⟨kept, hlist⟩ := List.getLast?_eq_some_iff.mp hlast
    have hnewest := (hledger.newest hlist).2
    exact Nat.eq_sub_of_add_eq hnewest
  · intro snap hsnap
    obtain ⟨hrunning, hon, hsize⟩ := hledger.live snap hsnap
    exact ⟨hrunning, hgrid ▸ hon, hsize⟩
  · intro line hline
    obtain ⟨hfirst, hlast⟩ := hledger.numbered line hline
    exact ⟨hfirst, hlast, hgrid ▸ hledger.prints line hline⟩
  · intro snap hsnap
    rw [hledger.logged snap hsnap, ← List.countP_eq_length_filter]
    rfl

end Reachable

-- Two snapshots are given up here, and memory is written between two steps.
theorem history_and_output_agree_evicting :
    let g : Grid := ⟨1, 4, #[.increment, .print, .increment, .exit], rfl⟩
    let m : Machine := { Machine.start 2 Point.zero with stack := #[0, 5] }
    let s := (start g m 2).handleAll [.press (.char 's'), .press (.char 's'), .press .tab,
      .press (.char '+'), .press .right, .press .left, .press .enter]
    Reachable g m 2 s ∧ s.machine.steps = 4 ∧ s.history.dropped = 2 ∧ s.history.length = 2 ∧
      s.history.toList.map (·.machine.steps) = [2, 3] ∧
      ∀ line ∈ s.output.lines.toList, 1 ≤ line.step ∧ line.step ≤ 4 ∧
        g.get? line.point = some .print := by
  intro g m s
  have hs : Reachable g m 2 s := (Reachable.start ⟨2, Point.zero, [⟨1, 5⟩], rfl⟩).handleAll _
  have hsteps : s.machine.steps = 4 := by decide +kernel
  have hdropped : s.history.dropped = 2 := by decide +kernel
  have hlength : s.history.length = 2 := by decide +kernel
  obtain ⟨_, _, hcounters, _, _, _, hlines, _⟩ := history_and_output_agree hs
  rw [hdropped, hlength] at hcounters
  rw [hsteps] at hlines
  exact ⟨hs, hsteps, hdropped, hlength, hcounters, hlines⟩

end Session

end GridWalk
