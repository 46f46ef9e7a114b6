import GridWalk.Proofs.Session.Edit
import GridWalk.Proofs.Session.Ledger

namespace GridWalk

-- What would be remembered of the state after a number of steps.
def Machine.snapshotAfter (g : Grid) (m : Machine) (k : Nat) : Snapshot :=
  ⟨m.after g k, (m.printed g k).length⟩

namespace Course

-- The course is that of a run from the initial machine: what it shows follows
-- from that machine and the number of steps.
structure Replay (c : Course) : Prop where
  executes : c.initial.Executes c.grid c.machine.steps
  machine_eq : c.machine = c.initial.after c.grid c.machine.steps
  output_eq : c.output.lines.toList = c.initial.printed c.grid c.machine.steps
  suffix : c.history.toList <:+ (List.range c.machine.steps).map (c.initial.snapshotAfter c.grid)

theorem Replay.of_steps_zero {c : Course} (hsteps : c.machine.steps = 0)
    (hmachine : c.machine = c.initial) (houtput : c.output.lines.toList = [])
    (hhistory : c.history.toList = []) : c.Replay where
  executes := by
    rw [hsteps]
    intro k hk
    omega
  machine_eq := by
    rw [hsteps]
    exact hmachine
  output_eq := by
    rw [hsteps, houtput]
    rfl
  suffix := by
    rw [hhistory]
    exact List.nil_suffix

theorem Replay.newLines_eq {c : Course} (h : c.Replay) (hinitial : c.initial.steps = 0)
    {i : Instruction} {next : Machine} (hexec : c.machine.execute? c.grid = some (i, next)) :
    c.newLines i next = (c.initial.line? c.grid c.machine.steps).toList := by
  obtain ⟨_, hget, _, rfl⟩ := Machine.execute?_eq_some_iff.mp hexec
  unfold newLines Machine.line? Machine.next?
  rw [← h.machine_eq, hget, hinitial]
  by_cases hprint : i = .print
  · subst hprint
    simp
  · simp [hprint]

theorem Replay.execute {c : Course} (h : c.Replay) (hledger : c.Ledger) {i : Instruction}
    {next : Machine} (hexec : c.machine.execute? c.grid = some (i, next)) :
    (c.execute i next).Replay := by
  have hsteps : next.steps = c.machine.steps + 1 := by
    obtain ⟨_, _, _, rfl⟩ := Machine.execute?_eq_some_iff.mp hexec
    exact Machine.perform_steps _ _
  have hlast : (c.initial.after c.grid c.machine.steps).execute? c.grid = some (i, next) := by
    rw [← h.machine_eq]
    exact hexec
  have hsnapshot : (⟨c.machine, c.output.length⟩ : Snapshot) =
      c.initial.snapshotAfter c.grid c.machine.steps := by
    unfold Machine.snapshotAfter
    rw [← h.machine_eq, ← h.output_eq]
    rfl
  constructor
  case executes =>
    simp only [Course.execute, hsteps]
    exact h.executes.succ (by simp [hlast])
  case machine_eq =>
    simp only [Course.execute, hsteps]
    exact (Machine.after_succ_of_execute? hlast).symm
  case output_eq =>
    rw [toList_execute_output, h.output_eq, h.newLines_eq hledger.initial_steps hexec,
      ← Machine.printed_succ, ← hsteps]
    rfl
  case suffix =>
    simp only [Course.execute, hsteps]
    rw [History.toList_push _ _ hledger.length_le, List.range_succ, List.map_append,
      List.map_singleton, hsnapshot]
    obtain ⟨forgotten, hforgotten⟩ := h.suffix
    apply (List.drop_suffix _ _).trans
    exact ⟨forgotten, by rw [← List.append_assoc, hforgotten]⟩

theorem Replay.undo {c : Course} (h : c.Replay) (hledger : c.Ledger) {before : Snapshot}
    {rest : History Snapshot} (hpop : c.history.pop? = some (before, rest)) :
    (c.undo before rest).Replay := by
  have hlist : c.history.toList = rest.toList ++ [before] := History.toList_of_pop? hpop
  have hnewest := (hledger.newest hlist).2
  obtain ⟨k, hk⟩ : ∃ k, c.machine.steps = k + 1 := ⟨_, hnewest.symm⟩
  have hexecutes := h.executes.mono (show k ≤ c.machine.steps by omega)
  -- the snapshots of the run split at the last one, as the history does
  have hsplit : before = c.initial.snapshotAfter c.grid k ∧
      rest.toList <:+ (List.range k).map (c.initial.snapshotAfter c.grid) := by
    obtain ⟨forgotten, hforgotten⟩ := h.suffix
    rw [hlist, hk, List.range_succ, List.map_append, List.map_singleton, ← List.append_assoc]
      at hforgotten
    obtain ⟨hinit, hlast⟩ := List.append_inj' hforgotten rfl
    exact ⟨List.singleton_inj.mp hlast, ⟨forgotten, hinit⟩⟩
  obtain ⟨rfl, hsuffix⟩ := hsplit
  have hsteps : (c.initial.after c.grid k).steps = k := by
    rw [hexecutes.steps_after, hledger.initial_steps, Nat.zero_add]
  constructor
  case executes =>
    simp only [Course.undo, Machine.snapshotAfter, hsteps]
    exact hexecutes
  case machine_eq => simp only [Course.undo, Machine.snapshotAfter, hsteps]
  case output_eq =>
    simp only [Course.undo, Machine.snapshotAfter, hsteps, OutputLog.toList_truncate]
    rw [h.output_eq, hk, Machine.printed_succ]
    exact List.take_left
  case suffix =>
    simp only [Course.undo, Machine.snapshotAfter, hsteps]
    exact hsuffix

-- Memory written before the first step only changes where the run starts.
theorem Replay.edit {c : Course} (h : c.Replay) (hledger : c.Ledger) (hsteps : c.machine.steps = 0)
    {index : Nat} {value : Int32} {m : Machine} (hstore : c.machine.store index value = .ok m) :
    (c.edit m).Replay ∧ (c.edit m).machine.steps = 0 := by
  obtain ⟨stack, _, rfl⟩ := Machine.exists_stack_of_store hstore
  have hempty : c.history.toList = [] := by
    have hlength := hledger.steps_eq
    exact List.length_eq_zero_iff.mp (by rw [History.length_toList]; omega)
  refine ⟨.of_steps_zero hsteps ?_ ?_ hempty, hsteps⟩
  · simp [Course.edit, hsteps, (History.isEmpty_iff _).mpr hempty]
  · have houtput := h.output_eq
    rw [hsteps] at houtput
    exact houtput

theorem Replay.move {kind : Event.Kind} (hkind : kind ≠ .edit) {c d : Course}
    (hmove : Move kind c d) (hledger : c.Ledger) (h : c.Replay) : d.Replay := by
  cases hmove with
  | execute hexec => exact h.execute hledger hexec
  | undo hpop => exact h.undo hledger hpop
  | reset => exact .of_steps_zero hledger.initial_steps rfl rfl rfl
  | edit => exact absurd rfl hkind

end Course

namespace Session

def EditsBeforeSteps (s : Session) : List Event → Prop
  | [] => True
  | e :: rest => (s.Edits e → s.machine.steps = 0) ∧ (s.handle e).EditsBeforeSteps rest

instance decidableEditsBeforeSteps : (s : Session) → (events : List Event) →
    Decidable (s.EditsBeforeSteps events)
  | _, [] => inferInstanceAs (Decidable True)
  | s, e :: rest =>
      have := decidableEditsBeforeSteps (s.handle e) rest
      inferInstanceAs (Decidable (_ ∧ _))

theorem replay_handle {s : Session} {e : Event} (hledger : s.course.Ledger)
    (hreplay : s.course.Replay) (hedits : s.Edits e → s.machine.steps = 0) :
    (s.handle e).course.Replay := by
  by_cases hkind : e.kind = .edit
  · by_cases hedit : s.Edits e
    · have hmoves := moves_handle s e
      rw [hkind] at hmoves
      have hkept := preserved_along
        (P := fun c => c.Ledger ∧ c.Replay ∧ c.machine.steps = 0)
        (fun _ _ hmove hc => by
          cases hmove with
          | edit hstore => exact ⟨hc.1.edit hstore, hc.2.1.edit hc.1 hc.2.2 hstore⟩)
        hmoves ⟨hledger, hreplay, hedits hedit⟩
      exact hkept.2.1
    · rw [(alike_handle_of_not_edits hkind hedit).course_eq]
      exact hreplay
  · have hkept := preserved_along (P := fun c => c.Ledger ∧ c.Replay)
      (fun _ _ hmove hc => ⟨hc.1.move hmove, hc.2.move hkind hmove hc.1⟩)
      (moves_handle s e) ⟨hledger, hreplay⟩
    exact hkept.2

theorem replay_handleAll {s : Session} (hledger : s.course.Ledger) (hreplay : s.course.Replay)
    {events : List Event} (hedits : s.EditsBeforeSteps events) :
    (s.handleAll events).course.Replay := by
  induction events generalizing s with
  | nil => exact hreplay
  | cons e rest ih =>
      obtain ⟨hfirst, hrest⟩ := hedits
      exact ih (ledger_handle hledger e) (replay_handle hledger hreplay hfirst) hrest

-- As long as memory is only written before the first step, a session shows the
-- run of its initial machine: its present state, all of its output and, for each
-- snapshot, the state that many steps ago.
theorem shows_run_of_initial {m : Machine} (hfresh : m.Fresh) (g : Grid) (capacity : Nat)
    (events : List Event) (hedits : (start g m capacity).EditsBeforeSteps events) :
    let s := (start g m capacity).handleAll events
    let n := s.machine.steps
    s.initial.steps = 0 ∧
    (s.initial.Executes g n ∧ s.machine = s.initial.after g n) ∧
    s.output.lines.toList = s.initial.printed g n ∧
    s.history.length ≤ n ∧
    ∀ j < s.history.length, s.history.toList[j]? =
      some ⟨s.initial.after g (n - s.history.length + j),
        (s.initial.printed g (n - s.history.length + j)).length⟩ := by
  intro s n
  have hsteps := hfresh.steps_eq_zero
  have hreachable : Reachable g m capacity s := (Reachable.start hfresh).handleAll events
  have hreplay : s.course.Replay :=
    replay_handleAll (ledger_start g hsteps capacity) (.of_steps_zero hsteps rfl rfl rfl) hedits
  have hgrid : s.course.grid = g := hreachable.grid_eq
  obtain ⟨hexecutes, hmachine, houtput, forgotten, hforgotten⟩ := hreplay
  rw [hgrid] at hexecutes hmachine houtput hforgotten
  change forgotten ++ s.history.toList = (List.range n).map (s.initial.snapshotAfter g) at hforgotten
  have hcount : forgotten.length + s.history.length = n := by
    have := congrArg List.length hforgotten
    simpa using this
  refine ⟨hreachable.ledger.initial_steps, ⟨hexecutes, hmachine⟩, houtput, by omega, ?_⟩
  intro j hj
  have hindex : n - s.history.length + j = forgotten.length + j := by omega
  have hbound : forgotten.length + j < n := by omega
  have hsnapshot : (forgotten ++ s.history.toList)[forgotten.length + j]? = s.history.toList[j]? := by
    rw [List.getElem?_append_right (by omega), Nat.add_sub_cancel_left]
  rw [hindex, ← hsnapshot, hforgotten, List.getElem?_map, List.getElem?_range hbound]
  rfl

-- Memory is written at the start and again after a reset, with steps back in between.
theorem shows_run_of_initial_edited :
    let g : Grid := ⟨1, 4, #[.increment, .print, .increment, .exit], rfl⟩
    let m : Machine := { Machine.start 2 Point.zero with stack := #[0, 5] }
    let events : List Event := [.press .tab, .press (.char '+'), .press (.char '3'), .stepBackward,
      .press (.char 'r'), .press (.char '-'), .press .enter]
    let s := (start g m 2).handleAll events
    m.Fresh ∧ (start g m 2).EditsBeforeSteps events ∧ s.initial.stack = #[0, 5] ∧
      s.machine.steps = 4 ∧ s.machine = s.initial.after g 4 ∧
      s.output.lines.toList = s.initial.printed g 4 := by
  intro g m events s
  have hfresh : m.Fresh := ⟨2, Point.zero, [⟨1, 5⟩], rfl⟩
  have hedits : (start g m 2).EditsBeforeSteps events := by decide +kernel
  have hsteps : s.machine.steps = 4 := by decide +kernel
  have hrun := shows_run_of_initial hfresh g 2 events hedits
  simp only [show (start g m 2).handleAll events = s from rfl, hsteps] at hrun
  obtain ⟨_, ⟨_, hmachine⟩, houtput, _⟩ := hrun
  exact ⟨hfresh, hedits, by decide +kernel, hsteps, hmachine, houtput⟩

end Session

end GridWalk
