import GridWalk.Proofs.Session.Ledger
import Mathlib.Data.List.Induction
import Mathlib.Logic.Function.Iterate

namespace GridWalk

open Relation

namespace Course

-- What a step would remember of the present.
def present (c : Course) : Snapshot := ⟨c.machine, c.output.length⟩

-- From `c` to `d` only instructions were executed, and `recorded` are the
-- snapshots taken before them, oldest first.
structure Trail (c d : Course) (recorded : List Snapshot) : Prop where
  steps_eq : d.machine.steps = c.machine.steps + recorded.length
  history_eq : d.history = recorded.foldl History.push c.history
  first : (recorded ++ [d.present]).head? = some c.present
  logged : ∀ snap ∈ recorded, c.output.length ≤ snap.outputLength
  output_prefix : c.output.lines.toList <+: d.output.lines.toList

theorem Trail.nil (c : Course) : Trail c c [] where
  steps_eq := rfl
  history_eq := rfl
  first := rfl
  logged := by simp
  output_prefix := List.prefix_rfl

theorem Trail.execute {c d : Course} {recorded : List Snapshot} (h : Trail c d recorded)
    {i : Instruction} {next : Machine} (hexec : d.machine.execute? d.grid = some (i, next)) :
    Trail c (d.execute i next) (recorded ++ [d.present]) := by
  obtain ⟨_, _, _, rfl⟩ := Machine.execute?_eq_some_iff.mp hexec
  constructor
  case steps_eq =>
    have hsteps := h.steps_eq
    simp only [Course.execute, Machine.perform_steps, List.length_append, List.length_singleton]
    omega
  case history_eq =>
    rw [List.foldl_append, ← h.history_eq]
    rfl
  case first =>
    rw [List.head?_append, h.first]
    rfl
  case logged =>
    intro snap hsnap
    rcases List.mem_append.mp hsnap with hold | hlast
    · exact h.logged snap hold
    · cases List.mem_singleton.mp hlast
      simpa [present, OutputLog.length] using h.output_prefix.length_le
  case output_prefix =>
    rw [toList_execute_output]
    exact h.output_prefix.trans (List.prefix_append _ _)

theorem exists_trail {c d : Course} (hmoves : ReflTransGen (Move .onward) c d) :
    ∃ recorded, Trail c d recorded := by
  induction hmoves with
  | refl => exact ⟨[], .nil c⟩
  | tail _ hlast ih =>
      obtain ⟨recorded, htrail⟩ := ih
      cases hlast with
      | execute hexec => exact ⟨_, htrail.execute hexec⟩

end Course

namespace Session

theorem moves_handleAll_of_onward (s : Session) {events : List Event}
    (honward : ∀ e ∈ events, e.kind = .onward) :
    ReflTransGen (Course.Move .onward) s.course (s.handleAll events).course := by
  induction events generalizing s with
  | nil => exact .refl
  | cons e rest ih =>
      have hfirst := moves_handle s e
      rw [honward e List.mem_cons_self] at hfirst
      exact hfirst.trans (ih (s.handle e) fun later hlater => honward later (List.mem_cons_of_mem _ hlater))

-- Stepping back through the newest snapshots leads to the oldest of them. The
-- output was never shorter in between, so the last cut is the one that counts.
theorem stepBackward_iterate {recorded kept : List Snapshot} {first : Snapshot} {s : Session}
    (hlist : s.history.toList = kept ++ recorded) (hfirst : recorded.head? = some first)
    (hlogged : ∀ snap ∈ recorded, first.outputLength ≤ snap.outputLength) :
    let back := stepBackward^[recorded.length] s
    back.machine = first.machine ∧
    back.output.lines.toList = s.output.lines.toList.take first.outputLength ∧
    back.fault = none ∧
    back.history.toList = kept ∧ back.history.dropped = s.history.dropped ∧
    back.history.capacity = s.history.capacity := by
  induction recorded using List.reverseRecOn generalizing s with
  | nil => cases hfirst
  | append_singleton earlier last ih =>
      rw [← List.append_assoc] at hlist
      obtain ⟨rest, hpop, hrest⟩ := s.history.exists_pop? hlist
      have hdropped := History.dropped_of_pop? hpop
      have hcapacity := History.capacity_of_pop? hpop
      have hback : s.stepBackward =
          { s with
            machine := last.machine
            history := rest
            output := s.output.truncate last.outputLength
            fault := none
            notice := .steppedBackward
            scroll := Scroll.bottom } := by
        simp only [stepBackward, hpop]
      rw [List.length_append, List.length_singleton, Function.iterate_succ_apply]
      cases earlier with
      | nil =>
          cases hfirst
          rw [List.append_nil] at hrest
          rw [hback]
          exact ⟨rfl, OutputLog.toList_truncate _ _, rfl, hrest, hdropped, hcapacity⟩
      | cons head tail =>
          cases hfirst
          have hlist' : s.stepBackward.history.toList = kept ++ first :: tail := by
            rw [hback]
            exact hrest
          obtain ⟨hmachine, houtput, hfault, hkept, hdrops, hroom⟩ :=
            ih hlist' rfl fun snap hsnap => hlogged snap (List.mem_append_left _ hsnap)
          have hcut : first.outputLength ≤ last.outputLength := hlogged last (by simp)
          refine ⟨hmachine, ?_, hfault, hkept, ?_, ?_⟩
          · rw [houtput, hback, OutputLog.toList_truncate, List.take_take, Nat.min_eq_left hcut]
          · rw [hdrops, hback, hdropped]
          · rw [hroom, hback, hcapacity]

-- Whatever mix of events lets a program execute n instructions, n steps back
-- undo them, as far as the history reaches.
theorem stepBackward_undoes_onward {g : Grid} {m : Machine} {capacity : Nat} {s : Session}
    (h : Reachable g m capacity s) {events : List Event} (honward : ∀ e ∈ events, e.kind = .onward)
    {n : Nat} (hpos : 1 ≤ n) (hcap : n ≤ capacity)
    (hexecuted : (s.handleAll events).machine.steps = s.machine.steps + n) :
    let back := stepBackward^[n] (s.handleAll events)
    back.machine = s.machine ∧ back.output = s.output ∧ back.fault = none ∧
    back.history.toList = s.history.toList.drop (s.history.length + n - capacity) ∧
    back.history.dropped = s.history.dropped + (s.history.length + n - capacity) ∧
    back.history.capacity = s.history.capacity := by
  intro back
  have hcapacity := h.capacity_eq
  have hle : s.history.length ≤ s.history.capacity := h.ledger.length_le
  obtain ⟨recorded, htrail⟩ := Course.exists_trail (moves_handleAll_of_onward s honward)
  have hcount : recorded.length = n := Nat.add_left_cancel (htrail.steps_eq.symm.trans hexecuted)
  obtain ⟨hlist, hdropped, hroom⟩ := s.history.foldl_push recorded hle
  have hhistory : (s.handleAll events).history = recorded.foldl History.push s.history := htrail.history_eq
  -- at most `capacity` snapshots were recorded, so none of them was given up
  have hover : s.history.length + n - capacity ≤ s.history.toList.length := by
    rw [History.length_toList]
    omega
  rw [hcount, hcapacity, List.drop_append_of_le_length hover, ← hhistory] at hlist
  rw [hcount, hcapacity, ← hhistory] at hdropped
  have hfirst : recorded.head? = some s.course.present := by
    cases recorded with
    | nil => simp only [List.length_nil] at hcount; omega
    | cons first rest => exact htrail.first
  obtain ⟨hmachine, houtput, hfault, hkept, hdrops, hcapacity'⟩ :=
    stepBackward_iterate hlist hfirst htrail.logged
  rw [hcount] at hmachine houtput hfault hkept hdrops hcapacity'
  have hlines : back.output.lines.toList = s.output.lines.toList :=
    houtput.trans (List.prefix_iff_eq_take.mp htrail.output_prefix).symm
  refine ⟨hmachine, ?_, hfault, hkept, hdrops.trans hdropped, ?_⟩
  · exact congrArg OutputLog.mk (Array.toList_inj.mp hlines)
  · rw [hcapacity', hhistory, hroom]

-- The last of the three instructions is the exit, and one snapshot is given up.
theorem stepBackward_undoes_exit :
    let g : Grid := ⟨1, 4, #[.increment, .print, .increment, .exit], rfl⟩
    let m : Machine := { Machine.start 2 Point.zero with stack := #[0, 5] }
    let s := (start g m 3).handleAll [.press (.char 's')]
    let events : List Event := [.press .right, .press .enter, .playTick]
    let back := stepBackward^[3] (s.handleAll events)
    Reachable g m 3 s ∧ (s.handleAll events).machine.exited = true ∧
      (s.handleAll events).machine.steps = s.machine.steps + 3 ∧
      back.machine = s.machine ∧ back.output = s.output ∧ back.history.dropped = 1 := by
  intro g m s events back
  have hs : Reachable g m 3 s := (Reachable.start ⟨2, Point.zero, [⟨1, 5⟩], rfl⟩).handleAll _
  have honward : ∀ e ∈ events, e.kind = .onward := by decide
  have hexecuted : (s.handleAll events).machine.steps = s.machine.steps + 3 := by decide +kernel
  have hdropped : s.history.dropped = 0 := by decide +kernel
  have hlength : s.history.length = 1 := by decide +kernel
  have hback := stepBackward_undoes_onward hs honward (by decide) (by decide) hexecuted
  simp only [show stepBackward^[3] (s.handleAll events) = back from rfl, hdropped, hlength] at hback
  obtain ⟨hmachine, houtput, _, _, hgone, _⟩ := hback
  exact ⟨hs, by decide +kernel, hexecuted, hmachine, houtput, hgone⟩

end Session

end GridWalk
