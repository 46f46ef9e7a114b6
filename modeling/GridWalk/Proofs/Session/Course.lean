import GridWalk.Proofs.Machine.Execution
import GridWalk.Proofs.History.Window
import GridWalk.Proofs.Session.Act

namespace GridWalk

open Relation

-- The program of a session with its past: what a step back or a reset restores.
structure Course where
  grid : Grid
  machine : Machine
  initial : Machine
  history : History Snapshot
  output : OutputLog

def Session.course (s : Session) : Course := ⟨s.grid, s.machine, s.initial, s.history, s.output⟩

namespace OutputLog

@[simp] theorem toList_print (log : OutputLog) (value : Int32) (point : Point) (step : Nat) :
    (log.print value point step).lines.toList = log.lines.toList ++ [⟨value, point, step⟩] := by
  simp [print]

@[simp] theorem toList_truncate (log : OutputLog) (length : Nat) :
    (log.truncate length).lines.toList = log.lines.toList.take length := by
  simp [truncate]

end OutputLog

namespace Course

-- An executed instruction enters the history, and a Print the output.
def execute (c : Course) (i : Instruction) (next : Machine) : Course :=
  { c with
    machine := next
    history := c.history.push ⟨c.machine, c.output.length⟩
    output :=
      if i = .print then c.output.print next.accumulator c.machine.cursor next.steps else c.output }

-- The newest snapshot is restored, with what had been printed by then.
def undo (c : Course) (before : Snapshot) (rest : History Snapshot) : Course :=
  { c with
    machine := before.machine
    history := rest
    output := c.output.truncate before.outputLength }

def reset (c : Course) : Course :=
  { c with machine := c.initial, history := c.history.clear, output := OutputLog.empty }

-- Memory written before the first step belongs to the initial machine.
def edit (c : Course) (m : Machine) : Course :=
  { c with machine := m, initial := if m.steps = 0 ∧ c.history.isEmpty then m else c.initial }

-- All that can happen to a course, by the kind of event that does it.
inductive Move : Event.Kind → Course → Course → Prop where
  | execute {c : Course} {i : Instruction} {next : Machine}
      (h : c.machine.execute? c.grid = some (i, next)) : Move .onward c (c.execute i next)
  | undo {c : Course} {before : Snapshot} {rest : History Snapshot}
      (h : c.history.pop? = some (before, rest)) : Move .back c (c.undo before rest)
  | reset (c : Course) : Move .reset c c.reset
  | edit {c : Course} {index : Nat} {value : Int32} {m : Machine}
      (h : c.machine.store index value = .ok m) : Move .edit c (c.edit m)

def newLines (c : Course) (i : Instruction) (next : Machine) : List OutputLine :=
  if i = .print then [⟨next.accumulator, c.machine.cursor, next.steps⟩] else []

theorem toList_execute_output (c : Course) (i : Instruction) (next : Machine) :
    (c.execute i next).output.lines.toList = c.output.lines.toList ++ c.newLines i next := by
  unfold execute newLines
  split <;> simp

end Course

namespace Session

theorem Alike.course_eq {s t : Session} (h : Alike s t) : t.course = s.course := by
  simp only [course, h.grid, h.machine, h.initial, h.history, h.output]

theorem course_stepForward (s : Session) :
    s.stepForward.2.course = s.course ∨
      ∃ i next, s.machine.execute? s.grid = some (i, next) ∧
        s.stepForward.2.course = s.course.execute i next := by
  cases hfault : s.fault with
  | some fault => exact .inl (by simp only [stepForward, hfault]; rfl)
  | none =>
      rcases s.machine.step_cases s.grid with ⟨i, hexited, hget, hnone, hstep⟩ |
        ⟨i, fault, _, _, _, hstep⟩ | ⟨reason, _, hstep⟩
      · refine .inr ⟨i, s.machine.perform i,
          Machine.execute?_eq_some_iff.mpr ⟨hexited, hget, hnone, rfl⟩, ?_⟩
        have hcounted : s.machine ≠ s.machine.perform i := by
          intro heq
          have := congrArg Machine.steps heq
          simp at this
        by_cases hexit : i = .exit
        · subst hexit
          simp [stepForward, hfault, snapshot, hstep, hcounted, course, Course.execute]
        · by_cases hprint : i = .print <;>
            simp [stepForward, hfault, snapshot, hstep, hexit, hprint, course, Course.execute, logPrint]
      · exact .inl (by simp only [stepForward, hfault, snapshot, hstep]; rfl)
      · exact .inl (by simp [stepForward, hfault, snapshot, hstep, course])

theorem moves_stepForward (s : Session) :
    ReflTransGen (Course.Move .onward) s.course s.stepForward.2.course := by
  rcases course_stepForward s with hsame | ⟨i, next, hexec, hcourse⟩
  · rw [hsame]
  · rw [hcourse]
    exact .single (.execute hexec)

theorem moves_stepBackward (s : Session) :
    ReflTransGen (Course.Move .back) s.course s.stepBackward.course := by
  unfold stepBackward
  split
  · next before rest hpop => exact .single (.undo hpop)
  · split <;> exact .refl

theorem moves_writeSelected (s : Session) (value : Int32) :
    ReflTransGen (Course.Move .edit) s.course (s.writeSelected value).course := by
  unfold writeSelected
  split
  · exact .refl
  · split
    · exact .refl
    · split
      · exact .refl
      · next m hstore => exact .single (.edit hstore)

theorem course_togglePlay (s : Session) : s.togglePlay.course = s.course := by
  unfold togglePlay
  split
  · rfl
  · split <;> rfl

theorem moves_of_act {kind : Event.Kind} {s t : Session} (h : Act kind s t) :
    ReflTransGen (Course.Move kind) s.course t.course := by
  cases h with
  | stepForward => exact moves_stepForward s
  | stepBackward => exact moves_stepBackward s
  | reset => exact .single (.reset s.course)
  | writeSelected _ value => exact moves_writeSelected s value
  | togglePlay => rw [course_togglePlay]
  | pause => exact .refl
  | aside halike => rw [halike.course_eq]

-- An event moves the course only in the ways of its kind.
theorem moves_handle (s : Session) (e : Event) :
    ReflTransGen (Course.Move e.kind) s.course (s.handle e).course :=
  ReflTransGen.lift' course (fun _ _ => moves_of_act) _ _ (acts_handle s e)

theorem Reachable.course_induction {P : Course → Prop} {g : Grid} {m : Machine} {capacity : Nat}
    (hstart : m.Fresh → P (Session.start g m capacity).course)
    (hmove : ∀ kind c d, Course.Move kind c d → P c → P d)
    {s : Session} (h : Reachable g m capacity s) : P s.course := by
  induction h with
  | start hfresh => exact hstart hfresh
  | @handle s _ e ih => exact preserved_along (hmove e.kind) (moves_handle s e) ih

end Session

end GridWalk
