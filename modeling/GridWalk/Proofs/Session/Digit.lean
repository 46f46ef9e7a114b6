import GridWalk.Proofs.Machine.Halting
import GridWalk.Proofs.Session.Forward
import Mathlib.Tactic.IntervalCases

namespace GridWalk.Session

-- At rest a step only has something to say.
theorem stepForward_of_rest {s : Session} {reason : Halt} (hfault : s.fault = none)
    (hpaused : s.playing = false) (hrest : s.machine.halt? s.grid = some reason) :
    s.stepForward = (false, s.tell (.finished reason)) := by
  rw [stepForward_of_halted hfault (Machine.halt?_eq_some_iff.mp hrest), if_pos rfl, tell, ← hpaused]

-- So does every step after one that stops the program.
theorem stepForward_of_stopped {s after : Session} (h : s.stepForward = (false, after)) :
    ∃ notice, after.stepForward = (false, after.tell notice) := by
  cases stepForward_eq_iff.mp h with
  | @blocked fault hfault => exact ⟨.stoppedByFault fault, stepForward_of_fault hfault⟩
  | @halted reason next hfault hstep =>
      exact ⟨.finished reason, stepForward_of_rest hfault rfl (Machine.halt?_of_halted hstep)⟩
  | @faulted fault => exact ⟨.stoppedByFault fault, stepForward_of_fault rfl⟩

-- Pressing the key for a single step several times.
def stepKeys (count : Nat) : List Event := List.replicate count (.press (.char 's'))

theorem handleAll_stepKeys_succ (s : Session) (count : Nat) :
    s.handleAll (stepKeys (count + 1)) = s.pause.stepForward.2.handleAll (stepKeys count) := rfl

-- A stopped program stays as it is, however often the key is pressed.
theorem handleAll_stepKeys_of_stopped {s : Session} {said : Notice}
    (hstopped : s.stepForward = (false, s.tell said)) (hpaused : s.playing = false) (count : Nat) :
    ∃ notice, s.handleAll (stepKeys count) = s.tell notice := by
  suffices hany : ∀ before, ∃ notice, (s.tell before).handleAll (stepKeys count) = s.tell notice from
    hany s.notice
  induction count with
  | zero => exact fun before => ⟨before, rfl⟩
  | succ count ih =>
      intro before
      have hpaused' : (s.tell before).playing = false := hpaused
      rw [handleAll_stepKeys_succ, pause_of_not_playing hpaused', stepForward_tell, hstopped]
      exact ih said

-- Taking steps up to the first that stops the program comes to the same as trying all
-- of them, since those after it do nothing.
theorem stepUpTo_eq_handleAll {s : Session} (hpaused : s.playing = false) (count done : Nat) :
    ∃ notice, (stepUpTo count done s).2 = (s.handleAll (stepKeys count)).tell notice := by
  induction count generalizing s done with
  | zero => exact ⟨s.notice, rfl⟩
  | succ count ih =>
      have hpaused' := playing_stepForward hpaused
      rw [handleAll_stepKeys_succ, pause_of_not_playing hpaused]
      rcases hforward : s.stepForward with ⟨goes, after⟩
      rw [hforward] at hpaused'
      cases goes with
      | true =>
          simp only [stepUpTo, hforward]
          exact ih hpaused' (done + 1)
      | false =>
          obtain ⟨said, hstopped⟩ := stepForward_of_stopped hforward
          obtain ⟨notice, hsame⟩ := handleAll_stepKeys_of_stopped hstopped hpaused' count
          simp only [stepUpTo, hforward]
          rw [hsame]
          exact ⟨after.notice, rfl⟩

theorem pressDigit_eq_handleAll (s : Session) (count : Nat) :
    ∃ notice, s.pressDigit count = (s.pause.handleAll (stepKeys count)).tell notice := by
  obtain ⟨notice, hsame⟩ := stepUpTo_eq_handleAll (s := s.pause) rfl count 0
  rcases hsteps : stepUpTo count 0 s.pause with ⟨done, after⟩
  rw [hsteps] at hsame
  change after = _ at hsame
  simp only [pressDigit, hsteps]
  by_cases hgoing : (after.fault.isNone && (after.machine.halt? after.grid).isNone) = true
  · refine ⟨.steppedForward done, ?_⟩
    rw [if_pos hgoing, hsame]
    rfl
  · refine ⟨notice, ?_⟩
    rw [if_neg hgoing, hsame]

theorem stepCount?_digitChar {k : Nat} (hpos : 1 ≤ k) (hle : k ≤ 9) : stepCount? k.digitChar = some k := by
  interval_cases k <;> rfl

-- A digit key does what the key for a single step does, pressed as often. Whatever
-- stops the program on the way, only the notice tells the two apart.
theorem digit_agrees_with_single_steps (s : Session) {k : Nat} (hpos : 1 ≤ k) (hle : k ≤ 9) :
    s.press (.char k.digitChar) =
      (s.handleAll (List.replicate k (.press (.char 's')))).tell (s.press (.char k.digitChar)).notice := by
  have hdigit : s.press (.char k.digitChar) = s.pressDigit k := by
    simp only [press, pressChar, stepCount?_digitChar hpos hle]
  have hpause : s.pause.handleAll (stepKeys k) = s.handleAll (stepKeys k) := by
    obtain ⟨count, rfl⟩ : ∃ count, k = count + 1 := ⟨k - 1, by omega⟩
    rw [handleAll_stepKeys_succ, handleAll_stepKeys_succ]
    rfl
  have hsame := eq_tell_notice (pressDigit_eq_handleAll s k)
  rwa [hpause, ← hdigit] at hsame

-- The program is being played and exits with the third of five steps, when the history
-- has room for two; both ways pause it and give up one snapshot.
theorem digit_agrees_with_single_steps_exit :
    let g : Grid := ⟨1, 3, #[.increment, .print, .exit], rfl⟩
    let s := (start g (Machine.start 1 Point.zero) 2).handleAll [.press (.char 'b'), .togglePlay]
    let digit := s.press (.char '5')
    let single := s.handleAll (List.replicate 5 (.press (.char 's')))
    s.playing = true ∧ digit.machine.exited = true ∧ digit.machine.steps = 3 ∧ digit.history.dropped = 1 ∧
      digit = single.tell digit.notice := by
  intro g s digit single
  have hsame : digit = single.tell digit.notice :=
    digit_agrees_with_single_steps s (k := 5) (by decide) (by decide)
  exact ⟨by decide +kernel, by decide +kernel, by decide +kernel, by decide +kernel, hsame⟩

end GridWalk.Session
