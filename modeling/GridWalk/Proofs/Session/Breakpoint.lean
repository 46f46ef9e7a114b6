import GridWalk.Proofs.Machine.Walk
import GridWalk.Proofs.Session.RunToEnd
import Mathlib.Logic.Function.Iterate

namespace GridWalk

namespace Machine

-- The n-th step is one to stop after: it halts or faults, or leads onto one of the points.
inductive StopsAt (g : Grid) (points : List Point) (m : Machine) : Nat → Prop where
  | halted {k : Nat} {reason : Halt} (h : m.outcome g k = .halted reason) : StopsAt g points m (k + 1)
  | faulted {k : Nat} {fault : Fault} (h : m.outcome g k = .faulted fault) : StopsAt g points m (k + 1)
  | breakpoint {k : Nat} (h : (m.after g (k + 1)).cursor ∈ points) : StopsAt g points m (k + 1)

section StopsAt

variable {g : Grid} {points : List Point} {m : Machine} {k : Nat}

theorem not_stopsAt_zero : ¬m.StopsAt g points 0 := nofun

theorem not_stopsAt_succ_iff :
    ¬m.StopsAt g points (k + 1) ↔
      (∃ i, m.outcome g k = .continued i) ∧ (m.after g (k + 1)).cursor ∉ points := by
  constructor
  · intro h
    refine ⟨?_, fun hset => h (.breakpoint hset)⟩
    cases houtcome : m.outcome g k with
    | continued i => exact ⟨i, rfl⟩
    | halted reason => exact absurd (.halted houtcome) h
    | faulted fault => exact absurd (.faulted houtcome) h
  · rintro ⟨⟨i, hi⟩, hclear⟩ hstops
    cases hstops with
    | halted h | faulted h =>
        rw [hi] at h
        cases h
    | breakpoint h => exact hclear h

-- The stops after some steps are those of the machine that these steps lead to.
theorem stopsAt_after_iff {n : Nat} :
    (m.after g n).StopsAt g points (k + 1) ↔ m.StopsAt g points (n + k + 1) := by
  rw [← not_iff_not, not_stopsAt_succ_iff, not_stopsAt_succ_iff, outcome_after, after_add, ← Nat.add_assoc]

end StopsAt

end Machine

namespace Session

open Machine

-- One step after the other goes on, and none of them leads onto a breakpoint.
inductive Passes : Session → Nat → Session → Prop where
  | rest (s : Session) : Passes s 0 s
  | step {s last : Session} {i : Instruction} {next : Machine} {n : Nat} (hfault : s.fault = none)
      (hstep : s.machine.step s.grid = (.continued i, next)) (hclear : next.cursor ∉ s.breakpoints)
      (hpasses : Passes (s.executed i next) n last) : Passes s (n + 1) last

-- The next step of the session is one to stop after.
def Stops (s : Session) : Prop := s.machine.StopsAt s.grid s.breakpoints 1

-- The session while it is played.
def playOn (s : Session) : Session := { s with playing := true, notice := .playing }

-- Playing changes nothing about a step; a program that cannot go on is not played any more.
theorem stepForward_playOn {s after : Session} {goes : Bool} (hfault : s.fault = none)
    (hforward : s.stepForward = (goes, after)) :
    s.playOn.stepForward = (goes, { after with playing := goes }) := by
  apply stepForward_eq_iff.mpr
  cases stepForward_eq_iff.mp hforward with
  | blocked hshown =>
      rw [hfault] at hshown
      cases hshown
  | @continued i next _ hstep =>
      have hplayed : { s.executed i next with playing := true } = s.playOn.executed i next := by
        by_cases hprint : i = .print <;> simp [executed, playOn, hprint, logPrint, snapshot]
      rw [hplayed]
      exact .continued hfault hstep
  | halted _ hstep => exact .halted hfault hstep
  | faulted _ hstep => exact .faulted hfault hstep

theorem playTick_of_going {s after : Session} (hfault : s.fault = none)
    (hforward : s.stepForward = (true, after)) (hclear : after.machine.cursor ∉ after.breakpoints) :
    s.playOn.playTick = after.playOn := by
  simp only [playTick, stepForward_playOn hfault hforward, if_neg hclear]
  rfl

section Passes

variable {s last : Session} {n limit left : Nat}

theorem Passes.keeps (h : Passes s n last) :
    last.grid = s.grid ∧ last.breakpoints = s.breakpoints ∧ last.fault = s.fault ∧
      last.playing = s.playing ∧ last.machine = s.machine.after s.grid n := by
  induction h with
  | rest s => exact ⟨rfl, rfl, rfl, rfl, rfl⟩
  | @step s last i next n hfault hstep _ _ ih =>
      have hnext : next.after s.grid n = s.machine.after s.grid (n + 1) := by rw [← after_step, hstep]
      simpa [hnext] using ih

theorem Passes.stops_iff (h : Passes s n last) :
    last.Stops ↔ s.machine.StopsAt s.grid s.breakpoints (n + 1) := by
  obtain ⟨hgrid, hbreakpoints, _, _, hmachine⟩ := h.keeps
  rw [Stops, hgrid, hbreakpoints, hmachine]
  exact stopsAt_after_iff

theorem Passes.not_stopsAt (h : Passes s n last) {k : Nat} (hk : k ≤ n) :
    ¬s.machine.StopsAt s.grid s.breakpoints k := by
  induction h generalizing k with
  | rest s =>
      cases Nat.le_zero.mp hk
      exact not_stopsAt_zero
  | @step s last i next n _ hstep hclear _ ih =>
      have hnext : s.machine.after s.grid 1 = next := by simp only [after, hstep]
      rcases k with _ | _ | k
      · exact not_stopsAt_zero
      · refine not_stopsAt_succ_iff.mpr ⟨⟨i, ?_⟩, by rwa [hnext]⟩
        simp only [outcome, after, hstep]
      · have hlater := ih (k := k + 1) (by omega)
        rw [executed_grid, executed_breakpoints, executed_machine, ← hnext, stopsAt_after_iff,
          Nat.add_comm 1 k] at hlater
        exact hlater

theorem exists_passes (hfault : s.fault = none) (left : Nat) :
    ∃ n last, Passes s n last ∧ (n = left ∨ n < left ∧ last.Stops) := by
  induction left generalizing s with
  | zero => exact ⟨0, s, .rest s, .inl rfl⟩
  | succ left ih =>
      by_cases hstops : s.Stops
      · exact ⟨0, s, .rest s, .inr ⟨Nat.succ_pos left, hstops⟩⟩
      · obtain ⟨⟨i, hi⟩, hclear⟩ := not_stopsAt_succ_iff.mp hstops
        have hstep : s.machine.step s.grid = (.continued i, (s.machine.step s.grid).2) := Prod.ext hi rfl
        obtain ⟨n, last, hpasses, hend⟩ :=
          ih (s := s.executed i (s.machine.step s.grid).2) ((executed_fault _ _ _).trans hfault)
        refine ⟨n + 1, last, .step hfault hstep hclear hpasses, ?_⟩
        rcases hend with rfl | ⟨hlt, hstops⟩
        · exact .inl rfl
        · exact .inr ⟨Nat.succ_lt_succ hlt, hstops⟩

theorem runOn_of_passes (h : Passes s n last) : runOn limit (n + left) s = runOn limit left last := by
  induction h with
  | rest s => rw [Nat.zero_add]
  | @step s last i next n hfault hstep hclear _ ih =>
      rw [Nat.add_right_comm, runOn_of_going (stepForward_of_continued hfault hstep) (by simpa using hclear)]
      exact ih

-- A session is played as long as it passes.
theorem playTick_of_passes (h : Passes s n last) :
    playTick^[n] s.playOn = last.playOn ∧ ∀ k ≤ n, (playTick^[k] s.playOn).playing = true := by
  induction h with
  | rest s =>
      refine ⟨rfl, ?_⟩
      intro k hk
      cases Nat.le_zero.mp hk
      rfl
  | @step s last i next n hfault hstep hclear _ ih =>
      obtain ⟨hlast, hplaying⟩ := ih
      have htick : s.playOn.playTick = (s.executed i next).playOn :=
        playTick_of_going hfault (stepForward_of_continued hfault hstep) (by simpa using hclear)
      refine ⟨by rw [Function.iterate_succ_apply, htick, hlast], ?_⟩
      intro k hk
      cases k with
      | zero => rfl
      | succ k =>
          rw [Function.iterate_succ_apply, htick]
          exact hplaying k (by omega)

end Passes

section Stop

variable {s : Session} {limit left : Nat}

theorem machine_stepForward (hfault : s.fault = none) :
    s.stepForward.2.machine = (s.machine.step s.grid).2 := by
  rcases hforward : s.stepForward with ⟨goes, after⟩
  cases stepForward_eq_iff.mp hforward with
  | blocked hshown =>
      rw [hfault] at hshown
      cases hshown
  | @continued i next _ hstep =>
      rw [hstep]
      exact executed_machine s i next
  | halted _ hstep => rw [hstep]
  | faulted _ hstep =>
      obtain ⟨_, _, hkept⟩ := step_eq_faulted_iff.mp hstep
      rw [hstep, hkept]

theorem fault_stepForward_iff (hfault : s.fault = none) (fault : Fault) :
    s.stepForward.2.fault = some fault ↔ (s.machine.step s.grid).1 = .faulted fault := by
  rcases hforward : s.stepForward with ⟨goes, after⟩
  cases stepForward_eq_iff.mp hforward with
  | blocked hshown =>
      rw [hfault] at hshown
      cases hshown
  | continued _ hstep | halted _ hstep | faulted _ hstep => simp [hstep, hfault]

theorem cursor_mem_of_stops {after : Session} (hstops : s.Stops)
    (hforward : s.stepForward = (true, after)) : after.machine.cursor ∈ after.breakpoints := by
  cases stepForward_eq_iff.mp hforward with
  | @continued i next _ hstep =>
      rw [executed_machine, executed_breakpoints]
      by_contra hclear
      refine not_stopsAt_succ_iff.mpr ⟨⟨i, ?_⟩, ?_⟩ hstops
      · simp only [outcome, after, hstep]
      · simpa only [after, hstep] using hclear

-- The step to stop after is the last that running to the end takes, and the last that
-- is played. Both leave the session as that step does.
theorem runOn_of_stops (hstops : s.Stops) :
    ∃ notice, runOn limit (left + 1) s = s.stepForward.2.tell notice := by
  rcases hforward : s.stepForward with ⟨goes, after⟩
  cases goes with
  | false => exact ⟨after.notice, runOn_of_stopped hforward⟩
  | true => exact ⟨_, runOn_of_breakpoint hforward (cursor_mem_of_stops hstops hforward)⟩

theorem playTick_of_stops (hfault : s.fault = none) (hpaused : s.playing = false) (hstops : s.Stops) :
    ∃ notice, s.playOn.playTick = s.stepForward.2.tell notice := by
  have hpaused' := playing_stepForward hpaused
  rcases hforward : s.stepForward with ⟨goes, after⟩
  rw [hforward] at hpaused'
  have hafter : after.pause = after := pause_of_not_playing hpaused'
  cases goes with
  | false =>
      simp only [playTick, stepForward_playOn hfault hforward]
      exact ⟨after.notice, hafter⟩
  | true =>
      have hset := cursor_mem_of_stops hstops hforward
      simp only [playTick, stepForward_playOn hfault hforward, if_pos hset]
      refine ⟨.breakpointHit after.machine.cursor, ?_⟩
      rw [← hafter]
      rfl

end Stop

section Loops

variable {s last : Session} {n limit : Nat}

theorem runOn_of_passes_limit (hpasses : Passes s limit last) :
    runOn limit limit s = last.tell (.stillRunning limit) := by
  have hrest : runOn limit (limit + 0) s = runOn limit 0 last := runOn_of_passes hpasses
  exact hrest

theorem runOn_of_passes_stops (hpasses : Passes s n last) (hstops : last.Stops) (hlt : n < limit) :
    ∃ notice, runOn limit limit s = last.stepForward.2.tell notice := by
  obtain ⟨left, hleft⟩ : ∃ left, limit = n + (left + 1) := ⟨limit - n - 1, by omega⟩
  have hrest : runOn limit (n + (left + 1)) s = runOn limit (left + 1) last := runOn_of_passes hpasses
  rw [← hleft] at hrest
  rw [hrest]
  exact runOn_of_stops hstops

theorem togglePlay_of_live (hpaused : s.playing = false) (hfault : s.fault = none)
    (hgoing : s.machine.halt? s.grid = none) : s.togglePlay = s.playOn := by
  simp [togglePlay, playOn, hpaused, hfault, hgoing]

theorem playTick_of_passes_stops (hpasses : Passes s n last) (hfault : last.fault = none)
    (hpaused : last.playing = false) (hstops : last.Stops) :
    (∀ k < n + 1, (playTick^[k] s.playOn).playing = true) ∧
      ∃ notice, playTick^[n + 1] s.playOn = last.stepForward.2.tell notice := by
  obtain ⟨hlast, hplaying⟩ := playTick_of_passes hpasses
  refine ⟨fun k hk => hplaying k (by omega), ?_⟩
  rw [Function.iterate_succ_apply', hlast]
  exact playTick_of_stops hfault hpaused hstops

end Loops

-- Running to the end takes steps up to the first that halts, faults or leads onto a
-- breakpoint, so of all the cells with a breakpoint only the first can be executed.
-- Playing stops after the same step and leaves the same session, but for the notice.
theorem breakpoints_stop_run_and_play_alike (s : Session) (hfault : s.fault = none)
    (hgoing : s.machine.halt? s.grid = none) :
    ∃ n, 1 ≤ n ∧ n ≤ 100000 ∧ (s.machine.StopsAt s.grid s.breakpoints n ∨ n = 100000) ∧
      (∀ k < n, ¬s.machine.StopsAt s.grid s.breakpoints k) ∧
      s.runToEnd.machine = s.machine.after s.grid n ∧
      (∀ fault, s.runToEnd.fault = some fault ↔ s.machine.outcome s.grid (n - 1) = .faulted fault) ∧
      (∀ k, 0 < k → k < n → (s.machine.after s.grid k).cursor ∉ s.breakpoints) ∧
      (s.playing = false → s.machine.StopsAt s.grid s.breakpoints n →
        (∀ k < n, (playTick^[k] s.togglePlay).playing = true) ∧
        (playTick^[n] s.togglePlay).playing = false ∧
        playTick^[n] s.togglePlay = s.runToEnd.tell (playTick^[n] s.togglePlay).notice) := by
  have hclear : ∀ k, 0 < k → ¬s.machine.StopsAt s.grid s.breakpoints k →
      (s.machine.after s.grid k).cursor ∉ s.breakpoints := by
    intro k hpos hpassed
    obtain ⟨j, rfl⟩ : ∃ j, k = j + 1 := ⟨k - 1, by omega⟩
    exact (not_stopsAt_succ_iff.mp hpassed).2
  obtain ⟨n, last, hpasses, hend⟩ := exists_passes hfault 100000
  obtain ⟨hgrid, hbreakpoints, hfault', hplaying, hmachine⟩ := hpasses.keeps
  rw [hfault] at hfault'
  rcases hend with rfl | ⟨hlt, hstops⟩
  · have hfirst : ∀ k ≤ 100000, ¬s.machine.StopsAt s.grid s.breakpoints k := fun k => hpasses.not_stopsAt
    obtain ⟨⟨i, hcontinued⟩, _⟩ := not_stopsAt_succ_iff.mp (hfirst (99999 + 1) (Nat.le_refl _))
    have hrun : s.runToEnd = last.tell (.stillRunning 100000) := runOn_of_passes_limit hpasses
    refine ⟨100000, by omega, Nat.le_refl _, .inr rfl, fun k hk => hfirst k (by omega), ?_, ?_,
      fun k hpos hk => hclear k hpos (hfirst k (by omega)), ?_⟩
    · rw [hrun]
      exact hmachine
    · intro fault
      rw [hrun, hcontinued]
      simp [tell, hfault']
    · intro _ hstops
      exact absurd hstops (hfirst _ (Nat.le_refl _))
  · have hfirst : ∀ k < n + 1, ¬s.machine.StopsAt s.grid s.breakpoints k :=
      fun k hk => hpasses.not_stopsAt (by omega)
    obtain ⟨notice, hrun⟩ : ∃ notice, s.runToEnd = last.stepForward.2.tell notice :=
      runOn_of_passes_stops hpasses hstops hlt
    have hstep : s.machine.after s.grid n = last.machine ∧ s.grid = last.grid := ⟨hmachine.symm, hgrid.symm⟩
    refine ⟨n + 1, by omega, by omega, .inl (hpasses.stops_iff.mp hstops), hfirst, ?_, ?_,
      fun k hpos hk => hclear k hpos (hfirst k hk), ?_⟩
    · rw [hrun, after, hstep.1, hstep.2]
      exact machine_stepForward hfault'
    · intro fault
      rw [hrun, Nat.add_sub_cancel, outcome, hstep.1, hstep.2]
      exact fault_stepForward_iff hfault' fault
    · intro hpaused _
      rw [hpaused] at hplaying
      obtain ⟨hticks, said, hlast⟩ := playTick_of_passes_stops hpasses hfault' hplaying hstops
      rw [togglePlay_of_live hpaused hfault hgoing, hlast]
      refine ⟨hticks, playing_stepForward hplaying, ?_⟩
      rw [hrun]
      rfl

-- The program starts on a breakpoint, which does not stop it, and stops at the next one.
theorem breakpoints_stop_run_and_play_alike_second :
    let g : Grid := ⟨1, 4, #[.increment, .print, .increment, .exit], rfl⟩
    let s := (start g (Machine.start 1 Point.zero) 3).handleAll [.press (.char 'b'), .press (.char '2'),
      .press (.char 'b'), .press .left, .press .left]
    s.fault = none ∧ s.machine.halt? s.grid = none ∧ s.playing = false ∧ s.machine.cursor ∈ s.breakpoints ∧
      s.machine.StopsAt s.grid s.breakpoints 2 ∧ s.runToEnd.machine = s.machine.after s.grid 2 ∧
      (playTick^[1] s.togglePlay).playing = true ∧ (playTick^[2] s.togglePlay).playing = false ∧
      playTick^[2] s.togglePlay = s.runToEnd.tell (playTick^[2] s.togglePlay).notice := by
  intro g s
  have hfault : s.fault = none := by decide +kernel
  have hgoing : s.machine.halt? s.grid = none := by decide +kernel
  have hpaused : s.playing = false := by decide +kernel
  have hset : s.machine.cursor ∈ s.breakpoints := by decide +kernel
  have hstops : s.machine.StopsAt s.grid s.breakpoints 2 := .breakpoint (by decide +kernel)
  have hrun : s.runToEnd.machine.steps = 2 := by decide +kernel
  have hone : (s.machine.after s.grid 1).steps = 1 := by decide +kernel
  obtain ⟨n, hpos, _, _, hfirst, hmachine, _, _, hplay⟩ :=
    breakpoints_stop_run_and_play_alike s hfault hgoing
  have hle : n ≤ 2 := by
    by_contra hlater
    exact hfirst 2 (by omega) hstops
  have hne : n ≠ 1 := by
    rintro rfl
    rw [hmachine, hone] at hrun
    cases hrun
  obtain rfl : n = 2 := by omega
  obtain ⟨hplaying, hpaused', hsame⟩ := hplay hpaused hstops
  exact ⟨hfault, hgoing, hpaused, hset, hstops, hmachine, hplaying 1 (by omega), hpaused', hsame⟩

end Session

end GridWalk
