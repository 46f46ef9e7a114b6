import GridWalk.Proofs.Machine.Walk

namespace GridWalk

-- The summary of a run to which the steps of an earlier one are added.
def RunSummary.resumed (summary : RunSummary) (earlier : Nat) : RunSummary :=
  { summary with steps := earlier + summary.steps }

def Turn.resumed (earlier : Nat) : Turn → Turn
  | .over final result => .over final (result.map (·.resumed earlier))
  | .executed next i => .executed next i

namespace Run

open Machine

variable {σ : Type} {g : Grid} {limit : Option Nat} {observer : Observer σ} {first earlier fuel : Nat}
  {t : σ} {m : Machine}

theorem below_map_iff {steps : Nat} :
    Below (limit.map (earlier + ·)) (earlier + steps) ↔ Below limit steps := by
  cases limit <;> simp [Below]

-- A turn does not care when its run began, if the limit is moved along.
theorem turn_resumed (hearlier : first + earlier ≤ m.steps) (cancelled : Bool) :
    turn g (limit.map (earlier + ·)) first cancelled m =
      (turn g limit (first + earlier) cancelled m).resumed earlier := by
  have hsteps : ∀ {steps}, m.steps ≤ steps → earlier + (steps - (first + earlier)) = steps - first := by
    omega
  have hbelow : Below limit (m.steps - (first + earlier)) →
      Below (limit.map (earlier + ·)) (m.steps - first) := by
    rw [← hsteps (Nat.le_refl _)]
    exact below_map_iff.mpr
  generalize hturn : turn g limit (first + earlier) cancelled m = turned
  apply turn_eq_iff.mpr
  cases turn_eq_iff.mp hturn with
  | cancelled =>
      simp only [Turn.resumed, Except.map, RunSummary.resumed, hsteps (Nat.le_refl _)]
      exact .cancelled
  | @limit max hlimit hreached =>
      have hmoved : limit.map (earlier + ·) = some (earlier + max) := by
        rw [hlimit]
        rfl
      simp only [Turn.resumed, Except.map, RunSummary.resumed, hsteps (Nat.le_refl _)]
      exact .limit hmoved (by omega)
  | executed hroom hstep => exact .executed (hbelow hroom) hstep
  | @halted final reason hroom hstep =>
      have hlater : m.steps ≤ final.steps := by
        rcases step_eq_halted_iff.mp hstep with ⟨_, rfl⟩ | ⟨_, _, _, rfl⟩
        · exact Nat.le_refl _
        · exact Nat.le_succ _
      simp only [Turn.resumed, Except.map, RunSummary.resumed, hsteps hlater]
      exact .halted (hbelow hroom) hstep
  | faulted hroom hstep => exact .faulted (hbelow hroom) hstep

theorem loop_resumed (hearlier : first + earlier ≤ m.steps) :
    loop g (limit.map (earlier + ·)) observer first fuel t m =
      (loop g limit observer (first + earlier) fuel t m).map fun (t', final, result) =>
        (t', final, result.map (·.resumed earlier)) := by
  induction fuel generalizing t m with
  | zero => rfl
  | succ fuel ih =>
      rw [loop, loop, turn_resumed hearlier]
      rcases hturn : turn g limit (first + earlier) (observer.cancelled t) m with
        ⟨final, result⟩ | ⟨next, i⟩
      · rfl
      · generalize observer.cancelled t = cancelled at hturn
        cases turn_eq_iff.mp hturn with
        | executed _ hstep =>
            have hsteps := steps_of_continued hstep
            exact ih (by omega)

-- What was logged before a run stays in front of what the run logs.
theorem loop_logged (log : List (Machine × Instruction)) :
    loop g limit observer.logged first fuel (t, log) m =
      (loop g limit observer.logged first fuel (t, []) m).map fun ended =>
        ((ended.1.1, log ++ ended.1.2), ended.2) := by
  have hseen : ∀ (s : σ × List (Machine × Instruction)) (m : Machine) (i : Instruction),
      observer.logged.seen (s.1, log ++ s.2) m i =
        ((observer.logged.seen s m i).1, log ++ (observer.logged.seen s m i).2) := by
    intro s m i
    simp [Observer.logged]
  calc
    loop g limit observer.logged first fuel (t, log) m
        = loop g limit observer.logged first fuel (t, log ++ []) m := by rw [List.append_nil]
    _ = _ := loop_map (fun s => (s.1, log ++ s.2)) (fun _ => rfl) hseen (t, []) m

-- A run that was stopped by its limit has made as many calls.
theorem walks_of_stepLimit {mid : Machine} {n steps : Nat} {t' : σ} {calls : List (Machine × Instruction)}
    (h : loop g (some n) observer.logged m.steps fuel (t, []) m =
      some ((t', calls), mid, .ok ⟨.stepLimit, steps⟩)) :
    Walks g m calls mid ∧ calls.length = n ∧ steps = n ∧ t' = observer.watch t calls := by
  obtain ⟨last, hwalks, hopen, ht', htakes⟩ := exists_walks_of_logged h
  have hle := length_le_of_unhindered hopen rfl
  have hsteps := hwalks.steps_eq
  generalize observer.cancelled t' = cancelled at htakes
  cases htakes with
  | limit hlimit hreached =>
      cases hlimit
      exact ⟨hwalks, by omega, by omega, ht'⟩

-- A run that was stopped by its limit can be taken up again as if it had not been:
-- the rest of it, under any limit or none, is the rest of one run with both limits.
theorem run_resumes_without_trace {σ : Type} {g : Grid} {observer : Observer σ}
    (hpatient : observer.Patient) {m mid : Machine} {n steps enough : Nat} {t t' : σ}
    {calls : List (Machine × Instruction)}
    (hlimited : m.run g (some n) observer.logged enough (t, []) =
      some ((t', calls), mid, .ok ⟨.stepLimit, steps⟩)) :
    (∀ (limit : Option Nat) (fuel : Nat),
      m.run g (limit.map (n + ·)) observer.logged (n + fuel) (t, []) =
        (mid.run g limit observer.logged fuel (t', [])).map fun ((t'', later), final, result) =>
          ((t'', calls ++ later), final, result.map (·.resumed steps))) ∧
    ∀ max fuel, max < fuel → (mid.run g (some max) observer.logged fuel (t', [])).isSome := by
  obtain ⟨hwalks, rfl, rfl, rfl⟩ := walks_of_stepLimit hlimited
  constructor
  · intro limit fuel
    have hlogged : observer.logged.Patient := fun s => hpatient s.1
    have hpassed : Unhindered (limit.map (calls.length + ·)) observer.logged m.steps (t, []) m calls := by
      apply unhindered_of_patient hlogged
      cases limit <;> simp
    have hbegun : m.steps + calls.length = mid.steps := hwalks.steps_eq.symm
    rw [run, loop_of_walks hwalks hpassed, Observer.watch_logged, List.nil_append,
      loop_resumed (Nat.le_of_eq hbegun), hbegun, loop_logged, Option.map_map]
    rfl
  · intro max fuel hfuel
    exact isSome_loop (Nat.le_refl _) (by omega) (by omega)

-- The first run is stopped before a Print, the second one faults after it.
theorem run_resumes_without_trace_division :
    let g : Grid := ⟨1, 4, #[.print, .increment, .print, .div], rfl⟩
    let m := start 1 Point.zero
    let mid : Machine := { start 1 ⟨0, 2⟩ with accumulator := 1, steps := 2 }
    let stuck : Machine := { start 1 ⟨0, 3⟩ with accumulator := 1, steps := 3 }
    let observer : Observer Nat := ⟨fun _ => false, fun count _ _ => count + 1⟩
    ∃ calls, m.run g (some 2) observer.logged 3 (0, []) = some ((2, calls), mid, .ok ⟨.stepLimit, 2⟩) ∧
      mid.run g none observer.logged 2 (2, []) =
        some ((3, [(stuck, .print)]), stuck, .error (.divisionByZero ⟨0, 3⟩)) ∧
      m.run g none observer.logged 4 (0, []) =
        some ((3, calls ++ [(stuck, .print)]), stuck, .error (.divisionByZero ⟨0, 3⟩)) := by
  intro g m mid stuck observer
  have hlimited : m.run g (some 2) observer.logged 3 (0, []) =
      some ((2, [({ start 1 ⟨0, 1⟩ with steps := 1 }, .print), (mid, .increment)]), mid,
        .ok ⟨.stepLimit, 2⟩) := by
    unfold g m mid observer
    rfl
  have hrest : mid.run g none observer.logged 2 (2, []) =
      some ((3, [(stuck, .print)]), stuck, .error (.divisionByZero ⟨0, 3⟩)) := by
    unfold g mid stuck observer
    rfl
  obtain ⟨hresumed, _⟩ := run_resumes_without_trace (fun _ => rfl) hlimited
  have hwhole := hresumed none 2
  rw [hrest] at hwhole
  exact ⟨_, hlimited, hrest, hwhole⟩

end Run

end GridWalk
