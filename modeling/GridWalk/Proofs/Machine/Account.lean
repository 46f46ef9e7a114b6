import GridWalk.Proofs.Machine.Walk

namespace GridWalk

-- One if Exit was executed on the way between two machines of a run.
def Machine.exitsTo (m final : Machine) : Nat := if m.exited = false ∧ final.exited = true then 1 else 0

-- The request to stop is there when the turn after the first `k` calls begins.
def Observer.AskedAt {σ : Type} (observer : Observer σ) (t : σ) (calls : List (Machine × Instruction))
    (k : Nat) : Prop :=
  observer.cancelled (observer.watch t (calls.take k)) = true

namespace Run

open Machine

-- What a run has to say for itself when it has made its calls and comes back with a
-- machine and a result. A turn begins after each of the calls, and one before them.
structure Accounts {σ : Type} (g : Grid) (limit : Option Nat) (observer : Observer σ) (t : σ) (m : Machine)
    (calls : List (Machine × Instruction)) (final : Machine) (result : Except Fault RunSummary) :
    Prop where
  seen : ∀ (k : Nat) (hk : k < calls.length),
    m.outcome g k = .continued calls[k].2 ∧ calls[k].1 = m.after g (k + 1)
  state : final = m.after g (calls.length + m.exitsTo final)
  counted : ∀ summary, result = .ok summary → summary.steps = calls.length + m.exitsTo final
  limited : ∀ max, limit = some max → calls.length + m.exitsTo final ≤ max
  cancelled : result.map RunSummary.finish = .ok .cancelled ↔
    ∃ k ≤ calls.length, observer.AskedAt t calls k
  stepLimit : (∀ k ≤ calls.length, ¬observer.AskedAt t calls k) →
    (result.map RunSummary.finish = .ok .stepLimit ↔ ∃ k ≤ calls.length, limit = some k)
  stepped : (∀ k ≤ calls.length, ¬observer.AskedAt t calls k) → (∀ k ≤ calls.length, limit ≠ some k) →
    (∀ reason, result.map RunSummary.finish = .ok (.halted reason) ↔
      m.outcome g calls.length = .halted reason) ∧
    ∀ fault, result = .error fault ↔ m.outcome g calls.length = .faulted fault

variable {σ : Type} {g : Grid} {limit : Option Nat} {observer : Observer σ} {t : σ}
  {m last final : Machine} {calls : List (Machine × Instruction)} {asked : Bool}
  {result : Except Fault RunSummary}

theorem exitsTo_of_exited_eq (h : last.exited = m.exited) : m.exitsTo last = 0 := by
  rw [exitsTo, h]
  cases m.exited <;> rfl

-- After its calls a run leaves the machine alone, or executes Exit and nothing more.
theorem exit_cases (hwalks : Walks g m calls last)
    (htakes : Takes g limit m.steps last asked (.over final result)) :
    (final = last ∧ m.exitsTo final = 0) ∨
    (final = last.leave ∧ m.exitsTo final = 1 ∧ last.step g = (.halted .exit, final) ∧
      Below limit calls.length) := by
  have hkept : m.exitsTo last = 0 := exitsTo_of_exited_eq hwalks.exited_eq
  cases htakes with
  | cancelled | limit => exact .inl ⟨rfl, hkept⟩
  | halted hbelow hstep =>
      rcases step_eq_halted_iff.mp hstep with ⟨_, rfl⟩ | ⟨hexited, _, rfl, rfl⟩
      · exact .inl ⟨rfl, hkept⟩
      · have hstart : m.exited = false := by rw [← hwalks.exited_eq, hexited]
        rw [hwalks.steps_eq, Nat.add_sub_cancel_left] at hbelow
        exact .inr ⟨rfl, by simp [exitsTo, hstart, leave], hstep, hbelow⟩
  | faulted _ hstep =>
      obtain ⟨_, _, rfl⟩ := step_eq_faulted_iff.mp hstep
      exact .inl ⟨rfl, hkept⟩

theorem state_of_takes (hwalks : Walks g m calls last)
    (htakes : Takes g limit m.steps last asked (.over final result)) :
    final = m.after g (calls.length + m.exitsTo final) ∧
      final.steps = m.steps + (calls.length + m.exitsTo final) := by
  rcases exit_cases hwalks htakes with ⟨rfl, hzero⟩ | ⟨hleave, hone, hstep, _⟩
  · rw [hzero]
    exact ⟨hwalks.after_eq.symm, hwalks.steps_eq⟩
  · rw [hone, after, hwalks.after_eq, hstep]
    refine ⟨rfl, ?_⟩
    rw [hleave, leave, hwalks.steps_eq]
    rfl

theorem limited_of_takes (hwalks : Walks g m calls last)
    (hopen : Unhindered limit observer m.steps t m calls)
    (htakes : Takes g limit m.steps last asked (.over final result)) {max : Nat}
    (hlimit : limit = some max) : calls.length + m.exitsTo final ≤ max := by
  rcases exit_cases hwalks htakes with ⟨_, hzero⟩ | ⟨_, hone, _, hbelow⟩
  · have hle := length_le_of_unhindered hopen hlimit
    omega
  · have hlt := hbelow max hlimit
    omega

theorem steps_of_takes {first : Nat} {summary : RunSummary}
    (htakes : Takes g limit first last asked (.over final (.ok summary))) :
    summary.steps = final.steps - first := by
  cases htakes <;> rfl

-- Only the last turn can have found the request.
theorem exists_askedAt_iff (hopen : Unhindered limit observer m.steps t m calls) :
    (∃ k ≤ calls.length, observer.AskedAt t calls k) ↔
      observer.cancelled (observer.watch t calls) = true := by
  constructor
  · rintro ⟨k, hk, hasked⟩
    rcases Nat.lt_or_eq_of_le hk with hlt | rfl
    · have hpatient := hopen.patient k hlt
      rw [Observer.AskedAt, hpatient] at hasked
      cases hasked
    · rwa [Observer.AskedAt, List.take_length] at hasked
  · intro hasked
    refine ⟨calls.length, Nat.le_refl _, ?_⟩
    rwa [Observer.AskedAt, List.take_length]

theorem not_exists_limit {steps : Nat} (hbelow : Below limit steps) :
    ¬∃ k ≤ steps, limit = some k := by
  rintro ⟨k, hk, hlimit⟩
  have hlt := hbelow k hlimit
  omega

theorem accounts_of_takes (hwalks : Walks g m calls last)
    (hopen : Unhindered limit observer m.steps t m calls)
    (htakes : Takes g limit m.steps last (observer.cancelled (observer.watch t calls))
      (.over final result)) :
    Accounts g limit observer t m calls final result := by
  obtain ⟨hstate, hsteps⟩ := state_of_takes hwalks htakes
  have hasked := exists_askedAt_iff hopen
  have hunasked : (∀ k ≤ calls.length, ¬observer.AskedAt t calls k) →
      observer.cancelled (observer.watch t calls) = false := by
    intro hnever
    rw [Bool.eq_false_iff, Ne, ← hasked]
    rintro ⟨k, hk, hfound⟩
    exact hnever k hk hfound
  have hcount : last.steps - m.steps = calls.length := by
    rw [hwalks.steps_eq]
    omega
  have hnext : m.outcome g calls.length = (last.step g).1 := by rw [outcome, hwalks.after_eq]
  constructor
  case seen => exact fun k hk => hwalks.call_eq hk
  case state => exact hstate
  case counted =>
    rintro summary rfl
    rw [steps_of_takes htakes, hsteps]
    omega
  case limited => exact fun max hlimit => limited_of_takes hwalks hopen htakes hlimit
  case cancelled =>
    rw [hasked]
    generalize observer.cancelled (observer.watch t calls) = asked at htakes
    cases htakes <;> simp [Except.map]
  case stepLimit =>
    intro hnever
    rw [hunasked hnever] at htakes
    cases htakes with
    | limit hlimit hreached =>
        rw [hcount] at hreached
        exact ⟨fun _ => ⟨_, hreached, hlimit⟩, fun _ => rfl⟩
    | halted hbelow _ | faulted hbelow _ =>
        rw [hcount] at hbelow
        simpa [Except.map] using not_exists_limit hbelow
  case stepped =>
    intro hnever hroom
    rw [hunasked hnever] at htakes
    rw [hnext]
    cases htakes with
    | limit hlimit hreached =>
        rw [hcount] at hreached
        exact absurd hlimit (hroom _ hreached)
    | halted _ hstep | faulted _ hstep => simp [hstep, Except.map, eq_comm]

-- A run that comes back has executed what it says, and no more: the observer saw each
-- continued instruction once and in order, and the one way of ending that comes first
-- is the one that is told. With a limit it always comes back.
theorem run_accounts_exactly {σ : Type} (g : Grid) (limit : Option Nat) (observer : Observer σ) (t : σ)
    (m : Machine) :
    (∀ fuel t' final result, m.run g limit observer fuel t = some (t', final, result) →
      ∃ calls, m.run g limit observer.logged fuel (t, []) = some ((t', calls), final, result) ∧
        Accounts g limit observer t m calls final result) ∧
    ∀ max fuel, limit = some max → max < fuel → (m.run g limit observer fuel t).isSome := by
  constructor
  · intro fuel t' final result hrun
    rw [run, loop_eq_map_logged, Option.map_eq_some_iff] at hrun
    obtain ⟨⟨⟨_, calls⟩, _⟩, hlogged, hsame⟩ := hrun
    cases hsame
    obtain ⟨last, hwalks, hopen, rfl, htakes⟩ := exists_walks_of_logged hlogged
    exact ⟨calls, hlogged, accounts_of_takes hwalks hopen htakes⟩
  · rintro max fuel rfl hfuel
    exact isSome_loop (Nat.le_refl _) (by omega) (by omega)

-- Exit is the third step and the limit is three, so the run ends by Exit and has made
-- two calls.
theorem run_accounts_exactly_exit :
    let g : Grid := ⟨1, 3, #[.print, .increment, .exit], rfl⟩
    let m := start 1 Point.zero
    let observer : Observer Nat := ⟨fun _ => false, fun count _ _ => count + 1⟩
    m.run g (some 3) observer 4 0 = some (2, m.after g 3, .ok ⟨.halted .exit, 3⟩) ∧
      ∃ calls, calls.length = 2 ∧
        m.run g (some 3) observer.logged 4 (0, []) =
          some ((2, calls), m.after g 3, .ok ⟨.halted .exit, 3⟩) ∧
        Accounts g (some 3) observer 0 m calls (m.after g 3) (.ok ⟨.halted .exit, 3⟩) := by
  intro g m observer
  have hrun : m.run g (some 3) observer 4 0 = some (2, m.after g 3, .ok ⟨.halted .exit, 3⟩) := by
    unfold g m observer
    rfl
  obtain ⟨haccounts, _⟩ := run_accounts_exactly g (some 3) observer 0 m
  obtain ⟨calls, hlogged, haccount⟩ := haccounts 4 _ _ _ hrun
  have hexit : m.exitsTo (m.after g 3) = 1 := by decide
  have hcounted := haccount.counted _ rfl
  rw [hexit] at hcounted
  exact ⟨hrun, calls, (Nat.succ.inj hcounted).symm, hlogged, haccount⟩

end Run

end GridWalk
