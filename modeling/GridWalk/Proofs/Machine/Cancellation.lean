import GridWalk.Proofs.Machine.Walk

namespace GridWalk

-- The same summary with a request to stop in the place of the limit.
def RunSummary.asCancelled (summary : RunSummary) : RunSummary :=
  { summary with finish := if summary.finish = .stepLimit then .cancelled else summary.finish }

-- In the run from `m` the request to stop comes with the k-th call and not before it.
def Observer.AsksOnCall {σ : Type} (observer : Observer σ) (g : Grid) (t : σ) (m : Machine) (k : Nat) :
    Prop :=
  ∀ calls last, Machine.Walks g m calls last → calls.length ≤ k →
    (observer.cancelled (observer.watch t calls) = true ↔ calls.length = k)

namespace Run

open Machine

variable {σ τ : Type} {g : Grid} {limit : Option Nat} {observer : Observer σ} {t : σ} {k fuel : Nat}
  {m last final : Machine} {calls : List (Machine × Instruction)} {result : Except Fault RunSummary}

-- Up to the call with the request nothing stops the run, if the limit lets it get there.
theorem unhindered_of_asksOnCall (hasks : observer.AsksOnCall g t m k) (hwalks : Walks g m calls last)
    (hlimit : ∀ max, limit = some max → k ≤ max) (hle : calls.length ≤ k) :
    Unhindered limit observer m.steps t m calls := by
  apply unhindered_of_le
  · intro n hn
    obtain ⟨mid, hmid⟩ := hwalks.take n
    have hlength : (calls.take n).length = n := by
      rw [List.length_take]
      omega
    have hasked := hasks _ mid hmid (by omega)
    rw [Bool.eq_false_iff, Ne, hasked]
    omega
  · intro max hmax
    exact Nat.le_trans hle (hlimit max hmax)

-- The turn after the call with the request is over, like a turn that the limit ends.
-- Any earlier turn does the same with the request to come as with the limit to come.
theorem takes_of_asksOnCall (hasks : observer.AsksOnCall g t m k) (hwalks : Walks g m calls last)
    (hlimit : ∀ max, limit = some max → k ≤ max) (hle : calls.length ≤ k)
    (htakes : Takes g (some k) m.steps last false (.over final result)) :
    Takes g limit m.steps last (observer.cancelled (observer.watch t calls))
      (.over final (result.map (·.asCancelled))) := by
  have hasked := hasks calls last hwalks hle
  have hsteps := hwalks.steps_eq
  have hopen : Below (some k) (last.steps - m.steps) →
      observer.cancelled (observer.watch t calls) = false ∧ Below limit (last.steps - m.steps) := by
    intro hbelow
    have hearly := hbelow k rfl
    constructor
    · rw [Bool.eq_false_iff, Ne, hasked]
      omega
    · intro max hmax
      have hroom := hlimit max hmax
      omega
  cases htakes with
  | limit hk hreached =>
      cases hk
      rw [hasked.mpr (by omega)]
      exact .cancelled
  | halted hbelow hstep =>
      obtain ⟨hquiet, hroom⟩ := hopen hbelow
      rw [hquiet]
      exact .halted hroom hstep
  | faulted hbelow hstep =>
      obtain ⟨hquiet, hroom⟩ := hopen hbelow
      rw [hquiet]
      exact .faulted hroom hstep

-- A request to stop with the k-th call cuts a run where a limit of k cuts it.
theorem run_of_asksOnCall {other : Observer τ} {u : τ} (hasks : observer.AsksOnCall g t m k)
    (hpatient : other.Patient) (hlimit : ∀ max, limit = some max → k ≤ max) (hfuel : k < fuel) :
    ∃ calls final result,
      m.run g (some k) other.logged fuel (u, []) = some ((other.watch u calls, calls), final, result) ∧
      m.run g limit observer.logged fuel (t, []) =
        some ((observer.watch t calls, calls), final, result.map (·.asCancelled)) := by
  have hends : (m.run g (some k) other.logged fuel (u, [])).isSome :=
    isSome_loop (Nat.le_refl _) (by omega) (by omega)
  obtain ⟨⟨⟨u', calls⟩, final, result⟩, hlimited⟩ := Option.isSome_iff_exists.mp hends
  obtain ⟨last, hwalks, hopen, rfl, htakes⟩ := exists_walks_of_logged hlimited
  have hle := length_le_of_unhindered hopen rfl
  rw [hpatient] at htakes
  have htakes' := takes_of_asksOnCall hasks hwalks hlimit hle htakes
  have hopen' := unhindered_of_asksOnCall hasks hwalks hlimit hle
  refine ⟨calls, final, result, hlimited, ?_⟩
  have hwatch := observer.watch_logged t [] calls
  rw [List.nil_append] at hwatch
  rw [← hwatch]
  exact loop_of_takes hwalks (unhindered_logged_iff.mpr hopen') (by rw [hwatch]; exact htakes') (by omega)

-- The call with the request is the last one.
theorem run_of_asksOnCall_of_walks (hasks : observer.AsksOnCall g t m k) (hwalks : Walks g m calls last)
    (hlength : calls.length = k) (hlimit : ∀ max, limit = some max → k ≤ max) (hfuel : k < fuel) :
    m.run g limit observer fuel t = some (observer.watch t calls, last, .ok ⟨.cancelled, k⟩) := by
  have hle : calls.length ≤ k := Nat.le_of_eq hlength
  have hasked := (hasks calls last hwalks hle).mpr hlength
  have hcount : k = last.steps - m.steps := by
    rw [hwalks.steps_eq]
    omega
  refine loop_of_takes hwalks (unhindered_of_asksOnCall hasks hwalks hlimit hle) ?_ (by omega)
  rw [hasked, hcount]
  exact .cancelled

end Run

end GridWalk
