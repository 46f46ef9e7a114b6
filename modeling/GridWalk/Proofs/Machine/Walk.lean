import GridWalk.Proofs.Machine.Run

namespace GridWalk

namespace Machine

-- Executing one instruction after the other the machine comes to `last`. Each call
-- is an instruction with the machine right after it.
inductive Walks (g : Grid) : Machine → List (Machine × Instruction) → Machine → Prop where
  | rest (m : Machine) : Walks g m [] m
  | step {m next last : Machine} {i : Instruction} {calls : List (Machine × Instruction)}
      (hstep : m.step g = (.continued i, next)) (hwalks : Walks g next calls last) :
      Walks g m ((next, i) :: calls) last

section Walks

variable {g : Grid} {m last : Machine} {calls : List (Machine × Instruction)}

theorem Walks.steps_eq (h : Walks g m calls last) : last.steps = m.steps + calls.length := by
  induction h with
  | rest m => rfl
  | step hstep _ ih =>
      rw [ih, steps_of_continued hstep, List.length_cons]
      omega

theorem Walks.exited_eq (h : Walks g m calls last) : last.exited = m.exited := by
  induction h with
  | rest m => rfl
  | step hstep _ ih =>
      obtain ⟨hexited, _⟩ := step_eq_continued_iff.mp hstep
      rw [ih, exited_of_continued hstep, hexited]

theorem Walks.after_eq (h : Walks g m calls last) : m.after g calls.length = last := by
  induction h with
  | rest m => rfl
  | step hstep _ ih =>
      rw [List.length_cons, ← after_step, hstep]
      exact ih

-- The calls are the continued steps of the machine in their order.
theorem Walks.call_eq (h : Walks g m calls last) {k : Nat} (hk : k < calls.length) :
    m.outcome g k = .continued calls[k].2 ∧ calls[k].1 = m.after g (k + 1) := by
  induction h generalizing k with
  | rest m => simp at hk
  | @step m next last i calls hstep _ ih =>
      cases k with
      | zero => simp [outcome, after, hstep]
      | succ k =>
          have hnext : ∀ n, next.after g n = m.after g (n + 1) := by
            intro n
            rw [← after_step, hstep]
          obtain ⟨houtcome, hafter⟩ := ih (k := k) (by simpa using hk)
          rw [outcome, hnext] at houtcome
          exact ⟨houtcome, hafter.trans (hnext (k + 1))⟩

theorem Walks.executes (hwalks : Walks g m calls last) : m.Executes g calls.length := by
  intro k hk
  have hstep : (m.after g k).step g = (.continued calls[k].2, ((m.after g k).step g).2) :=
    Prod.ext (hwalks.call_eq hk).1 rfl
  rw [execute?, hstep]
  rfl

theorem Walks.executes_exit (hwalks : Walks g m calls last)
    (hstep : last.step g = (.halted .exit, last.leave)) :
    m.Executes g (calls.length + 1) ∧ m.after g (calls.length + 1) = last.leave := by
  constructor
  · apply hwalks.executes.succ
    rw [hwalks.after_eq]
    simp [execute?, hstep, leave]
  · rw [after, hwalks.after_eq, hstep]

theorem walks_append_iff {more : List (Machine × Instruction)} :
    Walks g m (calls ++ more) last ↔ ∃ mid, Walks g m calls mid ∧ Walks g mid more last := by
  induction calls generalizing m with
  | nil =>
      constructor
      · intro h
        exact ⟨m, .rest m, h⟩
      · rintro ⟨mid, hfirst, hmore⟩
        cases hfirst
        exact hmore
  | cons call calls ih =>
      constructor
      · intro h
        cases h with
        | step hstep hrest =>
            obtain ⟨mid, hcalls, hmore⟩ := ih.mp hrest
            exact ⟨mid, .step hstep hcalls, hmore⟩
      · rintro ⟨mid, hfirst, hmore⟩
        cases hfirst with
        | step hstep hcalls => exact .step hstep (ih.mpr ⟨mid, hcalls, hmore⟩)

theorem Walks.take (h : Walks g m calls last) (n : Nat) : ∃ mid, Walks g m (calls.take n) mid := by
  have hsplit : Walks g m (calls.take n ++ calls.drop n) last := by rwa [List.take_append_drop]
  obtain ⟨mid, hmid, _⟩ := walks_append_iff.mp hsplit
  exact ⟨mid, hmid⟩

theorem exists_walks_of_continued {count : Nat} (h : ∀ k < count, ∃ i, m.outcome g k = .continued i) :
    ∃ calls, Walks g m calls (m.after g count) ∧ calls.length = count := by
  induction count with
  | zero => exact ⟨[], .rest m, rfl⟩
  | succ count ih =>
      obtain ⟨calls, hwalks, hlength⟩ := ih fun k hk => h k (by omega)
      obtain ⟨i, hgoes⟩ := h count (by omega)
      have hstep : (m.after g count).step g = (.continued i, m.after g (count + 1)) := Prod.ext hgoes rfl
      refine ⟨calls ++ [(m.after g (count + 1), i)], walks_append_iff.mpr ?_, by simp [hlength]⟩
      exact ⟨m.after g count, hwalks, .step hstep (.rest _)⟩

-- There is one way to walk, so a walk is the beginning of every longer one.
theorem Walks.isPrefix {other : Machine} {more : List (Machine × Instruction)} (h : Walks g m calls last)
    (hmore : Walks g m more other) (hle : calls.length ≤ more.length) : calls <+: more := by
  induction h generalizing more with
  | rest m => exact List.nil_prefix
  | @step m next last i calls hstep _ ih =>
      cases hmore with
      | rest => simp at hle
      | step hstep' hrest =>
          rw [hstep] at hstep'
          cases hstep'
          exact (List.prefix_cons_inj _).mpr (ih hrest (by simpa using hle))

end Walks

end Machine

namespace Run

open Machine

variable {σ τ : Type} {g : Grid} {limit : Option Nat} {observer : Observer σ} {first fuel : Nat} {t : σ}
  {m next last : Machine} {i : Instruction} {calls : List (Machine × Instruction)}

-- The limit, if there is one, leaves room for one more step.
def Below (limit : Option Nat) (steps : Nat) : Prop := ∀ max, limit = some max → steps < max

theorem any_le_eq_false_iff {steps : Nat} : limit.any (· ≤ steps) = false ↔ Below limit steps := by
  unfold Below
  cases limit <;> simp

theorem exists_of_not_below {steps : Nat} (h : ¬Below limit steps) :
    ∃ max, limit = some max ∧ max ≤ steps := by
  cases limit with
  | none => exact absurd nofun h
  | some max => exact ⟨max, rfl, by simpa [Below] using h⟩

-- What a turn can come to, in the order in which it is decided.
inductive Takes (g : Grid) (limit : Option Nat) (first : Nat) (m : Machine) : Bool → Turn → Prop where
  | cancelled : Takes g limit first m true (.over m (.ok ⟨.cancelled, m.steps - first⟩))
  | limit {max : Nat} (hlimit : limit = some max) (hreached : max ≤ m.steps - first) :
      Takes g limit first m false (.over m (.ok ⟨.stepLimit, m.steps - first⟩))
  | executed {next : Machine} {i : Instruction} (hbelow : Below limit (m.steps - first))
      (hstep : m.step g = (.continued i, next)) : Takes g limit first m false (.executed next i)
  | halted {final : Machine} {reason : Halt} (hbelow : Below limit (m.steps - first))
      (hstep : m.step g = (.halted reason, final)) :
      Takes g limit first m false (.over final (.ok ⟨.halted reason, final.steps - first⟩))
  | faulted {final : Machine} {fault : Fault} (hbelow : Below limit (m.steps - first))
      (hstep : m.step g = (.faulted fault, final)) :
      Takes g limit first m false (.over final (.error fault))

theorem turn_eq_iff {cancelled : Bool} {turned : Turn} :
    turn g limit first cancelled m = turned ↔ Takes g limit first m cancelled turned := by
  constructor
  · rintro rfl
    cases cancelled with
    | true => exact .cancelled
    | false =>
        by_cases hbelow : Below limit (m.steps - first)
        · have hopen := any_le_eq_false_iff.mpr hbelow
          rcases hstep : m.step g with ⟨i | reason | fault, next⟩
          · simpa [turn, hopen, hstep] using Takes.executed hbelow hstep
          · simpa [turn, hopen, hstep] using Takes.halted hbelow hstep
          · simpa [turn, hopen, hstep] using Takes.faulted hbelow hstep
        · obtain ⟨max, hlimit, hreached⟩ := exists_of_not_below hbelow
          simpa [turn, hlimit, hreached] using Takes.limit hlimit hreached
  · intro h
    cases h with
    | cancelled => rfl
    | limit hlimit hreached => simp [turn, hlimit, hreached]
    | executed hbelow hstep | halted hbelow hstep | faulted hbelow hstep =>
        simp [turn, any_le_eq_false_iff.mpr hbelow, hstep]

-- Nothing stops the run before it has made all the calls.
structure Unhindered (limit : Option Nat) (observer : Observer σ) (first : Nat) (t : σ) (m : Machine)
    (calls : List (Machine × Instruction)) : Prop where
  patient : ∀ k < calls.length, observer.cancelled (observer.watch t (calls.take k)) = false
  room : ∀ k < calls.length, Below limit (m.steps + k - first)

theorem unhindered_nil : Unhindered limit observer first t m [] := ⟨nofun, nofun⟩

theorem unhindered_cons_iff (hsteps : next.steps = m.steps + 1) :
    Unhindered limit observer first t m ((next, i) :: calls) ↔
      observer.cancelled t = false ∧ Below limit (m.steps - first) ∧
        Unhindered limit observer first (observer.seen t next i) next calls := by
  have hshift : ∀ k, next.steps + k = m.steps + (k + 1) := by
    intro k
    omega
  constructor
  · rintro ⟨hpatient, hroom⟩
    refine ⟨hpatient 0 (by simp), hroom 0 (by simp), ?_, ?_⟩
    · intro k hk
      exact hpatient (k + 1) (by simpa using hk)
    · intro k hk
      rw [hshift]
      exact hroom (k + 1) (by simpa using hk)
  · rintro ⟨hcancelled, hbelow, hpatient, hroom⟩
    constructor
    case patient =>
      rintro (_ | k) hk
      · exact hcancelled
      · exact hpatient k (by simpa using hk)
    case room =>
      rintro (_ | k) hk
      · exact hbelow
      · rw [← hshift]
        exact hroom k (by simpa using hk)

theorem unhindered_of_le
    (hpatient : ∀ k < calls.length, observer.cancelled (observer.watch t (calls.take k)) = false)
    (hlimit : ∀ max, limit = some max → calls.length ≤ max) :
    Unhindered limit observer m.steps t m calls := by
  refine ⟨hpatient, ?_⟩
  intro k hk max hmax
  have hle := hlimit max hmax
  omega

theorem unhindered_of_patient {calls : List (Machine × Instruction)} (hpatient : observer.Patient)
    (hlimit : ∀ max, limit = some max → calls.length ≤ max) :
    Unhindered limit observer m.steps t m calls :=
  unhindered_of_le (fun _ _ => hpatient _) hlimit

theorem length_le_of_unhindered {max : Nat} (hopen : Unhindered limit observer m.steps t m calls)
    (hlimit : limit = some max) : calls.length ≤ max := by
  rcases Nat.eq_zero_or_pos calls.length with hnone | hsome
  · omega
  · have hlast := hopen.room (calls.length - 1) (by omega) max hlimit
    omega

-- A run comes past a walk on which nothing stops it.
theorem loop_of_walks (hwalks : Walks g m calls last) (hopen : Unhindered limit observer first t m calls) :
    loop g limit observer first (calls.length + fuel) t m =
      loop g limit observer first fuel (observer.watch t calls) last := by
  induction hwalks generalizing t with
  | rest m =>
      rw [List.length_nil, Nat.zero_add]
      rfl
  | @step m next last i calls hstep _ ih =>
      obtain ⟨hcancelled, hbelow, hrest⟩ := (unhindered_cons_iff (steps_of_continued hstep)).mp hopen
      have hturn : turn g limit first (observer.cancelled t) m = .executed next i := by
        rw [hcancelled]
        exact turn_eq_iff.mpr (.executed hbelow hstep)
      rw [List.length_cons, Nat.add_right_comm, loop, hturn]
      exact ih hrest

-- Where nothing stops a run before its last turn, the run comes to what that turn does.
theorem loop_of_takes {final : Machine} {result : Except Fault RunSummary} (hwalks : Walks g m calls last)
    (hopen : Unhindered limit observer first t m calls)
    (htakes : Takes g limit first last (observer.cancelled (observer.watch t calls)) (.over final result))
    (hfuel : calls.length < fuel) :
    loop g limit observer first fuel t m = some (observer.watch t calls, final, result) := by
  obtain ⟨extra, rfl⟩ : ∃ extra, fuel = calls.length + (extra + 1) := ⟨fuel - calls.length - 1, by omega⟩
  rw [loop_of_walks hwalks hopen, loop, turn_eq_iff.mpr htakes]

-- A run that comes to an end is a walk and the turn after it.
theorem exists_walks_of_loop {t' : σ} {final : Machine} {result : Except Fault RunSummary}
    (h : loop g limit observer first fuel t m = some (t', final, result)) :
    ∃ calls last, Walks g m calls last ∧ Unhindered limit observer first t m calls ∧
      t' = observer.watch t calls ∧
      Takes g limit first last (observer.cancelled t') (.over final result) := by
  induction fuel generalizing t m with
  | zero => cases h
  | succ fuel ih =>
      rw [loop] at h
      rcases hturn : turn g limit first (observer.cancelled t) m with ⟨after, ended⟩ | ⟨next, i⟩
      · rw [hturn] at h
        cases h
        exact ⟨[], m, .rest m, unhindered_nil, rfl, turn_eq_iff.mp hturn⟩
      · rw [hturn] at h
        obtain ⟨calls, last, hwalks, hopen, ht', htakes⟩ := ih h
        generalize hcancelled : observer.cancelled t = cancelled at hturn
        cases turn_eq_iff.mp hturn with
        | executed hbelow hstep =>
            have hsteps := steps_of_continued hstep
            exact ⟨(next, i) :: calls, last, .step hstep hwalks,
              (unhindered_cons_iff hsteps).mpr ⟨hcancelled, hbelow, hopen⟩, ht', htakes⟩

-- A turn ends the run or executes an instruction, and then the rest of the run has to end.
theorem isSome_loop_succ
    (hrest : ∀ i next, Below limit (m.steps - first) → m.step g = (.continued i, next) →
      (loop g limit observer first fuel (observer.seen t next i) next).isSome) :
    (loop g limit observer first (fuel + 1) t m).isSome := by
  rw [loop]
  rcases hturn : turn g limit first (observer.cancelled t) m with ⟨after, ended⟩ | ⟨next, i⟩
  · rfl
  · generalize observer.cancelled t = cancelled at hturn
    cases turn_eq_iff.mp hturn with
    | executed hbelow hstep => exact hrest i next hbelow hstep

-- With a limit a run is over once the turns are more than the steps that are left.
theorem isSome_loop {max : Nat} (hfirst : first ≤ m.steps) (hmax : m.steps ≤ first + max)
    (hfuel : first + max < m.steps + fuel) :
    (loop g (some max) observer first fuel t m).isSome := by
  induction fuel generalizing t m with
  | zero => omega
  | succ fuel ih =>
      apply isSome_loop_succ
      intro i next hbelow hstep
      have hsteps := steps_of_continued hstep
      have hleft := hbelow max rfl
      exact ih (by omega) (by omega) (by omega)

-- A run that cannot go on behind a walk comes to an end, whoever watches it.
theorem isSome_loop_of_walks (hwalks : Walks g m calls last)
    (hstops : ∀ i, (last.step g).1 ≠ .continued i) (hfuel : calls.length < fuel) :
    (loop g limit observer first fuel t m).isSome := by
  induction fuel generalizing t m calls with
  | zero => omega
  | succ fuel ih =>
      apply isSome_loop_succ
      intro i next _ hstep
      cases hwalks with
      | rest => exact absurd (congrArg Prod.fst hstep) (hstops i)
      | step hwalked hrest =>
          cases hstep.symm.trans hwalked
          exact ih hrest (Nat.lt_of_succ_lt_succ hfuel)

-- Two observers whose knowledge corresponds see the same run.
theorem loop_map {other : Observer τ} (f : σ → τ)
    (hcancelled : ∀ s, other.cancelled (f s) = observer.cancelled s)
    (hseen : ∀ s m i, other.seen (f s) m i = f (observer.seen s m i)) (t : σ) (m : Machine) :
    loop g limit other first fuel (f t) m =
      (loop g limit observer first fuel t m).map fun ended => (f ended.1, ended.2) := by
  induction fuel generalizing t m with
  | zero => rfl
  | succ fuel ih =>
      rw [loop, loop, hcancelled]
      rcases turn g limit first (observer.cancelled t) m with ⟨after, ended⟩ | ⟨next, i⟩
      · rfl
      · simp only [hseen]
        exact ih _ next

end Run

namespace Observer

variable {σ : Type}

-- The same observer with a list of the calls that were made to it.
def logged (observer : Observer σ) : Observer (σ × List (Machine × Instruction)) where
  cancelled s := observer.cancelled s.1
  seen s m i := (observer.seen s.1 m i, s.2 ++ [(m, i)])

theorem watch_logged (observer : Observer σ) (t : σ) (log calls : List (Machine × Instruction)) :
    observer.logged.watch (t, log) calls = (observer.watch t calls, log ++ calls) := by
  induction calls generalizing t log with
  | nil => simp [watch]
  | cons call calls ih =>
      have hseen : observer.logged.seen (t, log) call.1 call.2 =
          (observer.seen t call.1 call.2, log ++ [call]) := rfl
      rw [watch_cons, hseen, ih, watch_cons, List.append_assoc, List.singleton_append]

end Observer

namespace Run

open Machine

variable {σ : Type} {g : Grid} {limit : Option Nat} {observer : Observer σ} {first fuel : Nat} {t : σ}
  {m : Machine} {log calls : List (Machine × Instruction)}

theorem unhindered_logged_iff :
    Unhindered limit observer.logged first (t, log) m calls ↔ Unhindered limit observer first t m calls := by
  have htoken : ∀ k, observer.logged.cancelled (observer.logged.watch (t, log) (calls.take k)) =
      observer.cancelled (observer.watch t (calls.take k)) := by
    intro k
    rw [Observer.watch_logged]
    rfl
  constructor
  · rintro ⟨hpatient, hroom⟩
    exact ⟨fun k hk => (htoken k).symm.trans (hpatient k hk), hroom⟩
  · rintro ⟨hpatient, hroom⟩
    exact ⟨fun k hk => (htoken k).trans (hpatient k hk), hroom⟩

theorem loop_eq_map_logged :
    loop g limit observer first fuel t m =
      (loop g limit observer.logged first fuel (t, log) m).map fun ended => (ended.1.1, ended.2) :=
  loop_map Prod.fst (fun _ => rfl) (fun _ _ _ => rfl) (t, log) m

-- The calls of a run are those of a walk on which nothing stopped it.
theorem exists_walks_of_logged {t' : σ} {final : Machine} {result : Except Fault RunSummary}
    (h : loop g limit observer.logged first fuel (t, []) m = some ((t', calls), final, result)) :
    ∃ last, Walks g m calls last ∧ Unhindered limit observer first t m calls ∧
      t' = observer.watch t calls ∧
      Takes g limit first last (observer.cancelled t') (.over final result) := by
  obtain ⟨made, last, hwalks, hopen, hlog, htakes⟩ := exists_walks_of_loop h
  rw [Observer.watch_logged, List.nil_append] at hlog
  cases hlog
  exact ⟨last, hwalks, unhindered_logged_iff.mp hopen, rfl, htakes⟩

end Run

end GridWalk
