import GridWalk.Machine.Run
import GridWalk.Proofs.Machine.Outcome

namespace GridWalk

namespace Observer

variable {σ : Type}

-- An observer that never asks for the run to stop.
def Patient (observer : Observer σ) : Prop := ∀ t, observer.cancelled t = false

-- What an observer knows once it has seen a list of executed instructions, each
-- with the machine after it.
def watch (observer : Observer σ) (t : σ) (calls : List (Machine × Instruction)) : σ :=
  calls.foldl (fun t call => observer.seen t call.1 call.2) t

theorem watch_cons (observer : Observer σ) (t : σ) (call : Machine × Instruction)
    (calls : List (Machine × Instruction)) :
    observer.watch t (call :: calls) = observer.watch (observer.seen t call.1 call.2) calls := rfl

theorem watch_concat (observer : Observer σ) (t : σ) (calls : List (Machine × Instruction))
    (call : Machine × Instruction) :
    observer.watch t (calls ++ [call]) = observer.seen (observer.watch t calls) call.1 call.2 := by
  simp [watch]

end Observer

-- The values that a list of executed instructions prints, as texts.
def printedTexts (calls : List (Machine × Instruction)) : List String :=
  (calls.filter fun call => call.2 = .print).map fun call => toString call.1.accumulator

theorem printedTexts_cons (next : Machine) (i : Instruction) (calls : List (Machine × Instruction)) :
    printedTexts ((next, i) :: calls) =
      (if i = .print then [toString next.accumulator] else []) ++ printedTexts calls := by
  unfold printedTexts
  by_cases hprint : i = .print <;> simp [hprint]

theorem printedTexts_append (calls more : List (Machine × Instruction)) :
    printedTexts (calls ++ more) = printedTexts calls ++ printedTexts more := by
  simp [printedTexts]

namespace Run

variable {σ : Type} {g : Grid} {limit first fuel : Nat} {observer : Observer σ} {t : σ} {m next : Machine}

theorem loop_of_limit (hpatient : observer.Patient) (hlimit : m.steps = first + limit) :
    loop g (some limit) observer first (fuel + 1) t m =
      some (t, m, .ok ⟨.stepLimit, m.steps - first⟩) := by
  have hreached : limit ≤ m.steps - first := by omega
  simp [loop, turn, hpatient t, hreached]

section Below

variable (hpatient : observer.Patient) (hbelow : m.steps < first + limit)

include hpatient hbelow

theorem loop_of_continued {i : Instruction} (hfirst : first ≤ m.steps)
    (hstep : m.step g = (.continued i, next)) :
    loop g (some limit) observer first (fuel + 1) t m =
      loop g (some limit) observer first fuel (observer.seen t next i) next := by
  have hopen : ¬limit ≤ m.steps - first := by omega
  simp [loop, turn, hpatient t, hopen, hstep]

theorem loop_of_halted {reason : Halt} (hfirst : first ≤ m.steps)
    (hstep : m.step g = (.halted reason, next)) :
    loop g (some limit) observer first (fuel + 1) t m =
      some (t, next, .ok ⟨.halted reason, next.steps - first⟩) := by
  have hopen : ¬limit ≤ m.steps - first := by omega
  simp [loop, turn, hpatient t, hopen, hstep]

theorem loop_of_faulted {fault : Fault} (hfirst : first ≤ m.steps)
    (hstep : m.step g = (.faulted fault, next)) :
    loop g (some limit) observer first (fuel + 1) t m = some (t, next, .error fault) := by
  have hopen : ¬limit ≤ m.steps - first := by omega
  simp [loop, turn, hpatient t, hopen, hstep]

end Below

end Run

end GridWalk
