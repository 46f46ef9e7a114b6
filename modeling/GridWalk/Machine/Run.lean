import GridWalk.Machine.Step

namespace GridWalk

-- How a run came to its end without a fault.
inductive RunEnd where
  | halted (reason : Halt)
  | cancelled
  | stepLimit
  deriving DecidableEq

structure RunSummary where
  finish : RunEnd
  steps : Nat
  deriving DecidableEq

-- Looks at the machine after every executed instruction, and may ask for the
-- run to stop.
structure Observer (σ : Type) where
  cancelled : σ → Bool
  seen : σ → Machine → Instruction → σ

-- One turn of a run: it is over, or one more instruction was executed.
inductive Turn where
  | over (machine : Machine) (result : Except Fault RunSummary)
  | executed (machine : Machine) (instruction : Instruction)

namespace Run

def defaultDelayMs : Nat := 500

-- A turn of a run that began when `first` steps were counted. A request to stop
-- comes before the limit, and the limit before the machine.
def turn (g : Grid) (limit : Option Nat) (first : Nat) (cancelled : Bool) (m : Machine) : Turn :=
  let steps := m.steps - first
  if cancelled then .over m (.ok ⟨.cancelled, steps⟩)
  else if limit.any (· ≤ steps) then .over m (.ok ⟨.stepLimit, steps⟩)
  else
    match m.step g with
    | (.continued i, after) => .executed after i
    | (.halted reason, after) => .over after (.ok ⟨.halted reason, after.steps - first⟩)
    | (.faulted fault, after) => .over after (.error fault)

-- Takes turns until the run is over, at most `fuel` of them. What the observer
-- knows, the machine and the result are given back.
def loop {σ : Type} (g : Grid) (limit : Option Nat) (observer : Observer σ) (first : Nat) :
    Nat → σ → Machine → Option (σ × Machine × Except Fault RunSummary)
  | 0, _, _ => none
  | fuel + 1, s, m =>
      match turn g limit first (observer.cancelled s) m with
      | .over after result => some (s, after, result)
      | .executed after i => loop g limit observer first fuel (observer.seen s after i) after

end Run

-- A run from the present state of the machine. Without a limit a program may go
-- on for ever, so an answer is given only if it ends within `fuel` turns; a
-- limit of n needs no more than n + 1.
def Machine.run {σ : Type} (g : Grid) (limit : Option Nat) (observer : Observer σ) (fuel : Nat)
    (s : σ) (m : Machine) : Option (σ × Machine × Except Fault RunSummary) :=
  Run.loop g limit observer m.steps fuel s m

end GridWalk
