import GridWalk.Proofs.History.Window

namespace GridWalk.History

-- What can be asked of a history.
inductive Call (α : Type) where
  | push (entry : α)
  | pop
  | clear

variable {α : Type}

-- The entry that a pop takes off, if it finds one. The other calls have no answer.
def answer? (h : History α) : Call α → Option α
  | .pop => h.pop?.map Prod.fst
  | .push _ | .clear => none

def call (h : History α) : Call α → History α
  | .push entry => h.push entry
  | .pop =>
      match h.pop? with
      | some (_, rest) => rest
      | none => h
  | .clear => h.clear

-- A stack without bounds, newest entry last. It takes an entry off only if the history,
-- whose answer it is told, did so.
def follow (stack : List α) : Call α → Option α → List α
  | .push entry, _ => stack ++ [entry]
  | .pop, some _ => stack.dropLast
  | .pop, none => stack
  | .clear, _ => []

-- A history and such a stack after the same calls.
def beside (capacity : Nat) (calls : List (Call α)) : History α × List α :=
  calls.foldl (fun both c => (both.1.call c, follow both.2 c (both.1.answer? c))) (empty capacity, [])

-- The history holds all of the stack but the entries at its bottom that it gave up.
structure Tops (capacity : Nat) (h : History α) (stack : List α) : Prop where
  capacity_eq : h.capacity = capacity
  length_le : h.length ≤ capacity
  dropped_le : h.dropped ≤ stack.length
  kept : h.toList = stack.drop h.dropped

section Tops

variable {capacity : Nat} {h : History α} {stack : List α}

theorem tops_empty (capacity : Nat) : Tops capacity (empty capacity : History α) [] where
  capacity_eq := rfl
  length_le := Nat.zero_le _
  dropped_le := Nat.le_refl _
  kept := rfl

theorem Tops.length_eq (htops : Tops capacity h stack) : h.length = stack.length - h.dropped := by
  rw [← length_toList, htops.kept, List.length_drop]

-- A push gives up one entry if the history is full, and none if there is room.
theorem Tops.dropped_push (htops : Tops capacity h stack) (entry : α) :
    (h.push entry).dropped = if h.length = capacity then h.dropped + 1 else h.dropped := by
  have hle := htops.length_le
  rw [History.dropped_push h entry (htops.capacity_eq ▸ hle), overflow, htops.capacity_eq]
  by_cases hfull : h.length = capacity
  · rw [if_pos hfull]
    omega
  · rw [if_neg hfull]
    omega

-- What a push gives up is counted, and is the next entry from the bottom.
theorem Tops.push (htops : Tops capacity h stack) (entry : α) :
    Tops capacity (h.push entry) (stack ++ [entry]) := by
  have hroom : h.length ≤ h.capacity := htops.capacity_eq ▸ htops.length_le
  have hdropped := History.dropped_push h entry hroom
  have hlength := htops.length_eq
  constructor
  case capacity_eq => rw [capacity_push, htops.capacity_eq]
  case length_le =>
    have hle := length_push_le h entry hroom
    rwa [capacity_push, htops.capacity_eq] at hle
  case dropped_le =>
    have hle := htops.dropped_le
    rw [hdropped, List.length_append, List.length_singleton]
    unfold overflow
    omega
  case kept =>
    rw [toList_push h entry hroom, hdropped, htops.kept, ← List.drop_append_of_le_length htops.dropped_le,
      List.drop_drop]

-- The stack from the bottom up: what was given up, what stays and what a pop takes off.
theorem Tops.eq_of_pop? (htops : Tops capacity h stack) {entry : α} {rest : History α}
    (hpop : h.pop? = some (entry, rest)) : stack = (stack.take h.dropped ++ rest.toList) ++ [entry] := by
  have hkept : stack.drop h.dropped = rest.toList ++ [entry] := htops.kept.symm.trans (toList_of_pop? hpop)
  rw [List.append_assoc, ← hkept, List.take_append_drop]

theorem Tops.getLast?_eq (htops : Tops capacity h stack) {entry : α} {rest : History α}
    (hpop : h.pop? = some (entry, rest)) : stack.getLast? = some entry := by
  rw [htops.eq_of_pop? hpop, List.getLast?_concat]

theorem Tops.pop (htops : Tops capacity h stack) {entry : α} {rest : History α}
    (hpop : h.pop? = some (entry, rest)) : Tops capacity rest stack.dropLast := by
  have hstack : stack.dropLast = stack.take h.dropped ++ rest.toList := by
    have hlast := congrArg List.dropLast (htops.eq_of_pop? hpop)
    rwa [List.dropLast_concat] at hlast
  have hbottom : (stack.take h.dropped).length = h.dropped := List.length_take_of_le htops.dropped_le
  have hlength := length_of_pop? hpop
  constructor
  case capacity_eq => rw [capacity_of_pop? hpop, htops.capacity_eq]
  case length_le =>
    have hle := htops.length_le
    omega
  case dropped_le =>
    rw [dropped_of_pop? hpop, hstack, List.length_append, hbottom]
    exact Nat.le_add_right _ _
  case kept => rw [dropped_of_pop? hpop, hstack, List.drop_left' hbottom]

theorem Tops.call (htops : Tops capacity h stack) (c : Call α) :
    Tops capacity (h.call c) (follow stack c (h.answer? c)) := by
  cases c with
  | push entry => exact htops.push entry
  | pop =>
      cases hpop : h.pop? with
      | none =>
          simp only [History.call, answer?, hpop]
          exact htops
      | some popped =>
          simp only [History.call, answer?, hpop]
          exact htops.pop hpop
  | clear =>
      change Tops capacity (empty h.capacity) []
      rw [htops.capacity_eq]
      exact tops_empty capacity

end Tops

theorem tops_beside (capacity : Nat) (calls : List (Call α)) :
    Tops capacity (beside capacity calls).1 (beside capacity calls).2 := by
  unfold beside
  -- the calls are run from any pair that is in order already
  generalize hstart : (empty capacity, ([] : List α)) = both
  have htops : Tops capacity both.1 both.2 := by
    rw [← hstart]
    exact tops_empty capacity
  clear hstart
  induction calls generalizing both with
  | nil => exact htops
  | cons c rest ih => exact ih _ (htops.call c)

-- Whatever is asked of a history, it is the stack of what was ever put on it with the bottom
-- cut off: `dropped` says how deep the cut is, and a pop answers with the top of the stack as
-- long as anything lies above the cut. A push makes the cut deeper only if the history is full.
theorem history_is_top_of_stack (capacity : Nat) (calls : List (Call α)) :
    ∃ h stack, beside capacity calls = (h, stack) ∧
      h.toList = stack.drop h.dropped ∧
      (h.length = stack.length - h.dropped ∧ h.dropped ≤ stack.length) ∧ h.length ≤ capacity ∧
      (∀ entry, h.answer? .pop = some entry ↔ h.length ≠ 0 ∧ stack.getLast? = some entry) ∧
      (h.answer? .pop = none ↔ h.length = 0) ∧
      ∀ entry, (h.push entry).dropped = if h.length = capacity then h.dropped + 1 else h.dropped := by
  have htops := tops_beside capacity calls
  generalize beside capacity calls = both at htops
  obtain ⟨h, stack⟩ := both
  have hnone : h.answer? .pop = none ↔ h.length = 0 := by
    rw [answer?, Option.map_eq_none_iff, pop?_eq_none_iff, ← length_toList, List.length_eq_zero_iff]
  refine ⟨h, stack, rfl, htops.kept, ⟨htops.length_eq, htops.dropped_le⟩, htops.length_le, ?_, hnone,
    htops.dropped_push⟩
  intro entry
  rw [ne_eq, ← hnone]
  simp only [answer?]
  cases hpop : h.pop? with
  | none => simp
  | some popped =>
      obtain ⟨newest, rest⟩ := popped
      simp [htops.getLast?_eq hpop]

end GridWalk.History
