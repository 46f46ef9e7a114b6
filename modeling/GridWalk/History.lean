namespace GridWalk

-- A stack of which only the newest entries are kept. Entries before `oldest`
-- were pushed out but may still lie in the array; they are swept away once they
-- are more than the capacity, so that a push takes constant time on average.
structure History (α : Type) where
  capacity : Nat
  entries : Array α
  oldest : Nat
  dropped : Nat
  oldest_le : oldest ≤ entries.size

namespace History

variable {α : Type}

def defaultCapacity : Nat := 10000

def empty (capacity : Nat) : History α where
  capacity := capacity
  entries := #[]
  oldest := 0
  dropped := 0
  oldest_le := Nat.zero_le _

-- The entries that are kept, oldest first.
def toList (h : History α) : List α := h.entries.toList.drop h.oldest

def length (h : History α) : Nat := h.entries.size - h.oldest

def isEmpty (h : History α) : Bool := h.length == 0

-- Removes what was pushed out from the array, if there is much of it.
def sweep (h : History α) : History α :=
  if h.capacity < h.oldest then
    { h with entries := h.entries.extract h.oldest, oldest := 0, oldest_le := Nat.zero_le _ }
  else h

-- Adds an entry. A full history gives up its oldest entry for it, and one
-- without any capacity gives up the new one.
def push (h : History α) (a : α) : History α :=
  if h.capacity = 0 then { h with dropped := h.dropped + 1 }
  else if h.length < h.capacity then
    { h with
      entries := h.entries.push a
      oldest_le := by rw [Array.size_push]; exact Nat.le_succ_of_le h.oldest_le }
  else
    sweep
      { h with
        entries := h.entries.push a
        oldest := h.oldest + 1
        dropped := h.dropped + 1
        oldest_le := by rw [Array.size_push]; exact Nat.succ_le_succ h.oldest_le }

-- Takes the newest entry off.
def pop? (h : History α) : Option (α × History α) :=
  if kept : h.oldest < h.entries.size then
    some (h.entries[h.entries.size - 1],
      { h with
        entries := h.entries.pop
        oldest_le := by rw [Array.size_pop]; exact Nat.le_sub_one_of_lt kept })
  else none

def clear (h : History α) : History α := empty h.capacity

@[simp] theorem toList_empty (capacity : Nat) : (empty capacity : History α).toList = [] := rfl

@[simp] theorem length_toList (h : History α) : h.toList.length = h.length := by
  simp [toList, length]

-- Sweeping only removes what is not kept anyway.
@[simp] theorem toList_sweep (h : History α) : h.sweep.toList = h.toList := by
  unfold sweep
  split
  · simp only [toList, Array.toList_extract, List.extract_eq_take_drop, List.drop_zero]
    exact List.take_of_length_le (by simp)
  · rfl

theorem toList_push_of_lt (h : History α) (a : α) (hroom : h.length < h.capacity) :
    (h.push a).toList = h.toList ++ [a] := by
  have hcap : h.capacity ≠ 0 := by omega
  simp [push, hcap, hroom, toList, List.drop_append_of_le_length, h.oldest_le]

theorem toList_push_of_full (h : History α) (a : α) (hcap : h.capacity ≠ 0)
    (hfull : h.capacity ≤ h.length) : (h.push a).toList = h.toList.drop 1 ++ [a] := by
  have hroom : ¬h.length < h.capacity := by omega
  have hsize : h.oldest + 1 ≤ h.entries.toList.length := by
    simp only [length, Array.length_toList] at hfull ⊢
    omega
  simp only [push, hcap, hroom, if_false, toList_sweep]
  simp only [toList, Array.toList_push, List.drop_drop]
  rw [List.drop_append_of_le_length hsize, Nat.add_comm]

theorem toList_push_of_none (h : History α) (a : α) (hcap : h.capacity = 0) :
    (h.push a).toList = h.toList := by
  simp [push, hcap, toList]

theorem toList_of_pop? {h after : History α} {a : α} (hpop : h.pop? = some (a, after)) :
    h.toList = after.toList ++ [a] := by
  unfold pop? at hpop
  split at hpop
  case isTrue kept =>
    cases hpop
    have hne : h.entries.toList ≠ [] := by
      intro he
      have := congrArg List.length he
      simp only [Array.length_toList, List.length_nil] at this
      omega
    have hlast : h.entries.toList.getLast hne = h.entries[h.entries.size - 1] := by
      simp [List.getLast_eq_getElem]
    have hle : h.oldest ≤ h.entries.toList.dropLast.length := by
      simp only [List.length_dropLast, Array.length_toList]
      omega
    simp only [toList, Array.toList_pop, ← hlast]
    rw [← List.drop_append_of_le_length hle, List.dropLast_concat_getLast]
  case isFalse => cases hpop

theorem pop?_eq_none_iff (h : History α) : h.pop? = none ↔ h.toList = [] := by
  unfold pop?
  split
  case isTrue kept => simp [toList]; omega
  case isFalse kept => simp [toList]; omega

end History

end GridWalk
