import GridWalk.History

namespace GridWalk.History

variable {α : Type}

theorem isEmpty_iff (h : History α) : h.isEmpty = true ↔ h.toList = [] := by
  rw [isEmpty, beq_iff_eq, ← length_toList, List.length_eq_zero_iff]

@[simp] theorem capacity_sweep (h : History α) : h.sweep.capacity = h.capacity := by
  unfold sweep
  split <;> rfl

@[simp] theorem dropped_sweep (h : History α) : h.sweep.dropped = h.dropped := by
  unfold sweep
  split <;> rfl

@[simp] theorem capacity_push (h : History α) (a : α) : (h.push a).capacity = h.capacity := by
  unfold push
  split
  · rfl
  · split
    · rfl
    · rw [capacity_sweep]

-- The entries that a push gives up: one if the history is full, else none.
def overflow (h : History α) : Nat := h.length + 1 - h.capacity

theorem dropped_push (h : History α) (a : α) (hle : h.length ≤ h.capacity) :
    (h.push a).dropped = h.dropped + h.overflow := by
  unfold push overflow
  split
  · simp only
    omega
  · split
    · simp only
      omega
    · simp only [dropped_sweep]
      omega

-- A push slides the window over the entries ever pushed.
theorem toList_push (h : History α) (a : α) (hle : h.length ≤ h.capacity) :
    (h.push a).toList = (h.toList ++ [a]).drop h.overflow := by
  unfold overflow
  by_cases hcap : h.capacity = 0
  · have hnil : h.toList = [] := List.length_eq_zero_iff.mp (by rw [length_toList]; omega)
    rw [toList_push_of_none h a hcap, hnil]
    simp [hcap]
  · by_cases hroom : h.length < h.capacity
    · have hzero : h.length + 1 - h.capacity = 0 := by omega
      rw [toList_push_of_lt h a hroom, hzero, List.drop_zero]
    · have hone : h.length + 1 - h.capacity = 1 := by omega
      have hlen : 1 ≤ h.toList.length := by rw [length_toList]; omega
      rw [toList_push_of_full h a hcap (by omega), hone, List.drop_append_of_le_length hlen]

theorem mem_push {h : History α} {a b : α} (hle : h.length ≤ h.capacity) (hb : b ∈ (h.push a).toList) :
    b ∈ h.toList ∨ b = a := by
  rw [toList_push h a hle] at hb
  simpa using List.mem_of_mem_drop hb

theorem length_push (h : History α) (a : α) (hle : h.length ≤ h.capacity) :
    (h.push a).length + h.overflow = h.length + 1 := by
  rw [← length_toList, toList_push h a hle, List.length_drop, List.length_append, length_toList]
  simp only [overflow, List.length_singleton]
  omega

theorem length_push_le (h : History α) (a : α) (hle : h.length ≤ h.capacity) :
    (h.push a).length ≤ (h.push a).capacity := by
  have hlen := length_push h a hle
  rw [capacity_push]
  unfold overflow at hlen
  omega

-- Any number of pushes keeps the newest entries and counts the others.
theorem foldl_push (h : History α) (as : List α) (hle : h.length ≤ h.capacity) :
    (as.foldl push h).toList = (h.toList ++ as).drop (h.length + as.length - h.capacity) ∧
      (as.foldl push h).dropped = h.dropped + (h.length + as.length - h.capacity) ∧
      (as.foldl push h).capacity = h.capacity := by
  induction as generalizing h with
  | nil =>
      have hzero : h.length - h.capacity = 0 := by omega
      simp [hzero]
  | cons a rest ih =>
      have hlength := length_push h a hle
      obtain ⟨hlist, hdropped, hcapacity⟩ := ih (h.push a) (length_push_le h a hle)
      rw [capacity_push] at hlist hdropped hcapacity
      have hfirst : h.overflow ≤ (h.toList ++ [a]).length := by
        rw [List.length_append, length_toList, List.length_singleton]
        omega
      have hover : h.overflow + ((h.push a).length + rest.length - h.capacity) =
          h.length + (a :: rest).length - h.capacity := by
        simp only [overflow, List.length_cons] at hlength ⊢
        omega
      refine ⟨?_, ?_, hcapacity⟩
      · rw [List.foldl_cons, hlist, toList_push h a hle, ← List.drop_append_of_le_length hfirst,
          List.drop_drop, hover, List.append_assoc]
        rfl
      · rw [List.foldl_cons, hdropped, dropped_push h a hle, Nat.add_assoc, hover]

theorem dropped_of_pop? {h rest : History α} {a : α} (hpop : h.pop? = some (a, rest)) :
    rest.dropped = h.dropped := by
  unfold pop? at hpop
  split at hpop
  · cases hpop; rfl
  · cases hpop

theorem capacity_of_pop? {h rest : History α} {a : α} (hpop : h.pop? = some (a, rest)) :
    rest.capacity = h.capacity := by
  unfold pop? at hpop
  split at hpop
  · cases hpop; rfl
  · cases hpop

theorem length_of_pop? {h rest : History α} {a : α} (hpop : h.pop? = some (a, rest)) :
    h.length = rest.length + 1 := by
  rw [← length_toList, ← length_toList, toList_of_pop? hpop, List.length_append, List.length_singleton]

theorem exists_pop? (h : History α) {kept : List α} {a : α} (hlist : h.toList = kept ++ [a]) :
    ∃ rest, h.pop? = some (a, rest) ∧ rest.toList = kept := by
  cases hpop : h.pop? with
  | none =>
      rw [(pop?_eq_none_iff h).mp hpop] at hlist
      simp at hlist
  | some popped =>
      obtain ⟨b, rest⟩ := popped
      have hsplit : rest.toList ++ [b] = kept ++ [a] := (toList_of_pop? hpop).symm.trans hlist
      obtain ⟨hkept, hnewest⟩ := List.append_inj' hsplit rfl
      cases hnewest
      exact ⟨rest, rfl, hkept⟩

-- Two histories of the same past, of which the first has no more room.
structure Within (a b : History α) : Prop where
  capacity_le : a.capacity ≤ b.capacity
  length_le : a.length ≤ a.capacity
  length_le_right : b.length ≤ b.capacity
  suffix : a.toList <:+ b.toList
  total : a.length + a.dropped = b.length + b.dropped

section Within

variable {a b : History α}

theorem within_empty {capacity more : Nat} (h : capacity ≤ more) :
    Within (empty capacity : History α) (empty more) where
  capacity_le := h
  length_le := Nat.zero_le _
  length_le_right := Nat.zero_le _
  suffix := List.suffix_rfl
  total := rfl

theorem Within.refl_left (h : Within a b) : Within a a where
  capacity_le := Nat.le_refl _
  length_le := h.length_le
  length_le_right := h.length_le
  suffix := List.suffix_rfl
  total := rfl

theorem Within.clear (h : Within a b) : Within a.clear b.clear := within_empty h.capacity_le

-- Both windows end with the new entry, so the shorter one lies in the longer one.
theorem Within.push (h : Within a b) (x : α) : Within (a.push x) (b.push x) := by
  have hlength := length_push a x h.length_le
  have hlength' := length_push b x h.length_le_right
  have hcapacity := h.capacity_le
  have hshorter : a.length ≤ b.length := by simpa using h.suffix.length_le
  constructor
  case capacity_le =>
    rw [capacity_push, capacity_push]
    exact hcapacity
  case length_le => exact length_push_le a x h.length_le
  case length_le_right => exact length_push_le b x h.length_le_right
  case suffix =>
    have hpast : a.toList ++ [x] <:+ b.toList ++ [x] := by
      obtain ⟨older, holder⟩ := h.suffix
      exact ⟨older, by rw [← holder, List.append_assoc]⟩
    have ha : (a.push x).toList <:+ b.toList ++ [x] := by
      rw [toList_push a x h.length_le]
      exact (List.drop_suffix _ _).trans hpast
    have hb : (b.push x).toList <:+ b.toList ++ [x] := by
      rw [toList_push b x h.length_le_right]
      exact List.drop_suffix _ _
    apply List.suffix_of_suffix_length_le ha hb
    rw [length_toList, length_toList]
    unfold overflow at hlength hlength'
    omega
  case total =>
    rw [dropped_push a x h.length_le, dropped_push b x h.length_le_right]
    have htotal := h.total
    omega

theorem Within.pop? (h : Within a b) {x : α} {rest : History α} (hpop : a.pop? = some (x, rest)) :
    ∃ rest', b.pop? = some (x, rest') ∧ Within rest rest' := by
  obtain ⟨older, holder⟩ := h.suffix
  have hlist : b.toList = (older ++ rest.toList) ++ [x] := by
    rw [← holder, toList_of_pop? hpop, List.append_assoc]
  obtain ⟨rest', hpop', hrest'⟩ := exists_pop? b hlist
  have hlength := length_of_pop? hpop
  have hlength' := length_of_pop? hpop'
  have hcapacity := capacity_of_pop? hpop
  have hcapacity' := capacity_of_pop? hpop'
  have hdropped := dropped_of_pop? hpop
  have hdropped' := dropped_of_pop? hpop'
  have hle := h.length_le
  have hle' := h.length_le_right
  have htotal := h.total
  refine ⟨rest', hpop', ?_⟩
  constructor
  case capacity_le =>
    rw [hcapacity, hcapacity']
    exact h.capacity_le
  case length_le => omega
  case length_le_right => omega
  case suffix => exact ⟨older, hrest'.symm⟩
  case total => omega

end Within

end GridWalk.History
