import GridWalk.Machine.Preset

namespace GridWalk.Machine

theorem store_eq_ok_iff {m after : Machine} {index : Nat} {value : Int32} :
    m.store index value = .ok after ↔
      index < m.stack.size ∧ after = { m with stack := m.stack.setIfInBounds index value } := by
  unfold store
  split
  · next hindex => simp only [Except.ok.injEq, hindex, true_and]; exact eq_comm
  · next hindex => simp [hindex]

theorem exists_stack_of_store {m after : Machine} {index : Nat} {value : Int32}
    (h : m.store index value = .ok after) :
    ∃ stack, stack.size = m.stack.size ∧ after = { m with stack := stack } := by
  obtain ⟨_, rfl⟩ := store_eq_ok_iff.mp h
  exact ⟨_, Array.size_setIfInBounds, rfl⟩

theorem exists_stack_of_preset {m after : Machine} {presets : List Preset}
    (h : m.preset presets = .ok after) :
    ∃ stack, stack.size = m.stack.size ∧ after = { m with stack := stack } := by
  induction presets generalizing m with
  | nil =>
      cases h
      exact ⟨_, rfl, rfl⟩
  | cons p rest ih =>
      unfold preset at h
      split at h
      · next between hstore =>
          obtain ⟨stack, hsize, rfl⟩ := exists_stack_of_store hstore
          obtain ⟨final, hfinal, rfl⟩ := ih h
          exact ⟨final, hfinal.trans hsize, rfl⟩
      · cases h

-- A machine as it is set up, with the presets stored and nothing executed.
def Fresh (m : Machine) : Prop := ∃ size point presets, (start size point).preset presets = .ok m

theorem Fresh.steps_eq_zero {m : Machine} (h : m.Fresh) : m.steps = 0 := by
  obtain ⟨size, point, presets, hpreset⟩ := h
  obtain ⟨stack, _, rfl⟩ := exists_stack_of_preset hpreset
  rfl

end GridWalk.Machine
