import GridWalk.Proofs.Machine.Memory

namespace GridWalk

namespace Preset

-- The value of the last preset for a cell.
def lastValue? (presets : List Preset) (index : Nat) : Option Int32 :=
  (presets.filter (·.index = index)).getLast?.map (·.value)

-- The first preset counts only where no later one names its cell.
theorem lastValue?_cons (p : Preset) (rest : List Preset) (index : Nat) :
    lastValue? (p :: rest) index =
      (lastValue? rest index).or (if p.index = index then some p.value else none) := by
  unfold lastValue?
  by_cases hindex : p.index = index
  · rw [List.filter_cons_of_pos (by simpa using hindex), List.getLast?_cons, if_pos hindex]
    cases (rest.filter (·.index = index)).getLast? <;> rfl
  · rw [List.filter_cons_of_neg (by simpa using hindex), if_neg hindex, Option.or_none]

-- Of two presets for different cells, neither overrides the other.
theorem lastValue?_eq_of_perm {presets others : List Preset} (hperm : presets.Perm others)
    (hdistinct : (presets.map Preset.index).Nodup) (index : Nat) :
    lastValue? presets index = lastValue? others index := by
  induction hperm with
  | nil => rfl
  | cons p _ ih =>
      rw [List.map_cons, List.nodup_cons] at hdistinct
      rw [lastValue?_cons, lastValue?_cons, ih hdistinct.2]
  | swap p q rest =>
      have hne : q.index ≠ p.index := by
        intro heq
        simp [heq] at hdistinct
      simp only [lastValue?_cons, Option.or_assoc]
      congr 1
      by_cases hp : p.index = index
      · rw [if_pos hp, if_neg (hp ▸ hne), Option.or_none, Option.none_or]
      · rw [if_neg hp, Option.or_none, Option.none_or]
  | trans hfirst _ ih ih' =>
      rw [ih hdistinct, ih' ((hfirst.map Preset.index).nodup_iff.mp hdistinct)]

end Preset

namespace Machine

-- The memory after all presets, cell by cell.
def presetStack (stack : Array Int32) (presets : List Preset) : Array Int32 :=
  stack.mapIdx fun index old => (Preset.lastValue? presets index).getD old

theorem getElem?_presetStack (stack : Array Int32) (presets : List Preset) (index : Nat) :
    (presetStack stack presets)[index]? =
      stack[index]?.map fun old => (Preset.lastValue? presets index).getD old := by
  simp [presetStack]

theorem presetStack_cons (stack : Array Int32) (p : Preset) (rest : List Preset) :
    presetStack (stack.setIfInBounds p.index p.value) rest = presetStack stack (p :: rest) := by
  apply Array.ext_getElem?
  intro index
  rw [getElem?_presetStack, getElem?_presetStack, Preset.lastValue?_cons, Array.getElem?_setIfInBounds]
  by_cases hindex : p.index = index
  · subst hindex
    by_cases hlt : p.index < stack.size
    · cases Preset.lastValue? rest p.index <;> simp [hlt]
    · simp [hlt]
  · simp [hindex]

-- Presets are stored as long as they name cells, and the first that does not is the one
-- reported.
theorem preset_eq (m : Machine) (presets : List Preset) :
    m.preset presets =
      match presets.find? (m.stack.size ≤ ·.index) with
      | some p => .error (.noSuchCell p.index m.stack.size)
      | none => .ok { m with stack := presetStack m.stack presets } := by
  induction presets generalizing m with
  | nil =>
      have hnone : presetStack m.stack [] = m.stack := by
        apply Array.ext_getElem?
        intro index
        simp [getElem?_presetStack, Preset.lastValue?]
      simp [preset, hnone]
  | cons p rest ih =>
      by_cases hindex : p.index < m.stack.size
      · have hstore : m.store p.index p.value =
            .ok { m with stack := m.stack.setIfInBounds p.index p.value } :=
          store_eq_ok_iff.mpr ⟨hindex, rfl⟩
        have hnot : ¬m.stack.size ≤ p.index := by omega
        rw [preset, hstore, List.find?_cons_of_neg (by simpa using hnot)]
        simp only [ih, Array.size_setIfInBounds, presetStack_cons]
      · rw [preset, store, if_neg hindex, List.find?_cons_of_pos (by simpa using hindex)]

end Machine

namespace Setup

variable {setup : Setup} {program : Program}

theorem machine_eq (setup : Setup) (program : Program) :
    setup.machine program =
      match setup.presets.find? (setup.stackSize ≤ ·.index) with
      | some p => .error (.noSuchCell p.index setup.stackSize)
      | none => .ok
          { Machine.start setup.stackSize (setup.start.getD program.start) with
            stack := Machine.presetStack (Array.replicate setup.stackSize 0) setup.presets } := by
  have hsize : ∀ point, (Machine.start setup.stackSize point).stack.size = setup.stackSize :=
    fun _ => Array.size_replicate
  rw [machine, Machine.preset_eq]
  simp only [hsize]
  rfl

theorem machine_eq_error_iff {fault : Fault} :
    setup.machine program = .error fault ↔
      ∃ before p after, setup.presets = before ++ p :: after ∧
        (∀ q ∈ before, q.index < setup.stackSize) ∧ setup.stackSize ≤ p.index ∧
        fault = .noSuchCell p.index setup.stackSize := by
  rw [machine_eq]
  constructor
  · intro h
    split at h
    · next p hfind =>
        cases h
        obtain ⟨hindex, before, after, hlist, hbefore⟩ := List.find?_eq_some_iff_append.mp hfind
        exact ⟨before, p, after, hlist, by simpa using hbefore, by simpa using hindex, rfl⟩
    · cases h
  · rintro ⟨before, p, after, hlist, hbefore, hindex, rfl⟩
    have hfind : setup.presets.find? (setup.stackSize ≤ ·.index) = some p :=
      List.find?_eq_some_iff_append.mpr
        ⟨by simpa using hindex, before, after, hlist, by simpa using hbefore⟩
    rw [hfind]

theorem machine_eq_ok_iff {m : Machine} :
    setup.machine program = .ok m ↔
      (∀ p ∈ setup.presets, p.index < setup.stackSize) ∧
        m = { Machine.start setup.stackSize (setup.start.getD program.start) with
              stack := Machine.presetStack (Array.replicate setup.stackSize 0) setup.presets } := by
  have hnone : setup.presets.find? (setup.stackSize ≤ ·.index) = none ↔
      ∀ p ∈ setup.presets, p.index < setup.stackSize := by simp [List.find?_eq_none]
  rw [machine_eq, ← hnone]
  cases hfind : setup.presets.find? (setup.stackSize ≤ ·.index) with
  | some p => simp
  | none =>
      simp only [Except.ok.injEq, true_and]
      exact eq_comm

-- Presets are stored in their order, up to the first that names no cell, which is reported.
-- Without such a one every cell holds the value of its last preset, so the order matters only
-- among the presets of one cell.
theorem presets_apply_in_order (setup : Setup) (program : Program) :
    ((∃ fault, setup.machine program = .error fault) ↔
      ∃ p ∈ setup.presets, setup.stackSize ≤ p.index) ∧
    (∀ fault, setup.machine program = .error fault ↔
      ∃ before p after, setup.presets = before ++ p :: after ∧
        (∀ q ∈ before, q.index < setup.stackSize) ∧ setup.stackSize ≤ p.index ∧
        fault = .noSuchCell p.index setup.stackSize) ∧
    ((∀ p ∈ setup.presets, p.index < setup.stackSize) →
      ∃ m, setup.machine program = .ok m ∧
        m = { Machine.start setup.stackSize (setup.start.getD program.start) with stack := m.stack } ∧
        m.stack.size = setup.stackSize ∧
        ∀ index < setup.stackSize,
          m.stack[index]? = some ((Preset.lastValue? setup.presets index).getD 0)) ∧
    ∀ presets : List Preset, setup.presets.Perm presets → (setup.presets.map Preset.index).Nodup →
      ∀ m, setup.machine program = .ok m → { setup with presets := presets }.machine program = .ok m := by
  refine ⟨?_, fun _ => machine_eq_error_iff, ?_, ?_⟩
  · constructor
    · rintro ⟨fault, hfault⟩
      obtain ⟨before, p, after, hlist, _, hindex, _⟩ := machine_eq_error_iff.mp hfault
      exact ⟨p, by simp [hlist], hindex⟩
    · rintro ⟨p, hp, hindex⟩
      cases hmachine : setup.machine program with
      | error fault => exact ⟨fault, rfl⟩
      | ok m =>
          have hrange := (machine_eq_ok_iff.mp hmachine).1 p hp
          omega
  · intro hrange
    refine ⟨_, machine_eq_ok_iff.mpr ⟨hrange, rfl⟩, rfl, by simp [Machine.presetStack], ?_⟩
    intro index hindex
    simp only [Machine.getElem?_presetStack, Array.getElem?_replicate, if_pos hindex, Option.map_some]
  · intro presets hperm hdistinct m hmachine
    obtain ⟨hrange, rfl⟩ := machine_eq_ok_iff.mp hmachine
    refine machine_eq_ok_iff.mpr ⟨fun p hp => hrange p (hperm.mem_iff.mpr hp), ?_⟩
    simp only [Machine.presetStack, Preset.lastValue?_eq_of_perm hperm hdistinct]

-- A cell that is preset twice, presets that name no cell, and presets in another order.
theorem presets_apply_in_order_repeated :
    let program := Program.ofGrid (Grid.blank 1 1)
    let twice : Setup := ⟨3, some ⟨0, 5⟩, [⟨1, 5⟩, ⟨0, 7⟩, ⟨1, -2⟩]⟩
    let outside : Setup := ⟨3, none, [⟨2, 1⟩, ⟨9, 1⟩, ⟨3, 1⟩]⟩
    let once : Setup := ⟨3, none, [⟨2, 4⟩, ⟨0, 6⟩]⟩
    (∃ m, twice.machine program = .ok m ∧ m.cursor = ⟨0, 5⟩ ∧ m.stack[1]? = some (-2 : Int32) ∧
      m.stack[2]? = some 0) ∧
    outside.machine program = .error (.noSuchCell 9 3) ∧
    ∃ m, once.machine program = .ok m ∧ { once with presets := [⟨0, 6⟩, ⟨2, 4⟩] }.machine program = .ok m := by
  intro program twice outside once
  obtain ⟨_, _, htwice, _⟩ := presets_apply_in_order twice program
  obtain ⟨m, hm, hstart, _, hcells⟩ := htwice (by decide)
  have hcursor : m.cursor = ⟨0, 5⟩ := by
    rw [hstart]
    rfl
  obtain ⟨_, hfault, _, _⟩ := presets_apply_in_order outside program
  have houtside : outside.machine program = .error (.noSuchCell 9 3) :=
    (hfault _).mpr ⟨[⟨2, 1⟩], ⟨9, 1⟩, [⟨3, 1⟩], rfl, by decide, by decide, rfl⟩
  obtain ⟨_, _, honce, hperm⟩ := presets_apply_in_order once program
  obtain ⟨n, hn, _⟩ := honce (by decide)
  exact ⟨⟨m, hm, hcursor, hcells 1 (by decide), hcells 2 (by decide)⟩, houtside, n, hn,
    hperm [⟨0, 6⟩, ⟨2, 4⟩] (by decide) (by decide) n hn⟩

end Setup

end GridWalk
