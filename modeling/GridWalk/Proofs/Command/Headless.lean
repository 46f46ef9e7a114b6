import GridWalk.Command.Headless
import GridWalk.Proofs.Machine.Cancellation

namespace GridWalk

theorem length_printedTexts_le {calls more : List (Machine × Instruction)} (h : calls <+: more) :
    (printedTexts calls).length ≤ (printedTexts more).length := by
  obtain ⟨rest, rfl⟩ := h
  rw [printedTexts_append, List.length_append]
  omega

-- A list of calls that prints more than n values has a Print after the first n of them.
theorem exists_print_of_lt {seen : List (Machine × Instruction)} {n : Nat}
    (h : n < (printedTexts seen).length) :
    ∃ calls final rest, seen = calls ++ (final, .print) :: rest ∧ (printedTexts calls).length = n := by
  induction seen generalizing n with
  | nil => simp [printedTexts] at h
  | cons call seen ih =>
      obtain ⟨next, i⟩ := call
      rw [printedTexts_cons] at h
      by_cases hprint : i = .print
      · rw [if_pos hprint, List.length_append, List.length_singleton] at h
        cases n with
        | zero => exact ⟨[], next, seen, by rw [hprint]; rfl, rfl⟩
        | succ n =>
            obtain ⟨calls, final, rest, rfl, hcount⟩ := ih (n := n) (by omega)
            refine ⟨(next, i) :: calls, final, rest, rfl, ?_⟩
            rw [printedTexts_cons, if_pos hprint, List.length_append, List.length_singleton, hcount]
            omega
      · rw [if_neg hprint, List.nil_append] at h
        obtain ⟨calls, final, rest, rfl, hcount⟩ := ih h
        refine ⟨(next, i) :: calls, final, rest, rfl, ?_⟩
        rw [printedTexts_cons, if_neg hprint, List.nil_append, hcount]

namespace Sink

theorem write?_eq_none_iff {sink : Sink} {line : String} : sink.write? line = none ↔ sink.room = some 0 := by
  unfold write?
  split <;> simp [*]

theorem room_of_write? {sink after : Sink} {line : String} (h : sink.write? line = some after) :
    after.room = sink.room.map (· - 1) ∧ sink.room ≠ some 0 := by
  unfold write? at h
  split at h
  · cases h; simp [*]
  · cases h
  · cases h; simp [*]

-- Lines are taken as long as there is room, and the first that is refused is the last
-- that is tried.
theorem writeAll_eq (sink : Sink) (lines : List String) :
    (sink.writeAll lines).1 = decide (lines.length ≤ sink.room.getD lines.length) ∧
      (sink.writeAll lines).2.lines = sink.lines ++ lines.take (sink.room.getD lines.length) := by
  induction lines generalizing sink with
  | nil => simp [writeAll]
  | cons line rest ih =>
      cases hwrite : sink.write? line with
      | none => simp [writeAll, hwrite, write?_eq_none_iff.mp hwrite]
      | some after =>
          obtain ⟨hroom, hsome⟩ := room_of_write? hwrite
          obtain ⟨hall, hlines⟩ := ih after
          simp only [writeAll, hwrite, hall, hlines, lines_of_write? hwrite, hroom]
          cases hleft : sink.room with
          | none => simp
          | some room =>
              cases room with
              | zero => exact absurd hleft hsome
              | succ room => simp

end Sink

namespace Headless

open Machine

theorem watch_of_full {sink : Sink} (hfull : sink.room = some 0) (calls : List (Machine × Instruction)) :
    observer.watch ⟨sink, true⟩ calls = ⟨sink, true⟩ := by
  induction calls with
  | nil => rfl
  | cons call calls ih =>
      have hrefused : ∀ line, sink.write? line = none := fun _ => Sink.write?_eq_none_iff.mpr hfull
      have hseen : observer.seen ⟨sink, true⟩ call.1 call.2 = ⟨sink, true⟩ := by
        by_cases hprint : call.2 = .print <;> simp [observer, hprint, hrefused]
      rw [Observer.watch_cons, hseen, ih]

-- What a run prints goes to the sink as if it were written at once at the end.
theorem watch_eq_writeAll (sink : Sink) (calls : List (Machine × Instruction)) :
    observer.watch ⟨sink, false⟩ calls =
      ⟨(sink.writeAll (printedTexts calls)).2, !(sink.writeAll (printedTexts calls)).1⟩ := by
  induction calls generalizing sink with
  | nil => rfl
  | cons call calls ih =>
      obtain ⟨next, i⟩ := call
      rw [Observer.watch_cons, printedTexts_cons]
      by_cases hprint : i = .print
      · rw [if_pos hprint]
        cases hwrite : sink.write? (toString next.accumulator) with
        | some after =>
            have hseen : observer.seen ⟨sink, false⟩ next i = ⟨after, false⟩ := by
              simp [observer, hprint, hwrite]
            rw [hseen]
            simpa [Sink.writeAll, hwrite] using ih after
        | none =>
            have hseen : observer.seen ⟨sink, false⟩ next i = ⟨sink, true⟩ := by
              simp [observer, hprint, hwrite]
            rw [hseen]
            simpa [Sink.writeAll, hwrite] using watch_of_full (Sink.write?_eq_none_iff.mp hwrite) calls
      · have hseen : observer.seen ⟨sink, false⟩ next i = ⟨sink, false⟩ := by
          simp [observer, hprint]
        rw [hseen, if_neg hprint]
        exact ih sink

section Watch

variable {sink : Sink} {calls : List (Machine × Instruction)}

theorem lines_watch_of_unbounded (hroom : sink.room = none) :
    (observer.watch ⟨sink, false⟩ calls).sink.lines = sink.lines ++ printedTexts calls := by
  rw [watch_eq_writeAll, (sink.writeAll_eq _).2, hroom, Option.getD_none, List.take_length]

theorem stopped_watch_of_unbounded (hroom : sink.room = none) :
    (observer.watch ⟨sink, false⟩ calls).stopped = false := by
  rw [watch_eq_writeAll, (sink.writeAll_eq _).1, hroom, Option.getD_none]
  simp

theorem stopped_watch_iff_of_room {room : Nat} (hroom : sink.room = some room) :
    (observer.watch ⟨sink, false⟩ calls).stopped = true ↔ room < (printedTexts calls).length := by
  rw [watch_eq_writeAll, (sink.writeAll_eq _).1, hroom, Option.getD_some]
  simp

end Watch

-- With room for what was printed so far the sink refuses the next Print, and holds the rest.
theorem exists_watch_refused {sink : Sink} {calls : List (Machine × Instruction)} (final : Machine)
    (hroom : sink.room = some (printedTexts calls).length) :
    ∃ after : Sink, after.lines = sink.lines ++ printedTexts calls ∧
      observer.watch ⟨sink, false⟩ (calls ++ [(final, .print)]) = ⟨after, true⟩ := by
  obtain ⟨hall, hlines⟩ := sink.writeAll_eq (printedTexts (calls ++ [(final, .print)]))
  rw [hroom, Option.getD_some, printedTexts_append] at hall hlines
  rw [List.take_left] at hlines
  refine ⟨_, hlines, ?_⟩
  rw [watch_eq_writeAll, printedTexts_append, hall]
  simp [printedTexts]

section Run

variable {g : Grid} {limit : Option Nat} {fuel : Nat} {m final last : Machine} {sink : Sink}
  {calls rest : List (Machine × Instruction)}

-- The Print for which a sink has no room is the call with which the request to stop
-- comes: a shorter walk is a beginning of this one and has printed no more than fits.
theorem asksOnCall_of_walks (hwalks : Walks g m (calls ++ (final, .print) :: rest) last)
    (hroom : sink.room = some (printedTexts calls).length) :
    observer.AsksOnCall g ⟨sink, false⟩ m (calls.length + 1) := by
  intro made mid hmade hle
  have hlength : (calls ++ [(final, Instruction.print)]).length = calls.length + 1 := by simp
  have hwhole : calls ++ [(final, Instruction.print)] <+: calls ++ (final, Instruction.print) :: rest := by
    simp
  have hmade' : made <+: calls ++ [(final, Instruction.print)] := by
    have hshorter := hmade.isPrefix hwalks (by simp only [List.length_append, List.length_cons]; omega)
    exact List.prefix_of_prefix_length_le hshorter hwhole (by omega)
  change (observer.watch ⟨sink, false⟩ made).stopped = true ↔ _
  rw [stopped_watch_iff_of_room hroom]
  constructor
  · intro hmore
    by_cases hfits : made.length ≤ calls.length
    · have hbefore := List.prefix_of_prefix_length_le hmade' (List.prefix_append calls _) hfits
      have hfewer := length_printedTexts_le hbefore
      omega
    · omega
  · intro hreached
    rw [hmade'.eq_of_length (by omega), printedTexts_append, printedTexts_cons]
    simp

theorem run_of_room (hwalks : Walks g m (calls ++ (final, .print) :: rest) last)
    (hroom : sink.room = some (printedTexts calls).length)
    (hlimit : ∀ max, limit = some max → calls.length + 1 ≤ max) (hfuel : calls.length + 1 < fuel) :
    m.run g limit observer fuel ⟨sink, false⟩ =
      some (observer.watch ⟨sink, false⟩ (calls ++ [(final, .print)]), final,
        .ok ⟨.cancelled, calls.length + 1⟩) := by
  have hasks := asksOnCall_of_walks hwalks hroom
  obtain ⟨mid, hbefore, hthen⟩ := walks_append_iff.mp hwalks
  have hprint : Walks g m (calls ++ [(final, .print)]) final := by
    cases hthen with
    | step hstep _ => exact walks_append_iff.mpr ⟨mid, hbefore, .step hstep (.rest final)⟩
  exact Run.run_of_asksOnCall_of_walks hasks hprint (by simp) hlimit hfuel

-- A sink that never fails follows the run that nobody stops.
theorem run_of_unbounded {τ : Type} {other : Observer τ} {u : τ} (hpatient : other.Patient)
    (hroom : sink.room = none) :
    m.run g limit observer fuel ⟨sink, false⟩ =
      (m.run g limit other.logged fuel (u, [])).map fun ended =>
        (observer.watch ⟨sink, false⟩ ended.1.2, ended.2) := by
  have hquiet : ∀ s : τ × List (Machine × Instruction),
      observer.cancelled (observer.watch ⟨sink, false⟩ s.2) = other.logged.cancelled s := by
    intro s
    exact (stopped_watch_of_unbounded hroom).trans (hpatient s.1).symm
  have hseen : ∀ (s : τ × List (Machine × Instruction)) (next : Machine) (i : Instruction),
      observer.seen (observer.watch ⟨sink, false⟩ s.2) next i =
        observer.watch ⟨sink, false⟩ (other.logged.seen s next i).2 := by
    intro s next i
    exact (observer.watch_concat _ s.2 (next, i)).symm
  exact Run.loop_map (fun s => observer.watch ⟨sink, false⟩ s.2) hquiet hseen (u, []) m

end Run

-- A request to stop with the k-th call cuts a run as a limit of k does, whatever else
-- happens by then. So a sink that fails keeps all that was printed before, and nothing
-- is executed after the Print that it refuses; one that never fails gets all.
theorem cancelled_run_is_cut_cleanly (g : Grid) (m : Machine) :
    (∀ (σ τ : Type) (asking : Observer σ) (patient : Observer τ) (t : σ) (u : τ) (k fuel : Nat),
      asking.AsksOnCall g t m k → patient.Patient → k < fuel →
      ∃ calls final result,
        m.run g (some k) patient.logged fuel (u, []) =
          some ((patient.watch u calls, calls), final, result) ∧
        m.run g none asking.logged fuel (t, []) =
          some ((asking.watch t calls, calls), final, result.map (·.asCancelled))) ∧
    (∀ (limit : Option Nat) (sink : Sink) (j : Nat) (seen : List (Machine × Instruction)) (last : Machine),
      1 ≤ j → sink.room = some (j - 1) → Walks g m seen last →
      (∀ max, limit = some max → seen.length ≤ max) → j ≤ (printedTexts seen).length →
      ∃ calls final rest after, seen = calls ++ (final, .print) :: rest ∧
        (printedTexts calls).length = j - 1 ∧
        after.lines = sink.lines ++ (printedTexts seen).take (j - 1) ∧
        ∀ fuel, calls.length + 1 < fuel →
          m.run g limit Headless.observer fuel ⟨sink, false⟩ =
            some (⟨after, true⟩, final, .ok ⟨.cancelled, calls.length + 1⟩)) ∧
    ∀ (τ : Type) (patient : Observer τ) (u : τ) (limit : Option Nat) (sink : Sink) (fuel : Nat),
      patient.Patient → sink.room = none →
      (m.run g limit Headless.observer fuel ⟨sink, false⟩).map
          (fun (headless, ended) => (headless.sink.lines, headless.stopped, ended)) =
        (m.run g limit patient.logged fuel (u, [])).map
          fun ((_, calls), ended) => (sink.lines ++ printedTexts calls, false, ended) := by
  refine ⟨?_, ?_, ?_⟩
  · intro σ τ asking patient t u k fuel hasks hpatient hfuel
    exact Run.run_of_asksOnCall hasks hpatient nofun hfuel
  · intro limit sink j seen last hpos hroom hwalks hlimit hreached
    have hbeyond : j - 1 < (printedTexts seen).length := by omega
    obtain ⟨calls, final, rest, rfl, hcount⟩ := exists_print_of_lt hbeyond
    rw [← hcount] at hroom ⊢
    have hlimit' : ∀ max, limit = some max → calls.length + 1 ≤ max := by
      intro max hmax
      have hlong := hlimit max hmax
      simp only [List.length_append, List.length_cons] at hlong
      omega
    have hkept : (printedTexts (calls ++ (final, .print) :: rest)).take (printedTexts calls).length =
        printedTexts calls := by
      rw [printedTexts_append, List.take_left]
    obtain ⟨after, hlines, hwatch⟩ := exists_watch_refused final hroom
    refine ⟨calls, final, rest, after, rfl, rfl, by rw [hlines, hkept], ?_⟩
    intro fuel hfuel
    rw [run_of_room hwalks hroom hlimit' hfuel, hwatch]
  · intro τ patient u limit sink fuel hpatient hroom
    rw [run_of_unbounded hpatient hroom, Option.map_map]
    congr 1
    funext ⟨⟨_, calls⟩, ended⟩
    simp only [Function.comp_apply, lines_watch_of_unbounded hroom, stopped_watch_of_unbounded hroom]

-- The pipe takes the first of two values and refuses the second, so Exit is not reached.
theorem cancelled_run_is_cut_cleanly_pipe :
    let g : Grid := ⟨1, 4, #[.print, .increment, .print, .exit], rfl⟩
    let m := start 1 Point.zero
    let second : Machine := { start 1 ⟨0, 3⟩ with accumulator := 1, steps := 3 }
    let counter : Observer Nat := ⟨(· == 2), fun count _ _ => count + 1⟩
    let idle : Observer Unit := ⟨fun _ => false, fun _ _ _ => ()⟩
    (∃ calls final,
      m.run g (some 2) idle.logged 9 ((), []) = some (((), calls), final, .ok ⟨.stepLimit, 2⟩) ∧
      m.run g none counter.logged 9 (0, []) = some ((2, calls), final, .ok ⟨.cancelled, 2⟩)) ∧
    (∃ after : Sink, after.lines = [toString (0 : Int32)] ∧
      m.run g none Headless.observer 9 ⟨⟨[], some 1⟩, false⟩ =
        some (⟨after, true⟩, second, .ok ⟨.cancelled, 3⟩)) ∧
    (m.run g none Headless.observer 9 ⟨.unbounded, false⟩).map (fun (headless, ended) =>
        (headless.sink.lines, headless.stopped, ended)) =
      some ([toString (0 : Int32), toString (1 : Int32)], false, second.leave, .ok ⟨.halted .exit, 4⟩) := by
  intro g m second counter idle
  have hcounted : ∀ (calls : List (Machine × Instruction)) (n : Nat),
      counter.watch n calls = n + calls.length := by
    intro calls
    induction calls with
    | nil => exact fun _ => rfl
    | cons call calls ih =>
        intro n
        rw [Observer.watch_cons, ih, List.length_cons]
        exact Nat.add_right_comm n 1 calls.length
  have hasks : counter.AsksOnCall g 0 m 2 := by
    intro calls last _ _
    rw [hcounted, Nat.zero_add]
    exact beq_iff_eq
  have hlimited : m.run g (some 2) idle.logged 9 ((), []) =
      some (((), [({ start 1 ⟨0, 1⟩ with steps := 1 }, .print),
        ({ start 1 ⟨0, 2⟩ with accumulator := 1, steps := 2 }, .increment)]),
        { start 1 ⟨0, 2⟩ with accumulator := 1, steps := 2 }, .ok ⟨.stepLimit, 2⟩) := by
    unfold g m idle
    rfl
  have hwhole : m.run g none idle.logged 9 ((), []) =
      some (((), [({ start 1 ⟨0, 1⟩ with steps := 1 }, .print),
        ({ start 1 ⟨0, 2⟩ with accumulator := 1, steps := 2 }, .increment), (second, .print)]),
        second.leave, .ok ⟨.halted .exit, 4⟩) := by
    unfold g m idle second
    rfl
  obtain ⟨last, hwalks, _⟩ := Run.exists_walks_of_logged hwhole
  obtain ⟨hcut, hrefused, hwritten⟩ := cancelled_run_is_cut_cleanly g m
  refine ⟨?_, ?_, ?_⟩
  · obtain ⟨calls, final, result, hrun, hcancelled⟩ :=
      hcut Nat Unit counter idle 0 () 2 9 hasks (fun _ => rfl) (by decide)
    rw [hlimited] at hrun
    cases hrun
    exact ⟨_, _, hlimited, hcancelled⟩
  · obtain ⟨calls, final, rest, after, hsplit, hcount, hlines, hrun⟩ :=
      hrefused none ⟨[], some 1⟩ 2 _ last (by decide) rfl hwalks nofun (Nat.le_refl 2)
    -- the second Print is the third call
    rcases calls with _ | ⟨_, _ | ⟨_, _ | ⟨_, more⟩⟩⟩
    · cases hcount
    · cases hsplit
    · cases hsplit
      exact ⟨after, hlines, hrun 9 (by decide)⟩
    · simp at hsplit
  · have hall := hwritten Unit idle () none .unbounded 9 (fun _ => rfl) rfl
    rw [hwhole] at hall
    exact hall

end Headless

end GridWalk
