import GridWalk.Proofs.Session.Forward

namespace GridWalk.Session

open Relation

-- A fault that is shown is the one that the next step would raise, and only a
-- program that can still go on is being played.
structure Truthful (s : Session) : Prop where
  raised : ∀ fault, s.fault = some fault → s.machine.step s.grid = (.faulted fault, s.machine)
  live : s.playing = true → s.fault = none ∧ s.machine.exited = false

theorem Truthful.alike {s t : Session} (h : s.Truthful) (halike : Alike s t) : t.Truthful where
  raised := by
    rw [halike.fault, halike.machine, halike.grid]
    exact h.raised
  live := by
    rw [halike.playing, halike.fault, halike.machine]
    exact h.live

theorem Truthful.pause {s : Session} (h : s.Truthful) : s.pause.Truthful where
  raised := h.raised
  live := nofun

theorem Truthful.stepForward {s : Session} (h : s.Truthful) : s.stepForward.2.Truthful := by
  rcases hforward : s.stepForward with ⟨goes, after⟩
  cases stepForward_eq_iff.mp hforward with
  | blocked => exact h.alike (alike_tell s _)
  | continued hfault hstep =>
      constructor
      case raised => simp [hfault]
      case live => simp [hfault, Machine.exited_of_continued hstep]
  | halted hfault =>
      constructor
      case raised => simp [hfault]
      case live => nofun
  | faulted hfault hstep =>
      obtain ⟨_, _, rfl⟩ := Machine.step_eq_faulted_iff.mp hstep
      constructor
      case raised =>
        rintro _ ⟨⟩
        exact hstep
      case live => nofun

-- A snapshot was taken before an instruction, so its machine had not exited.
theorem Truthful.stepBackward {s : Session} (h : s.Truthful) (hledger : s.course.Ledger) :
    s.stepBackward.Truthful := by
  unfold Session.stepBackward
  split
  · next before rest hpop =>
      have hmem : before ∈ s.history.toList := by simp [History.toList_of_pop? hpop]
      have hlive := hledger.live before hmem
      exact ⟨nofun, fun _ => ⟨rfl, hlive.running⟩⟩
  · split
    · exact ⟨nofun, fun hplaying => ⟨rfl, (h.live hplaying).2⟩⟩
    · exact h.alike (alike_tell s _)

theorem truthful_reset (s : Session) : s.reset.Truthful := ⟨nofun, nofun⟩

theorem Truthful.writeSelected {s : Session} (h : s.Truthful) (value : Int32) :
    (s.writeSelected value).Truthful := by
  unfold Session.writeSelected
  split
  · exact h.alike (alike_tell s _)
  · next hpaused =>
      split
      · exact h.alike (alike_tell s _)
      · split
        · exact h.alike (alike_tell s _)
        · exact ⟨nofun, fun hplaying => absurd hplaying hpaused⟩

theorem Truthful.togglePlay {s : Session} (h : s.Truthful) : s.togglePlay.Truthful := by
  unfold Session.togglePlay
  split
  · exact h.pause.alike (alike_tell _ _)
  · split
    · exact h.alike (alike_tell s _)
    · exact h.alike (alike_tell s _)
    · next hfault hhalt =>
        exact ⟨h.raised, fun _ => ⟨hfault, Machine.exited_of_halt? hhalt⟩⟩

theorem Truthful.act {kind : Event.Kind} {s t : Session} (hact : Act kind s t)
    (hledger : s.course.Ledger) (h : s.Truthful) : t.Truthful := by
  cases hact with
  | stepForward => exact h.stepForward
  | stepBackward => exact h.stepBackward hledger
  | reset => exact truthful_reset s
  | writeSelected _ value => exact h.writeSelected value
  | togglePlay => exact h.togglePlay
  | pause => exact h.pause
  | aside halike => exact h.alike halike

theorem ledger_of_act {kind : Event.Kind} {s t : Session} (hact : Act kind s t)
    (h : s.course.Ledger) : t.course.Ledger :=
  preserved_along (P := Course.Ledger) (fun _ _ hmove => Course.Ledger.move hmove) (moves_of_act hact) h

-- Invariants of single acts hold wherever events can lead.
theorem Reachable.act_induction {P : Session → Prop} {g : Grid} {m : Machine} {capacity : Nat}
    (hstart : P (Session.start g m capacity))
    (hact : ∀ kind s t, Act kind s t → s.course.Ledger → P s → P t)
    {s : Session} (h : Reachable g m capacity s) : P s := by
  induction h with
  | start => exact hstart
  | @handle s hreachable e ih =>
      have hboth := preserved_along (P := fun s => s.course.Ledger ∧ P s)
        (fun s t hone hs => ⟨ledger_of_act hone hs.1, hact e.kind s t hone hs.1 hs.2⟩)
        (acts_handle s e) ⟨hreachable.ledger, ih⟩
      exact hboth.2

theorem Reachable.truthful {g : Grid} {m : Machine} {capacity : Nat} {s : Session}
    (h : Reachable g m capacity s) : s.Truthful :=
  h.act_induction ⟨nofun, nofun⟩ (fun _ _ _ => Truthful.act)

-- Nothing that goes on goes past a fault.
theorem blocked_of_act {s t : Session} (hact : Act .onward s t) {fault : Fault}
    (hfault : s.fault = some fault) : t.course = s.course ∧ t.fault = some fault := by
  cases hact with
  | stepForward =>
      rw [stepForward_of_fault hfault]
      exact ⟨rfl, hfault⟩
  | togglePlay =>
      refine ⟨course_togglePlay s, ?_⟩
      unfold togglePlay
      split
      · exact hfault
      · split <;> exact hfault
  | pause => exact ⟨rfl, hfault⟩
  | aside halike => exact ⟨halike.course_eq, halike.fault.trans hfault⟩

theorem blocked_handleAll {s : Session} {fault : Fault} (hfault : s.fault = some fault)
    {events : List Event} (honward : ∀ e ∈ events, e.kind = .onward) :
    (s.handleAll events).course = s.course ∧ (s.handleAll events).fault = some fault := by
  induction events generalizing s with
  | nil => exact ⟨rfl, hfault⟩
  | cons e rest ih =>
      have hacts := acts_handle s e
      rw [honward e List.mem_cons_self] at hacts
      obtain ⟨hcourse, hkept⟩ := preserved_along
        (P := fun t => t.course = s.course ∧ t.fault = some fault)
        (fun _ _ hone ht => by
          obtain ⟨hsame, hstill⟩ := blocked_of_act hone ht.2
          exact ⟨hsame.trans ht.1, hstill⟩)
        hacts ⟨rfl, hfault⟩
      obtain ⟨hlater, hend⟩ := ih hkept fun later hmem => honward later (List.mem_cons_of_mem _ hmem)
      exact ⟨hlater.trans hcourse, hend⟩

-- Whatever was done to a session, the fault it shows is the fault of the machine
-- as it is, and it plays only what can be played. No event that goes on gets a
-- program past its fault.
theorem fault_and_playing_truthful {g : Grid} {m : Machine} {capacity : Nat} {s : Session}
    (h : Reachable g m capacity s) :
    (∀ fault, s.fault = some fault →
      s.machine.step g = (.faulted fault, s.machine) ∧
      (∀ index length, fault ≠ .noSuchCell index length) ∧
      fault.point? = some s.machine.cursor ∧ s.machine.cursor ∈ g ∧ s.machine.exited = false) ∧
    (s.playing = true → s.fault = none ∧ s.machine.exited = false) ∧
    ∀ fault, s.fault = some fault → ∀ events : List Event, (∀ e ∈ events, e.kind = .onward) →
      let t := s.handleAll events
      t.machine = s.machine ∧ t.history = s.history ∧ t.output = s.output ∧
      t.fault = some fault := by
  refine ⟨?_, h.truthful.live, ?_⟩
  · intro fault hfault
    have hstep := h.truthful.raised fault hfault
    rw [h.grid_eq] at hstep
    obtain ⟨hexited, ⟨i, hget, hraised⟩, _⟩ := Machine.step_eq_faulted_iff.mp hstep
    have hpoint := Machine.point?_of_fault? hraised
    have hmem : s.machine.cursor ∈ g := (g.get?_isSome_iff _).mp (by simp [hget])
    exact ⟨hstep, Fault.ne_noSuchCell_of_point? hpoint, hpoint, hmem, hexited⟩
  · intro fault hfault events honward t
    obtain ⟨hcourse, hkept⟩ := blocked_handleAll hfault honward
    exact ⟨congrArg Course.machine hcourse, congrArg Course.history hcourse,
      congrArg Course.output hcourse, hkept⟩

-- The division faults while the program is played; it stays stopped through a
-- run to the end and a try to play it again.
theorem fault_and_playing_truthful_division :
    let g : Grid := ⟨1, 3, #[.print, .div, .exit], rfl⟩
    let m := Machine.start 1 Point.zero
    let played := (start g m 5).handleAll [.togglePlay, .playTick]
    let s := played.handleAll [.playTick]
    let events : List Event := [.press .enter, .press (.char '3'), .togglePlay, .playTick]
    Reachable g m 5 s ∧ played.playing = true ∧ played.fault = none ∧
      s.fault = some (.divisionByZero ⟨0, 1⟩) ∧ s.playing = false ∧
      s.machine.step g = (.faulted (.divisionByZero ⟨0, 1⟩), s.machine) ∧
      (s.handleAll events).machine = s.machine ∧ (s.handleAll events).history = s.history := by
  intro g m played s events
  have hplayed : Reachable g m 5 played := (Reachable.start ⟨1, Point.zero, [], rfl⟩).handleAll _
  have hs : Reachable g m 5 s := hplayed.handleAll _
  have hplaying : played.playing = true := by decide +kernel
  have hfault : s.fault = some (.divisionByZero ⟨0, 1⟩) := by decide +kernel
  have honward : ∀ e ∈ events, e.kind = .onward := by decide
  obtain ⟨_, hlive, _⟩ := fault_and_playing_truthful hplayed
  obtain ⟨hraised, _, hblocked⟩ := fault_and_playing_truthful hs
  obtain ⟨hmachine, hhistory, _, _⟩ := hblocked _ hfault events honward
  exact ⟨hs, hplaying, (hlive hplaying).1, hfault, by decide +kernel, (hraised _ hfault).1, hmachine,
    hhistory⟩

end GridWalk.Session
