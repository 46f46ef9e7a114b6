import GridWalk.Session.Keys
import GridWalk.Proofs.Machine.Memory
import Mathlib.Logic.Relation

namespace GridWalk

open Relation

theorem preserved_along {α : Type} {r : α → α → Prop} {P : α → Prop}
    (hstep : ∀ a b, r a b → P a → P b) {a b : α} (hpath : ReflTransGen r a b) (ha : P a) :
    P b := by
  induction hpath with
  | refl => exact ha
  | tail _ hlast ih => exact hstep _ _ hlast ih

namespace Event

-- What an event is for: to go on, to take steps back, to start over or to write
-- to memory. Events that only change what is shown count as going on.
inductive Kind where
  | onward
  | back
  | reset
  | edit
  deriving DecidableEq

end Event

-- The characters that write to the selected cell.
def editChars : List Char := ['+', '=', '-', '0']

def Key.kind : Key → Event.Kind
  | .left => .back
  | .backspace => .reset
  | .char c => if c = 'r' then .reset else if c ∈ editChars then .edit else .onward
  | _ => .onward

def Event.kind : Event → Event.Kind
  | .press key => key.kind
  | .stepBackward => .back
  | .reset => .reset
  | _ => .onward

namespace Session

-- Sessions that may differ in what is shown and chosen, but not in the program,
-- its past and whether it is running.
structure Alike (s t : Session) : Prop where
  grid : t.grid = s.grid := by rfl
  machine : t.machine = s.machine := by rfl
  initial : t.initial = s.initial := by rfl
  history : t.history = s.history := by rfl
  output : t.output = s.output := by rfl
  fault : t.fault = s.fault := by rfl
  playing : t.playing = s.playing := by rfl

inductive Act : Event.Kind → Session → Session → Prop where
  | stepForward (s : Session) : Act .onward s s.stepForward.2
  | stepBackward (s : Session) : Act .back s s.stepBackward
  | reset (s : Session) : Act .reset s s.reset
  | writeSelected (s : Session) (value : Int32) : Act .edit s (s.writeSelected value)
  | togglePlay (s : Session) : Act .onward s s.togglePlay
  | pause (kind : Event.Kind) (s : Session) : Act kind s s.pause
  | aside {kind : Event.Kind} {s t : Session} (h : Alike s t) : Act kind s t

theorem alike_tell (s : Session) (notice : Notice) : Alike s (s.tell notice) := {}

section Preserves

-- The loops are made of steps and of notices, none of which is about an edit.
variable {P : Session → Prop} (hstep : ∀ s, P s → P s.stepForward.2)
  (htell : ∀ s notice, (∀ fault, notice ≠ .editFailed fault) → P s → P (s.tell notice))
  (hpause : ∀ s, P s → P s.pause) {s : Session} (h : P s)

include hstep h

theorem stepUpTo_preserves (count done : Nat) : P (stepUpTo count done s).2 := by
  induction count generalizing done s with
  | zero => exact h
  | succ count ih =>
      have hafter := hstep s h
      unfold stepUpTo
      split
      · next after hforward =>
          rw [hforward] at hafter
          exact ih hafter (done + 1)
      · next after hforward =>
          rw [hforward] at hafter
          exact hafter

include htell

theorem runOn_preserves (limit left : Nat) : P (runOn limit left s) := by
  induction left generalizing s with
  | zero => exact htell s _ (by simp) h
  | succ left ih =>
      have hafter := hstep s h
      unfold runOn
      split
      · next after hforward =>
          rw [hforward] at hafter
          exact hafter
      · next after hforward =>
          rw [hforward] at hafter
          simp only
          split
          · exact htell after _ (by simp) hafter
          · exact ih hafter

include hpause

theorem playTick_preserves : P s.playTick := by
  have hafter := hstep s h
  unfold playTick
  split
  · next after hforward =>
      rw [hforward] at hafter
      exact hpause after hafter
  · next after hforward =>
      rw [hforward] at hafter
      simp only
      split
      · exact htell _ _ (by simp) (hpause after hafter)
      · exact htell after _ (by simp) hafter

end Preserves

theorem acts_stepUpTo (count done : Nat) (s : Session) :
    ReflTransGen (Act .onward) s (stepUpTo count done s).2 :=
  stepUpTo_preserves (fun t hpath => hpath.tail (.stepForward t)) .refl count done

theorem acts_runOn (limit left : Nat) (s : Session) :
    ReflTransGen (Act .onward) s (runOn limit left s) :=
  runOn_preserves (fun t hpath => hpath.tail (.stepForward t))
    (fun t notice _ hpath => hpath.tail (.aside (alike_tell t notice))) .refl limit left

theorem acts_playTick (s : Session) : ReflTransGen (Act .onward) s s.playTick :=
  playTick_preserves (fun t hpath => hpath.tail (.stepForward t))
    (fun t notice _ hpath => hpath.tail (.aside (alike_tell t notice)))
    (fun t hpath => hpath.tail (.pause _ t)) .refl

-- A digit key only goes on: no digit from 1 to 9 is a reset or an edit.
theorem kind_of_stepCount? {c : Char} {count : Nat} (h : stepCount? c = some count) :
    (Key.char c).kind = .onward := by
  unfold stepCount? at h
  split at h
  case isTrue hdigit =>
    have hdigits : ∀ d ∈ 'r' :: editChars, ¬('1' ≤ d ∧ d ≤ '9') := by simp [editChars]
    have hne : c ∉ 'r' :: editChars := fun hmem => hdigits c hmem hdigit
    simp only [List.mem_cons, not_or] at hne
    simp only [Key.kind, if_neg hne.1, if_neg hne.2]
  case isFalse => cases h

theorem acts_pressDigit (s : Session) (count : Nat) :
    ReflTransGen (Act .onward) s (s.pressDigit count) := by
  have hsteps := ReflTransGen.head (Act.pause _ s) (acts_stepUpTo count 0 s.pause)
  unfold pressDigit
  simp only
  split
  · exact hsteps.tail (.aside (alike_tell _ _))
  · exact hsteps

theorem acts_pressSpace (s : Session) : ReflTransGen (Act .onward) s s.pressSpace := by
  have hnow : Act .onward s { s with sinceSpaceMs := 0 } := .aside {}
  unfold pressSpace
  split
  · exact .head hnow (.single (.togglePlay _))
  · exact .refl

theorem act_changeSelected (s : Session) (delta : Int32) : Act .edit s (s.changeSelected delta) := by
  unfold changeSelected
  split
  · exact .aside (alike_tell s _)
  · exact .writeSelected s _

theorem alike_toggleBreakpoint (s : Session) : Alike s s.toggleBreakpoint := by
  unfold toggleBreakpoint
  simp only
  split
  · exact alike_tell s _
  · split <;> exact {}

theorem acts_pressChar (s : Session) (c : Char) :
    ReflTransGen (Act (Key.char c).kind) s (s.pressChar c) := by
  unfold pressChar
  split
  · next count hcount =>
      rw [kind_of_stepCount? hcount]
      exact acts_pressDigit s count
  · split
    · exact .single (.aside {})
    · exact .single (.aside {})
    · exact .head (.pause _ s) (.single (.stepForward s.pause))
    · exact .single (act_changeSelected s 1)
    · exact .single (act_changeSelected s 1)
    · exact .single (act_changeSelected s (-1))
    · exact .single (.writeSelected s 0)
    · exact .single (.aside (alike_toggleBreakpoint s))
    · exact acts_pressSpace s
    · exact .single (.reset s)
    · exact .refl

theorem acts_press (s : Session) (key : Key) : ReflTransGen (Act key.kind) s (s.press key) := by
  cases key with
  | char c => exact acts_pressChar s c
  | left => exact .head (.pause _ s) (.single (.stepBackward s.pause))
  | right => exact .head (.pause _ s) (.single (.stepForward s.pause))
  | up =>
      simp only [press, pressUp]
      split
      · exact .refl
      all_goals exact .single (.aside {})
  | down =>
      simp only [press, pressDown]
      split
      · exact .refl
      all_goals exact .single (.aside {})
  | tab => exact .single (.aside {})
  | backTab => exact .single (.aside {})
  | enter => exact .head (.pause _ s) (acts_runOn runLimit runLimit s.pause)
  | backspace => exact .single (.reset s)
  | other => exact .refl

-- Every event is made of acts of its own kind.
theorem acts_handle (s : Session) (e : Event) : ReflTransGen (Act e.kind) s (s.handle e) := by
  cases e with
  | press key => exact acts_press s key
  | togglePlay => exact .single (.togglePlay s)
  | playTick => exact acts_playTick s
  | stepForward => exact .single (.stepForward s)
  | stepBackward => exact .single (.stepBackward s)
  | runToEnd => exact acts_runOn runLimit runLimit s
  | reset => exact .single (.reset s)
  | toggleBreakpoint => exact .single (.aside (alike_toggleBreakpoint s))
  | wait ms => exact .single (.aside {})

def handleAll (s : Session) (events : List Event) : Session := events.foldl handle s

-- The sessions that events can lead to from the start on a fresh machine.
inductive Reachable (g : Grid) (m : Machine) (capacity : Nat) : Session → Prop where
  | start (hfresh : m.Fresh) : Reachable g m capacity (start g m capacity)
  | handle {s : Session} (h : Reachable g m capacity s) (e : Event) :
      Reachable g m capacity (s.handle e)

theorem Reachable.handleAll {g : Grid} {m : Machine} {capacity : Nat} {s : Session}
    (h : Reachable g m capacity s) (events : List Event) :
    Reachable g m capacity (s.handleAll events) := by
  induction events generalizing s with
  | nil => exact h
  | cons e rest ih => exact ih (h.handle e)

end Session

end GridWalk
