import GridWalk.Session.Basic
import GridWalk.Pane.Grid
import GridWalk.Pane.Memory
import GridWalk.Pane.Registers
import GridWalk.Pane.Output
import GridWalk.Pane.Status

namespace GridWalk.Session

open Pane

def gridView (s : Session) : GridView where
  grid := s.grid
  cursor := s.machine.cursor
  facing := s.machine.facing
  breakpoints := s.breakpoints
  fault := s.fault.bind Fault.point?

def outputView (s : Session) : OutputView := ⟨s.output, s.scroll⟩

def registersView (s : Session) : RegistersView := ⟨s.grid, s.machine, s.fault.isSome⟩

def memoryView (s : Session) : MemoryView := ⟨s.machine.stack, s.machine.pointer, s.selected⟩

def statusView (s : Session) : StatusView where
  message := s.notice.text
  steps := s.machine.counter
  remembered := s.history.length
  dropped := s.history.dropped
  playing := s.playing
  halted := (s.machine.halt? s.grid).isSome
  faulted := s.fault.isSome

-- Draws all panes. The output keeps the offset at which it was shown.
def render (s : Session) (width height : Nat) : Canvas × Session :=
  let layout := Layout.ofScreen width height
  let canvas := Canvas.blank width height
  let canvas := s.gridView.draw canvas layout.grid (s.focus = .grid)
  let canvas := s.outputView.draw canvas layout.output (s.focus = .output)
  let canvas := s.registersView.draw canvas layout.registers
  let canvas := s.memoryView.draw canvas layout.memory (s.focus = .memory)
  let canvas := s.statusView.draw canvas layout.status
  (canvas, { s with scroll := s.outputView.settledScroll layout.output })

end GridWalk.Session
