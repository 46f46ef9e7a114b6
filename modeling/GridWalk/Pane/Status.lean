import GridWalk.Pane.Basic

namespace GridWalk.Pane

structure StatusView where
  message : String
  steps : UInt64
  remembered : Nat
  dropped : Nat
  playing : Bool
  halted : Bool
  faulted : Bool

namespace StatusView

def keyStyle : Style := (Style.ink .black).on Theme.comment

def textStyle : Style := (Style.ink Theme.text).on Theme.currentLine

def faintStyle : Style := (Style.ink Theme.comment).on Theme.currentLine

def badge (color : Color) : Style := ((Style.ink .black).on color).inBold

def stepColor (view : StatusView) : Color :=
  if view.faulted then Theme.error else if view.playing then Theme.secondary else Theme.primary

def historyText (view : StatusView) : String :=
  if view.dropped > 0 then s!" ↶{view.remembered} (+{view.dropped} dropped) "
  else s!" ↶{view.remembered} "

def report (view : StatusView) : TextLine :=
  { spans :=
      [ ⟨s!" Step {view.steps} ", badge view.stepColor⟩,
        ⟨view.historyText, faintStyle⟩,
        ⟨" | ", faintStyle⟩,
        ⟨s!" {view.message} ",
          (Style.ink (if view.faulted then Theme.error else Theme.text)).on Theme.currentLine⟩ ] }

-- The keys and what they do.
def keyHelp : List Span :=
  let divider := [⟨"│", faintStyle⟩, ⟨" ", textStyle⟩]
  [⟨" ←/→ ", keyStyle⟩, ⟨" step ", textStyle⟩] ++ divider ++
    [⟨" ⎵ ", keyStyle⟩, ⟨" play ", textStyle⟩] ++ divider ++
    [⟨" b ", keyStyle⟩, ⟨" break ", textStyle⟩] ++ divider ++
    [⟨" r ", keyStyle⟩, ⟨" reset ", textStyle⟩] ++ divider ++
    [⟨"q", keyStyle⟩, ⟨" quit ", textStyle⟩]

-- The label for the state of the program, if there is one worth a label.
def indicator? (view : StatusView) : Option (String × Color) :=
  if view.faulted then some (" FAULT ", Theme.error)
  else if view.playing then some (" ▶ PLAYING ", Theme.secondary)
  else if view.halted then some (" END ", Theme.error)
  else if view.steps = 0 then some (" START ", Theme.success)
  else none

def help (view : StatusView) : TextLine :=
  match view.indicator? with
  | none => { spans := keyHelp }
  | some (label, color) =>
      { spans := keyHelp ++ [⟨"│", faintStyle⟩, ⟨label, badge color⟩] }

-- The report on the left half, the keys at the end of the right half.
def draw (view : StatusView) (canvas : Canvas) (area : Area) : Canvas :=
  let (left, right) := area.splitColumns (Area.percent area.width 50)
  let canvas := (canvas.restyle area (Style.paper Theme.currentLine)).writeLines left [view.report]
  canvas.writeRight right view.help

end StatusView

end GridWalk.Pane
