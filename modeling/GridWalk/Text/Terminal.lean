namespace GridWalk.Text

-- How far a terminal has come in a control sequence. A `string` is the body of a
-- sequence that carries a text, of which nothing is shown.
inductive Stage where
  | plain
  | escape
  | escapeIntermediate
  | control
  | systemCommand
  | device
  | deviceParameter
  | deviceIntermediate
  | string
  deriving DecidableEq

def isBetween (first last : Char) (c : Char) : Bool := first ≤ c && c ≤ last

-- Controls that lay text out: tab, line feed, form feed and carriage return.
def isLayout (c : Char) : Bool := c == '\t' || c == '\n' || c == '\x0c' || c == '\r'

def isControl (c : Char) : Bool := c < ' ' || c == '\x7f'

-- Whether one of the bytes after the first in the encoding of a character is the
-- terminator of a string. There are as many of them as the encoding needs, and
-- each holds six bits.
def holdsTerminator (c : Char) : Bool :=
  let n := c.toNat
  (0x80 ≤ n && n % 64 == 0x1C) || (0x800 ≤ n && n / 64 % 64 == 0x1C) ||
    (0x10000 ≤ n && n / 4096 % 64 == 0x1C)

namespace Stage

-- The stage after a character that is neither a control nor shown.
def advance (stage : Stage) (c : Char) : Stage :=
  match stage with
  | plain => plain
  | escape =>
      if c = '[' then control
      else if c = ']' then systemCommand
      else if c = 'P' then device
      else if c = 'X' ∨ c = '^' ∨ c = '_' then string
      else if isBetween ' ' '/' c then escapeIntermediate
      else if isBetween '0' '~' c then plain
      else escape
  | escapeIntermediate => if isBetween '0' '~' c then plain else escapeIntermediate
  | control => if isBetween '@' '~' c then plain else control
  | systemCommand => systemCommand
  | device =>
      if isBetween ' ' '/' c then deviceIntermediate
      else if isBetween '0' '?' c then deviceParameter
      else if isBetween '@' '~' c then string
      else device
  | deviceParameter =>
      if isBetween ' ' '/' c then deviceIntermediate
      else if isBetween '<' '~' c then string
      else deviceParameter
  | deviceIntermediate => if isBetween '0' '~' c then string else deviceIntermediate
  | string => if holdsTerminator c then plain else string

-- Whether controls that lay text out are shown in the middle of a sequence.
def yields : Stage → Bool
  | plain | escape | escapeIntermediate | control => true
  | systemCommand | device | deviceParameter | deviceIntermediate | string => false

end Stage

-- What becomes of a sequence when text is laid out in the middle of it: it is
-- over, or it waits until the next control that lays nothing out.
inductive Interruption where
  | ends
  | waits
  deriving DecidableEq

-- A stage, and the stage of a sequence that waits. It is plain if none does, and
-- a sequence only waits at the plain stage.
structure Position where
  stage : Stage
  waiting : Stage
  deriving DecidableEq

namespace Position

def plain : Position := ⟨.plain, .plain⟩

-- The position after a control that lays text out, and whether it is shown.
def takeLayout (mode : Interruption) (p : Position) : Position × Bool :=
  if p.stage = .plain then (p, true)
  else if p.stage.yields then
    match mode with
    | .ends => (plain, true)
    | .waits => (⟨.plain, p.stage⟩, true)
  else (p, false)

-- The position after any other control. It takes up a sequence that waits.
def takeControl (p : Position) (c : Char) : Position :=
  if p.stage = .plain then ⟨p.waiting, .plain⟩
  else if p.stage = .systemCommand ∧ c = '\x07' then plain
  else p

-- The position after a character that is no control, and whether it is shown. A
-- character outside of ASCII is the end of a sequence that waits.
def takeGraphic (p : Position) (c : Char) : Position × Bool :=
  if p.stage = .plain then (if c ≤ '~' then p else plain, true)
  else (⟨p.stage.advance c, .plain⟩, false)

-- The position after a character, and whether the character is shown. An escape
-- starts a sequence, and a cancellation ends one, wherever they come.
def take (mode : Interruption) (p : Position) (c : Char) : Position × Bool :=
  if c = '\x1b' then (⟨.escape, .plain⟩, false)
  else if c = '\x18' ∨ c = '\x1a' then (plain, false)
  else if isLayout c then p.takeLayout mode
  else if isControl c then (p.takeControl c, false)
  else p.takeGraphic c

-- What a terminal shows of the characters that come to it at a position.
def shown (mode : Interruption) : Position → List Char → List Char
  | _, [] => []
  | p, c :: rest =>
      match p.take mode c with
      | (after, true) => c :: shown mode after rest
      | (after, false) => shown mode after rest

end Position

-- A text without control sequences and other controls.
def visible (mode : Interruption) (s : String) : String :=
  String.ofList (Position.shown mode .plain s.toList)

-- Sets a text off from the one around it. What follows is plain again, also
-- where the text stops in the middle of a sequence.
def marked (s : String) : String := "\x1b[1m" ++ s ++ "\x1b[0m"

end GridWalk.Text
