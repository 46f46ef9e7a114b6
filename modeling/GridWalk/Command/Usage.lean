import GridWalk.Text.Blank
import GridWalk.Text.Numeral
import GridWalk.Text.Terminal
import GridWalk.Command.Help

namespace GridWalk

-- Why arguments do not make a command. Asking for the version or for help ends
-- the reading in the same way.
inductive UsageError where
  | noCommand (page : String)
  | unknownCommand (name : String)
  | unexpected (argument : String)
  | missing (labels : List String)
  | invalid (value label reason : String)
  | noValue (label : String)
  | repeated (label : String)
  | surplusValue (value label : String)
  | version (text : String)
  | help (page : String)
  deriving DecidableEq

namespace UsageError

open Text

-- The error as it is written to a terminal, where what it is about is set off.
-- A reason quotes what was read as it came.
def wording : UsageError → String
  | noCommand page => page
  | unknownCommand name => s!"error: unrecognized subcommand '{marked name}'"
  | unexpected argument => s!"error: unexpected argument '{marked argument}' found"
  | missing labels =>
      "error: the following required arguments were not provided:" ++
        String.join (labels.map fun label => "\n  " ++ marked label)
  | invalid value label reason =>
      s!"error: invalid value '{marked value}' for '{marked label}': {reason}"
  | noValue label => s!"error: a value is required for '{marked label}' but none was supplied"
  | repeated label => s!"error: the argument '{marked label}' cannot be used multiple times"
  | surplusValue value label =>
      s!"error: unexpected value '{marked value}' for '{marked label}' found; " ++
        "no more were expected"
  | version text => text
  | help page => page

-- Where to read on after an error.
def advice : String := "\n\nFor more information, try '" ++ marked "--help" ++ "'."

-- Arguments come from outside, so what they would do to a terminal is left out,
-- with whatever a sequence that does not end takes in.
def told (mode : Interruption) : UsageError → String
  | noCommand page => page
  | version text => text
  | help page => page
  | e => visible mode (e.wording ++ advice)

-- The error as a text of its own.
def message : UsageError → String := told .ends

-- The error as it is written to a file or a pipe.
def output : UsageError → String := told .waits

end UsageError

-- How far the arguments have been read. A value is stored only when the next
-- argument is taken up or the arguments end, so `pending` holds the argument
-- read last, with its value if it has come by now. After two dashes everything
-- is taken by position.
structure Reading (δ : Type) where
  draft : δ
  given : List String
  pending : Option (Argument δ × Option String)
  positionals : List (Argument δ)
  verbatim : Bool

-- The parts of an argument that can be told apart without knowing the command.
inductive Token where
  | dashes
  | long (name : String) (value : Option String)
  | short (letter : Char)
  | word

-- A single dash is a word.
def Token.ofString (text : String) : Token :=
  match text.toList with
  | ['-', '-'] => .dashes
  | '-' :: '-' :: rest =>
      match Text.splitFirst '=' rest with
      | none => .long (String.ofList rest) none
      | some (name, value) => .long (String.ofList name) (some (String.ofList value))
  | '-' :: letter :: _ => .short letter
  | _ => .word

namespace Reading

variable {δ : Type}

-- Stores a value. That an argument is given twice is found before its value is
-- looked at.
def storeValue (r : Reading δ) (argument : Argument δ) (value : String) :
    Except UsageError (Reading δ) :=
  if !argument.repeatable && r.given.contains argument.label then
    .error (.repeated argument.label)
  else
    match argument.store value r.draft with
    | .error .blank => .error (.noValue argument.label)
    | .error (.because reason) => .error (.invalid value argument.label reason)
    | .ok draft => .ok { r with draft := draft, given := argument.label :: r.given }

-- Stores what is pending.
def settle (r : Reading δ) : Except UsageError (Reading δ) :=
  match r.pending with
  | none => .ok r
  | some (argument, none) => .error (.noValue argument.label)
  | some (argument, some value) => { r with pending := none }.storeValue argument value

-- Takes a word as the value that a switch waits for, or else by its position.
def takeWord (r : Reading δ) (text : String) : Except UsageError (Reading δ) :=
  match r.pending, r.verbatim with
  | some (argument, none), false => .ok { r with pending := some (argument, some text) }
  | _, _ =>
      match r.positionals with
      | [] => .error (.unexpected text)
      | argument :: rest => do
          let settled ← r.settle
          return { settled with pending := some (argument, some text), positionals := rest }

-- Takes a switch by its name. A value joined to it by an equals sign is stored
-- at once.
def takeLong (r : Reading δ) (form : Form δ) (name : String) (value : Option String) :
    Except UsageError (Reading δ) :=
  match form.switches.lookup name, value with
  | some (.valued argument), none => do
      let settled ← r.settle
      return { settled with pending := some (argument, none) }
  | some (.valued argument), some text => do
      let settled ← r.settle
      settled.storeValue argument text
  | some (.flag label _ set), none => do
      let settled ← r.settle
      if settled.given.contains label then throw (.repeated label)
      return { settled with draft := set settled.draft, given := label :: settled.given }
  | some (.flag label _ _), some text => .error (.surplusValue text label)
  | none, none =>
      if name = "help" then do
        let _ ← r.settle
        throw (.help form.page)
      else .error (.unexpected ("--" ++ name))
  | none, some text =>
      if name = "help" then .error (.surplusValue text "--help")
      else .error (.unexpected ("--" ++ name))

def take (form : Form δ) (r : Reading δ) (text : String) : Except UsageError (Reading δ) :=
  if r.verbatim then r.takeWord text
  else
    match Token.ofString text with
    | .dashes => .ok { r with verbatim := true }
    | .long name value => r.takeLong form name value
    | .short 'h' => do
        let _ ← r.settle
        throw (.help form.page)
    | .short letter => .error (.unexpected (String.ofList ['-', letter]))
    | .word => r.takeWord text

end Reading

-- Reads arguments from left to right into a draft. What is missing is found
-- last.
def Form.read {δ : Type} (form : Form δ) (draft : δ) (arguments : List String) :
    Except UsageError δ := do
  let start : Reading δ := ⟨draft, [], none, form.positionals, false⟩
  let r ← arguments.foldlM (Reading.take form) start
  let settled ← r.settle
  if settled.positionals.isEmpty then return settled.draft
  else throw (.missing (settled.positionals.map Argument.label))

end GridWalk
