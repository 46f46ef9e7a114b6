import GridWalk.Machine.Preset
import GridWalk.Machine.Run
import GridWalk.History
import GridWalk.Command.Usage

namespace GridWalk

structure CreateOptions where
  file : String
  width : Nat
  height : Nat
  force : Bool
  deriving DecidableEq

structure PaintOptions where
  file : String
  x : Int32
  y : Int32
  instruction : Instruction
  deriving DecidableEq

structure RunOptions where
  file : String
  setup : Setup
  delayMs : Nat
  maxSteps : Option Nat
  deriving DecidableEq

structure ExploreOptions where
  file : String
  setup : Setup
  delayMs : Nat
  capacity : Nat
  logFile : Option String
  deriving DecidableEq

inductive Command where
  | create (options : CreateOptions)
  | paint (options : PaintOptions)
  | display (file : String)
  | listOpcodes
  | run (options : RunOptions)
  | explore (options : ExploreOptions)
  deriving DecidableEq

namespace Command

open Text

def versionText : String := programName ++ " 0.1.0"

def about : String := "Run and step through grid programs walked by a goblin"

-- The sides of a new grid, unless others are asked for.
def defaultWidth : Nat := 2

def defaultHeight : Nat := 2

-- Turns a reader with its own errors into one that gives reasons.
def reasoned {ε α : Type} (message : ε → String) : Except ε α → Except Rejection α
  | .ok a => .ok a
  | .error e => .error (.because (message e))

def readPath (text : String) : Except Rejection String :=
  if text = "" then .error .blank else .ok text

def readCount (text : String) : Except Rejection Nat :=
  reasoned NumeralError.message (readWord text.toList)

-- A number within bounds that are narrower than those of its word.
def within (least greatest value : Int) : Except Rejection Int :=
  if least ≤ value ∧ value ≤ greatest then .ok value
  else .error (.because s!"{value} is not in {least}..={greatest}")

def readSide (text : String) : Except Rejection Nat := do
  let side ← readCount text
  Int.toNat <$> within 0 Grid.maxSide side

def readCoordinate (text : String) : Except Rejection Int32 := do
  let value ← reasoned NumeralError.message (readInt 9223372036854775808 9223372036854775807 text.toList)
  Int32.ofInt <$> within (-2147483648) 2147483647 value

def readPoint (text : String) : Except Rejection Point :=
  reasoned Point.ReadError.message (Point.read text)

def readPreset (text : String) : Except Rejection Preset :=
  reasoned Preset.ReadError.message (Preset.read text)

def readInstruction (text : String) : Except Rejection Instruction :=
  reasoned Instruction.ReadError.message (Instruction.ofName text)

-- An argument that is given at most once.
def single {α δ : Type} (label about : String) (read : String → Except Rejection α)
    (set : α → δ → δ) : Argument δ where
  label := label
  about := about
  repeatable := false
  store text draft := (fun value => set value draft) <$> read text

def option {α δ : Type} (name value about : String) (read : String → Except Rejection α)
    (set : α → δ → δ) : String × Switch δ :=
  (name, .valued (single s!"--{name} <{value}>" about read set))

-- How help names the value that stands for one that is not given.
def byDefault (value : Nat) : String := s!"[default: {value}]"

def createForm : Form CreateOptions where
  name := "new"
  about := "Create an empty program filled with NoOperation"
  positionals := [single "<FILE>" "" readPath fun file o => { o with file := file }]
  switches :=
    [ option "width" "WIDTH" (byDefault defaultWidth) readSide fun width o =>
        { o with width := width },
      option "height" "HEIGHT" (byDefault defaultHeight) readSide fun height o =>
        { o with height := height },
      ("force", .flag "--force" "Overwrite an existing file" fun o => { o with force := true }) ]

def paintForm : Form PaintOptions where
  name := "paint"
  about := "Overwrite one cell of a program"
  positionals :=
    [ single "<FILE>" "" readPath fun file o => { o with file := file },
      single "<X>" "" readCoordinate fun x o => { o with x := x },
      single "<Y>" "" readCoordinate fun y o => { o with y := y },
      single "<INSTRUCTION>" "Instruction name, e.g. MoveRight or print" readInstruction
        fun i o => { o with instruction := i } ]
  switches := []

def displayForm : Form String where
  name := "show"
  about := "Print a program's size, start point and cells"
  positionals := [single "<FILE>" "" readPath fun file _ => file]
  switches := []

def listForm : Form Unit where
  name := "opcodes"
  about := "List every instruction with its opcode and glyph"
  positionals := []
  switches := []

-- The switches that set a machine up, for commands of which the setup is a part.
def setupSwitches {δ : Type} (change : (Setup → Setup) → δ → δ) : List (String × Switch δ) :=
  [ option "stack-size" "STACK_SIZE"
      ("Number of memory stack cells " ++ byDefault Machine.defaultStackSize) readCount
      fun size => change fun setup => { setup with stackSize := size },
    option "start" "X,Y" "Start point as X,Y (defaults to the one stored in the file)" readPoint
      fun point => change fun setup => { setup with start := some point },
    ("set", .valued
      { single "--set <INDEX=VALUE>" "Preload a memory cell; may be repeated" readPreset
          fun preset => change fun setup =>
            { setup with presets := setup.presets ++ [preset] } with
        repeatable := true }) ]

def runForm : Form RunOptions where
  name := "run"
  about := "Run a program without the UI, printing each Print value on its own line"
  positionals := [single "<FILE>" "" readPath fun file o => { o with file := file }]
  switches :=
    setupSwitches (fun change o => { o with setup := change o.setup }) ++
    [ option "delay-ms" "DELAY_MS" ("Pause between steps " ++ byDefault Run.defaultDelayMs)
        readCount fun delay o => { o with delayMs := delay },
      option "max-steps" "MAX_STEPS" "Stop after this many instructions" readCount
        fun limit o => { o with maxSteps := some limit } ]

def exploreForm : Form ExploreOptions where
  name := "tui"
  about := "Step through a program in the terminal UI"
  positionals := [single "<FILE>" "" readPath fun file o => { o with file := file }]
  switches :=
    setupSwitches (fun change o => { o with setup := change o.setup }) ++
    [ option "delay-ms" "DELAY_MS"
        ("Pause between auto-play steps " ++ byDefault Run.defaultDelayMs) readCount
        fun delay o => { o with delayMs := delay },
      option "history" "HISTORY"
        ("Steps remembered for stepping backward " ++ byDefault History.defaultCapacity) readCount
        fun capacity o => { o with capacity := capacity },
      option "log-file" "LOG_FILE" "Write logs here (the terminal is taken by the UI)" readPath
        fun file o => { o with logFile := some file } ]

def defaultSetup : Setup := ⟨Machine.defaultStackSize, none, []⟩

-- A command by its name: what it is about, its page of help, and how its
-- arguments are read.
structure Entry where
  name : String
  about : String
  page : String
  read : List String → Except UsageError Command

def Entry.of {δ : Type} (form : Form δ) (draft : δ) (command : δ → Command) : Entry where
  name := form.name
  about := form.about
  page := form.page
  read arguments := command <$> form.read draft arguments

def entries : List Entry :=
  [ Entry.of createForm ⟨"", defaultWidth, defaultHeight, false⟩ create,
    Entry.of paintForm ⟨"", 0, 0, .noOperation⟩ paint,
    Entry.of displayForm "" display,
    Entry.of listForm () fun _ => listOpcodes,
    Entry.of runForm ⟨"", defaultSetup, Run.defaultDelayMs, none⟩ run,
    Entry.of exploreForm
      ⟨"", defaultSetup, Run.defaultDelayMs, History.defaultCapacity, none⟩ explore ]

def named? (name : String) : Option Entry := entries.find? fun entry => entry.name == name

def helpAbout : String := "Print this message or the help of the given subcommand(s)"

-- The page of help on the program.
def overview : String :=
  helpPage about "<COMMAND>"
    [ ⟨"Commands", entries.map (fun entry => (entry.name, entry.about)) ++ [("help", helpAbout)]⟩,
      ⟨"Options", [helpRow, ("-V, --version", "Print version")]⟩ ]

-- The page of help on a command, or on asking for help.
def page? (name : String) : Option String :=
  if name = "help" then
    some (helpPage helpAbout "help [COMMAND]..."
      [⟨"Arguments", [("[COMMAND]...", "Print help for the subcommand(s)")]⟩])
  else Entry.page <$> named? name

-- Asks for help on the program or on one command. No command has commands of
-- its own, so a second name is never known.
def readHelp : List String → UsageError
  | [] => .help overview
  | name :: more =>
      match page? name, more with
      | none, _ => .unknownCommand name
      | some page, [] => .help page
      | some _, other :: _ => .unknownCommand other

-- What is wrong with the argument in the place of the command's name.
def strayName (name : String) : UsageError :=
  match Token.ofString name with
  | .long "version" none | .short 'V' => .version versionText
  | .long "help" none | .short 'h' => .help overview
  | .long "version" (some value) => .surplusValue value "--version"
  | .long "help" (some value) => .surplusValue value "--help"
  | .long other _ => .unexpected ("--" ++ other)
  | .short letter => .unexpected (String.ofList ['-', letter])
  | _ => .unknownCommand name

-- Reads the arguments of the program. After two dashes the name of a command is
-- no longer taken for one.
def read : List String → Except UsageError Command
  | [] | ["--"] => .error (.noCommand overview)
  | "--" :: name :: _ =>
      if (named? name).isSome ∨ name = "help" then .error (.unexpected name)
      else .error (.unknownCommand name)
  | name :: arguments =>
      match named? name with
      | some entry => entry.read arguments
      | none => if name = "help" then .error (readHelp arguments) else .error (strayName name)

end Command

end GridWalk
