import GridWalk.Session.Screen
import GridWalk.Command.Perform

namespace GridWalk.Main

-- Some calls report the number of an error with its sign turned.
def fileErrorOf (number : UInt32) (description : String) : FileError :=
  match number.toInt32.toInt.natAbs with
  | 2 => .notFound
  | 20 => .notADirectory
  | 21 => .isADirectory
  | 28 => .storageFull
  | 36 => .nameTooLong
  | other => .other other description

def fileError : IO.Error → FileError
  | .noFileOrDirectory _ number text => fileErrorOf number text
  | .inappropriateType _ number text => fileErrorOf number text
  | .invalidArgument _ number text => fileErrorOf number text
  | .resourceExhausted _ number text => fileErrorOf number text
  | .permissionDenied _ number text => fileErrorOf number text
  | .otherError number text => fileErrorOf number text
  | e => .other 0 e.toString

def attempt {α : Type} (action : IO α) : IO (Except FileError α) := do
  try return .ok (← action)
  catch e => return .error (fileError e)

-- Lines are written out at once, so that a full device is noticed.
def printLine (line : String) : IO Unit := do
  let out ← IO.getStdout
  out.putStrLn line
  out.flush

-- Does the work on real files.
def perform {α : Type} : Access α → IO α
  | .done result => return result
  | .probe path next => do
      let found ← attempt (IO.FS.realPath path)
      perform (next found.toBool)
  | .read path next => do
      let content ← attempt (IO.FS.readBinFile path)
      perform (next (content.map ByteArray.toList))
  | .write path content next => do
      let result ← attempt (IO.FS.writeBinFile path ⟨content.toArray⟩)
      perform (next result)

-- Takes turns, printing as it goes, until the run is over.
partial def takeTurns (grid : Grid) (limit : Option Nat) (delayMs first : Nat) (stopped : Bool)
    (machine : Machine) : IO (Except Fault RunSummary) := do
  match Run.turn grid limit first stopped machine with
  | .over _ result => return result
  | .executed after i =>
      let refused ←
        if i = .print then
          pure !(← attempt (printLine (toString after.accumulator))).toBool
        else pure false
      if delayMs > 0 then IO.sleep (UInt32.ofNat delayMs)
      takeTurns grid limit delayMs first (stopped || refused) after

def keyOf (name : String) : Key :=
  match name with
  | "left" => .left
  | "right" => .right
  | "up" => .up
  | "down" => .down
  | "tab" => .tab
  | "backtab" => .backTab
  | "enter" => .enter
  | "backspace" => .backspace
  | _ => .other

-- The keys on a line of input: every character is one, and a line that starts
-- with a colon names one.
def keysOf (line : String) : List Key :=
  match line.toList with
  | ':' :: name => [keyOf (String.ofList name)]
  | chars => chars.map Key.char

-- Shows the session and takes keys line by line until one of them ends it.
partial def converse (session : Session) : IO Unit := do
  let (canvas, shown) := session.render 120 36
  for line in canvas.lines do printLine line
  if shown.quitting then return
  let asked ← IO.monoMsNow
  let line ← (← IO.getStdin).getLine
  if line.isEmpty then return
  let waited := shown.handle (.wait ((← IO.monoMsNow) - asked))
  let keys := keysOf (String.ofList (Text.trim line.toList))
  let pressed := keys.foldl Session.press waited
  converse (if pressed.playing then pressed.playTick else pressed)

def conclude : Verdict → IO UInt32
  | .report lines => do
      match ← attempt (lines.forM printLine) with
      | .ok () => return 0
      | .error e =>
          IO.eprintln ("Error: " ++ e.record)
          return 1
  | .failure complaint => do
      IO.eprintln complaint.text
      return 1
  | .launch grid machine limit delayMs => do
      let result ← takeTurns grid limit delayMs machine.steps false machine
      let (success, account) := Headless.verdict result
      IO.eprintln account
      return if success then 0 else 1
  | .explore session _ => do
      converse session
      return 0

def refuse (e : UsageError) : IO UInt32 := do
  match e with
  | .version _ | .help _ =>
      discard (attempt (printLine e.output))
      return 0
  | _ =>
      IO.eprintln e.output
      return 2

end GridWalk.Main

def main (arguments : List String) : IO UInt32 := do
  match GridWalk.Command.read arguments with
  | .error e => GridWalk.Main.refuse e
  | .ok command => GridWalk.Main.conclude (← GridWalk.Main.perform command.perform)
