import GridWalk.Storage.Disk
import GridWalk.Storage.ProgramFile
import GridWalk.Session.Keys
import GridWalk.Command.Basic
import GridWalk.Command.Listing
import GridWalk.Command.Headless

namespace GridWalk

-- Why a command came to nothing. An `unopened` program is one that no session can
-- be opened on.
inductive Complaint where
  | alreadyExists (file : String)
  | program (cause : ProgramError)
  | unopened (cause : ProgramError)
  | machine (cause : Fault)
  | logFile (cause : FileError)
  deriving DecidableEq

namespace Complaint

def reason : Complaint → String
  | alreadyExists file => s!"'{file}' already exists (use --force to overwrite)"
  | program cause => cause.record
  | unopened cause => cause.message
  | machine cause => cause.record
  | logFile cause => cause.record

def text (complaint : Complaint) : String := "Error: " ++ complaint.reason

end Complaint

-- What is left to do once a command has made its accesses to files.
inductive Verdict where
  | report (lines : List String)
  | failure (complaint : Complaint)
  | launch (grid : Grid) (machine : Machine) (limit : Option Nat) (delayMs : Nat)
  | explore (session : Session) (delayMs : Nat)

namespace Command

-- Creates a blank program. A file that is there is only replaced by force.
def performCreate (o : CreateOptions) : Access Verdict := do
  if (← Access.probing o.file) && !o.force then
    return .failure (.alreadyExists o.file)
  match ← Program.save o.file (Program.ofGrid (Grid.blank o.width o.height)) with
  | .error e => return .failure (.program e)
  | .ok () => return .report [s!"Created {o.width}x{o.height} program {o.file}"]

def performPaint (o : PaintOptions) : Access Verdict := do
  let point : Point := ⟨o.x, o.y⟩
  match ← Program.paint o.file point o.instruction with
  | .error e => return .failure (.program e)
  | .ok previous => return .report [s!"{point}: {previous} -> {o.instruction}"]

def performDisplay (file : String) : Access Verdict := do
  match ← Program.load file with
  | .error e => return .failure (.program e)
  | .ok program => return .report program.listing

def performRun (o : RunOptions) : Access Verdict := do
  match ← Program.load o.file with
  | .error e => return .failure (.program e)
  | .ok program =>
      match o.setup.machine program with
      | .error fault => return .failure (.machine fault)
      | .ok machine => return .launch program.grid machine o.maxSteps o.delayMs

-- Opens a session on a program.
def openSession (o : ExploreOptions) : Access Verdict := do
  match ← Program.load o.file with
  | .error e => return .failure (.unopened e)
  | .ok program =>
      match o.setup.machine program with
      | .error fault => return .failure (.machine fault)
      | .ok machine =>
          return .explore (Session.start program.grid machine o.capacity) o.delayMs

-- The log file, if one is asked for, is created before the program is loaded.
def performExplore (o : ExploreOptions) : Access Verdict := do
  match o.logFile with
  | none => openSession o
  | some log =>
      match ← Access.writing log [] with
      | .error e => return .failure (.logFile e)
      | .ok () => openSession o

def perform : Command → Access Verdict
  | create options => performCreate options
  | paint options => performPaint options
  | display file => performDisplay file
  | listOpcodes => return .report Instruction.listing
  | run options => performRun options
  | explore options => performExplore options

end Command

-- How an invocation of the program ended.
structure Exit where
  code : Nat
  stdout : String
  stderr : String
  deriving DecidableEq

namespace Exit

-- Reports that cannot be written are a failure of their own.
def ofReport (sink : Sink) (lines : List String) : Exit :=
  match sink.writeAll lines with
  | (true, after) => ⟨0, after.text, ""⟩
  | (false, after) => ⟨1, after.text, s!"Error: {FileError.storageFull.record}\n"⟩

-- Wrong arguments are told on the error channel. The version and help are what
-- was asked for, so they are not an error.
def ofUsage (sink : Sink) (e : UsageError) : Exit :=
  match e with
  | .version _ | .help _ => ⟨0, (sink.writeAll [e.output]).2.text, ""⟩
  | _ => ⟨2, "", e.output ++ "\n"⟩

-- What opening a session comes to where there is no terminal.
def noTerminal : FileError := .other 6 "No such device or address"

-- The end of a command that has no terminal, unless it is a run that takes more
-- than `fuel` turns.
def ofVerdict? (fuel : Nat) (sink : Sink) : Verdict → Option Exit
  | .report lines => some (ofReport sink lines)
  | .failure complaint => some ⟨1, "", complaint.text ++ "\n"⟩
  | .launch grid machine limit _ =>
      (machine.run grid limit Headless.observer fuel ⟨sink, false⟩).map fun (h, _, result) =>
        let (success, account) := Headless.verdict result
        ⟨if success then 0 else 1, h.sink.text, account ++ "\n"⟩
  | .explore _ _ => some ⟨1, "", s!"Error: {noTerminal.record}\n"⟩

end Exit

-- An invocation with the given arguments on a disk.
def invoke (fuel : Nat) (sink : Sink) (disk : Disk) (arguments : List String) :
    Option Exit × Disk :=
  match Command.read arguments with
  | .error e => (some (Exit.ofUsage sink e), disk)
  | .ok command =>
      let (verdict, after) := command.perform.on disk
      (Exit.ofVerdict? fuel sink verdict, after)

end GridWalk
