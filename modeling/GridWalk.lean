import GridWalk.Text.Blank
import GridWalk.Text.Numeral
import GridWalk.Text.CodeRange
import GridWalk.Text.Combining
import GridWalk.Text.Unassigned
import GridWalk.Text.Quoted
import GridWalk.Text.Terminal
import GridWalk.Point
import GridWalk.Facing
import GridWalk.Instruction
import GridWalk.Grid
import GridWalk.Program
import GridWalk.Machine.Basic
import GridWalk.Machine.Step
import GridWalk.Machine.Run
import GridWalk.Machine.Preset
import GridWalk.History
import GridWalk.OutputLog
import GridWalk.Screen.Scroll
import GridWalk.Session.Notice
import GridWalk.Session.Basic
import GridWalk.Session.Stepping
import GridWalk.Session.Memory
import GridWalk.Session.Keys
import GridWalk.Screen.Style
import GridWalk.Screen.Area
import GridWalk.Screen.Canvas
import GridWalk.Pane.Basic
import GridWalk.Pane.Grid
import GridWalk.Pane.Memory
import GridWalk.Pane.Registers
import GridWalk.Pane.Output
import GridWalk.Pane.Status
import GridWalk.Session.Screen
import GridWalk.Storage.Access
import GridWalk.Storage.Disk
import GridWalk.Storage.ProgramFile
import GridWalk.Command.Form
import GridWalk.Command.Help
import GridWalk.Command.Usage
import GridWalk.Command.Basic
import GridWalk.Command.Listing
import GridWalk.Command.Headless
import GridWalk.Command.Perform
import GridWalk.Main
import GridWalk.Proofs.Grid.Cells
import GridWalk.Proofs.Program.RoundTrip
import GridWalk.Proofs.Grid.Layout
import GridWalk.Proofs.Machine.Execution
import GridWalk.Proofs.Machine.Counter
import GridWalk.Proofs.Machine.Memory
import GridWalk.Proofs.Machine.Preset
import GridWalk.Proofs.Machine.Outcome
import GridWalk.Proofs.Machine.Halting
import GridWalk.Proofs.Machine.Operand
import GridWalk.Proofs.Machine.Refusal
import GridWalk.Proofs.Machine.Table
import GridWalk.Proofs.Machine.Cursor
import GridWalk.Proofs.Machine.Unread
import GridWalk.Proofs.Machine.Extension
import GridWalk.Proofs.Machine.Run
import GridWalk.Proofs.Machine.Walk
import GridWalk.Proofs.Machine.Recurrence
import GridWalk.Proofs.Machine.Straight
import GridWalk.Proofs.Machine.Account
import GridWalk.Proofs.Machine.Resumption
import GridWalk.Proofs.Machine.Cancellation
import GridWalk.Proofs.History.Window
import GridWalk.Proofs.History.Stack
import GridWalk.Proofs.Session.Act
import GridWalk.Proofs.Session.Edit
import GridWalk.Proofs.Session.Course
import GridWalk.Proofs.Session.Ledger
import GridWalk.Proofs.Session.Replay
import GridWalk.Proofs.Session.Undo
import GridWalk.Proofs.Session.Origin
import GridWalk.Proofs.Session.Forward
import GridWalk.Proofs.Session.Digit
import GridWalk.Proofs.Session.Capacity
import GridWalk.Proofs.Session.Fault
import GridWalk.Proofs.Session.RunToEnd
import GridWalk.Proofs.Session.Breakpoint
import GridWalk.Proofs.Session.Selection
import GridWalk.Proofs.Pane.Window
import GridWalk.Proofs.Program.Paint
import GridWalk.Proofs.Program.Guarded
import GridWalk.Proofs.Program.Verdict
import GridWalk.Proofs.Storage.Disk
import GridWalk.Proofs.Storage.ProgramFile
import GridWalk.Proofs.Command.Headless
import GridWalk.Proofs.Text.Numeral
import GridWalk.Proofs.Text.Separator
import GridWalk.Proofs.Text.Pair
import GridWalk.Proofs.Program.Listing
import GridWalk.Proofs.Command.Deed
