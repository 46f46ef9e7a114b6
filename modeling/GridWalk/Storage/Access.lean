namespace GridWalk

-- Why a file or a device cannot be read or written. `other` stands for what
-- only a real system can report.
inductive FileError where
  | notFound
  | notADirectory
  | isADirectory
  | nameTooLong
  | storageFull
  | nulInPath
  | other (number : Nat) (description : String)
  deriving DecidableEq

namespace FileError

-- The number under which a system reports the error. A path with a NUL in it is
-- refused before any system is asked.
def code? : FileError → Option Nat
  | notFound => some 2
  | notADirectory => some 20
  | isADirectory => some 21
  | nameTooLong => some 36
  | storageFull => some 28
  | nulInPath => none
  | other number _ => some number

def kind : FileError → String
  | notFound => "NotFound"
  | notADirectory => "NotADirectory"
  | isADirectory => "IsADirectory"
  | nameTooLong => "InvalidFilename"
  | storageFull => "StorageFull"
  | nulInPath => "InvalidInput"
  | other _ _ => "Uncategorized"

def text : FileError → String
  | notFound => "No such file or directory"
  | notADirectory => "Not a directory"
  | isADirectory => "Is a directory"
  | nameTooLong => "File name too long"
  | storageFull => "No space left on device"
  | nulInPath => "file name contained an unexpected NUL byte"
  | other _ description => description

def message (e : FileError) : String :=
  match e.code? with
  | some code => s!"{e.text} (os error {code})"
  | none => e.text

-- The error as a record with its fields, for reports on a failed command.
def record (e : FileError) : String :=
  match e.code? with
  | some code => s!"Os \x7b code: {code}, kind: {e.kind}, message: \"{e.text}\" \x7d"
  | none => s!"Error \x7b kind: {e.kind}, message: \"{e.text}\" \x7d"

end FileError

-- A piece of work on files, given as the accesses it makes one after the other
-- and what it does with their answers. The same work can be done on real files
-- and on a disk that is a value.
inductive Access (α : Type) where
  | done (result : α)
  | probe (path : String) (next : Bool → Access α)
  | read (path : String) (next : Except FileError (List UInt8) → Access α)
  | write (path : String) (content : List UInt8) (next : Except FileError Unit → Access α)

namespace Access

variable {α β : Type}

def bind : Access α → (α → Access β) → Access β
  | done result, f => f result
  | probe path next, f => probe path fun answer => bind (next answer) f
  | read path next, f => read path fun answer => bind (next answer) f
  | write path content next, f => write path content fun answer => bind (next answer) f

instance : Monad Access where
  pure := done
  bind := bind

-- Whether there is something under a path.
def probing (path : String) : Access Bool := probe path done

-- The content of a file.
def reading (path : String) : Access (Except FileError (List UInt8)) := read path done

-- Replaces the content of a file, or creates it.
def writing (path : String) (content : List UInt8) : Access (Except FileError Unit) :=
  write path content done

end Access

end GridWalk
