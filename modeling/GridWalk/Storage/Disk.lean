import GridWalk.Storage.Access

namespace GridWalk

inductive Node where
  | directory
  | file (content : List UInt8)
  deriving DecidableEq

-- Where a path sets out: from the topmost directory, or from the directory that
-- is some levels above the working directory.
inductive Anchor where
  | top
  | above (levels : Nat)
  deriving DecidableEq

-- The names that lead to a node from an anchor, innermost first.
structure Place where
  anchor : Anchor
  names : List String
  deriving DecidableEq

namespace Place

-- What is below the working directory.
def inside (names : List String) : Place := ⟨.above 0, names⟩

def child (place : Place) (name : String) : Place := ⟨place.anchor, name :: place.names⟩

-- The topmost directory is its own parent.
def parent : Place → Place
  | ⟨anchor, _ :: names⟩ => ⟨anchor, names⟩
  | ⟨.above levels, []⟩ => ⟨.above (levels + 1), []⟩
  | ⟨.top, []⟩ => ⟨.top, []⟩

end Place

-- What is known of a file system. Under which name the working directory stands
-- in the one above it is not.
structure Disk where
  nodes : List (Place × Node)
  deriving DecidableEq

namespace Disk

def empty : Disk := ⟨[]⟩

-- Anchors are always there.
def node? (disk : Disk) (place : Place) : Option Node :=
  if place.names = [] then some .directory else disk.nodes.lookup place

def put (disk : Disk) (place : Place) (node : Node) : Disk :=
  ⟨(place, node) :: disk.nodes.filter (fun entry => entry.1 ≠ place)⟩

-- Names above this many bytes are refused, and so are paths of this many bytes.
def maxName : Nat := 255

def maxPath : Nat := 4096

-- Follows names through directories. A name is looked at only once what is
-- before it is known to be a directory.
def walk (disk : Disk) : Place → List String → Except FileError Place
  | here, [] => .ok here
  | here, name :: rest =>
      if name = "." then walk disk here rest
      else if name = ".." then walk disk here.parent rest
      else if maxName < name.utf8ByteSize then .error .nameTooLong
      else
        match disk.node? (here.child name) with
        | none => .error .notFound
        | some (.file _) => .error .notADirectory
        | some .directory => walk disk (here.child name) rest

-- What a path leads to: a directory that it does not name, or an entry of a
-- directory, which may or may not be there.
inductive Target where
  | directory
  | entry (directory : Place) (name : String) (slashed : Bool)

-- The names in a path. Slashes that follow one another count as one.
def namesOf (path : String) : List String := (path.splitOn "/").filter (· ≠ "")

-- A path that starts with a slash sets out from the top.
def origin (path : String) : Place := if path.startsWith "/" then ⟨.top, []⟩ else .inside []

-- A path is refused for a NUL in it before anything else is looked at.
def target (disk : Disk) (path : String) : Except FileError Target :=
  if '\x00' ∈ path.toList then .error .nulInPath
  else if path = "" then .error .notFound
  else if maxPath ≤ path.utf8ByteSize then .error .nameTooLong
  else
    let names := namesOf path
    match names.getLast? with
    | none => .ok .directory
    | some last =>
        if last = "." ∨ last = ".." then (fun _ => .directory) <$> disk.walk (origin path) names
        else
          (fun here => .entry here last (path.endsWith "/")) <$>
            disk.walk (origin path) names.dropLast

-- The node under a path. A slash at the end asks for a directory.
def find (disk : Disk) (path : String) : Except FileError Node :=
  match disk.target path with
  | .error e => .error e
  | .ok .directory => .ok .directory
  | .ok (.entry here name slashed) =>
      if maxName < name.utf8ByteSize then .error .nameTooLong
      else
        match disk.node? (here.child name) with
        | none => .error .notFound
        | some .directory => .ok .directory
        | some (.file content) => if slashed then .error .notADirectory else .ok (.file content)

def contains (disk : Disk) (path : String) : Bool := (disk.find path).toBool

def read (disk : Disk) (path : String) : Except FileError (List UInt8) :=
  match disk.find path with
  | .error e => .error e
  | .ok .directory => .error .isADirectory
  | .ok (.file content) => .ok content

def write (disk : Disk) (path : String) (content : List UInt8) : Except FileError Disk :=
  match disk.target path with
  | .error e => .error e
  | .ok .directory => .error .isADirectory
  | .ok (.entry here name slashed) =>
      if slashed then .error .isADirectory
      else if maxName < name.utf8ByteSize then .error .nameTooLong
      else if disk.node? (here.child name) = some .directory then .error .isADirectory
      else .ok (disk.put (here.child name) (.file content))

-- Adds a node below the working directory, with the directories above it.
def install (disk : Disk) (node : Node) : List String → Disk
  | [] => disk
  | name :: above =>
      let below := match disk.node? (.inside above) with
        | some _ => disk
        | none => disk.install .directory above
      below.put (.inside (name :: above)) node

def installAt (disk : Disk) (path : String) (node : Node) : Disk :=
  disk.install node (namesOf path).reverse

-- Every file below the working directory, with its path.
def files (disk : Disk) : List (String × List UInt8) :=
  disk.nodes.filterMap fun (place, node) =>
    match node with
    | .file content =>
        if place.anchor = .above 0 then some ("/".intercalate place.names.reverse, content)
        else none
    | .directory => none

end Disk

-- Does the work on a disk. A failed write leaves the disk as it was.
def Access.on {α : Type} (disk : Disk) : Access α → α × Disk
  | .done result => (result, disk)
  | .probe path next => (next (disk.contains path)).on disk
  | .read path next => (next (disk.read path)).on disk
  | .write path content next =>
      match disk.write path content with
      | .ok after => (next (.ok ())).on after
      | .error e => (next (.error e)).on disk

end GridWalk
