import ClassDiagram.Files.System
import ClassDiagram.OrderedMap

/-!
# Disks

A disk is a tree of directories and files as a value.  It holds one entry to a
place, and a place is the list of names that leads to it.  The root is a
directory without an entry.

A path is followed from the root, name by name.  Every name but the last must
lead to a directory.  `Disk.destination` follows a path up to its last name, and
the operations differ in what they do there.
-/

namespace ClassDiagram.Files

/-- What can be at a place. -/
inductive Entry where
  | directory
  | file (content : String)
deriving DecidableEq, Repr

/-- Where an entry is: the names that lead to it from the root. -/
abbrev Place : Type := List String

/-- A tree of directories and files. -/
structure Disk where
  /-- What is at each place. -/
  entries : OrderedMap Place Entry := ∅
deriving DecidableEq

/-- Where a path leads. -/
inductive Destination where
  /-- To a directory that is there. -/
  | directory
  /-- To a name in a directory that is there. -/
  | name (parent : Place) (name : String)
deriving DecidableEq, Repr

/-- The bytes that a path may have. -/
def pathLimit : Nat := 4095

/-- The bytes that a name may have. -/
def nameLimit : Nat := 255

/-- The names on a path that a disk can follow. -/
def followable (path : String) : Except Fault (List String) :=
  if path.toList.contains (Char.ofNat 0) then
    .error (.other "file name contained an unexpected NUL byte")
  else if path.isEmpty then .error .missing
  else if path.utf8ByteSize > pathLimit then .error .nameTooLong
  else .ok (Path.names path)

namespace Disk

/-! ## Following paths -/

/-- What a name in a directory stands for. -/
def look (d : Disk) (parent : Place) (name : String) : Except Fault (Option Entry) :=
  if name.utf8ByteSize > nameLimit then .error .nameTooLong
  else .ok (d.entries.get? (parent ++ [name]))

/-- The directory that names lead to from another one. -/
def walk (d : Disk) (start : Place) : List String → Except Fault Place
  | [] => .ok start
  | name :: names =>
      if name = Path.here then d.walk start names
      else if name = Path.up then d.walk start.dropLast names
      else
        match d.look start name with
        | .error fault => .error fault
        | .ok none => .error .missing
        | .ok (some (.file _)) => .error .notDirectory
        | .ok (some .directory) => d.walk (start ++ [name]) names

/-- Where a path leads. -/
def destination (d : Disk) (path : String) : Except Fault Destination := do
  let names ← followable path
  match names.getLast? with
  | none => .ok .directory
  | some last =>
      if last = Path.here ∨ last = Path.up then
        let _ ← d.walk [] names
        .ok .directory
      else return .name (← d.walk [] names.dropLast) last

/-! ## Operations -/

/-- The disk with an entry at a place. -/
def put (d : Disk) (place : Place) (e : Entry) : Disk := ⟨d.entries.insert place e⟩

/-- The disk with one more directory. -/
def makeDir (d : Disk) (path : String) : Except Fault Disk := do
  match ← d.destination path with
  | .directory => .error .occupied
  | .name parent name =>
      match ← d.look parent name with
      | some _ => .error .occupied
      | none => .ok (d.put (parent ++ [name]) .directory)

/-- There is a directory at a path. -/
def isDir (d : Disk) (path : String) : Bool :=
  match d.destination path with
  | .error _ => false
  | .ok .directory => true
  | .ok (.name parent name) =>
      match d.look parent name with
      | .ok (some .directory) => true
      | _ => false

/-- The disk with a file that holds a text. -/
def write (d : Disk) (path content : String) : Except Fault Disk := do
  match ← d.destination path with
  | .directory => .error .isDirectory
  | .name parent name =>
      if Path.endsInSlash path then .error .isDirectory
      else
        match ← d.look parent name with
        | some .directory => .error .isDirectory
        | _ => .ok (d.put (parent ++ [name]) (.file content))

/-- What a file holds. -/
def read (d : Disk) (path : String) : Except Fault String := do
  match ← d.destination path with
  | .directory => .error .isDirectory
  | .name parent name =>
      match ← d.look parent name with
      | none => .error .missing
      | some .directory => .error .isDirectory
      | some (.file content) =>
          if Path.endsInSlash path then .error .notDirectory else .ok content

/-- An operation that leaves the disk as it is where there is a fault. -/
def change (operation : Disk → Except Fault Disk) : StateM Disk (Option Fault) := fun d =>
  match operation d with
  | .ok changed => (none, changed)
  | .error fault => (some fault, d)

/-- The file system of a disk. -/
def fileSystem : FileSystem (StateM Disk) where
  makeDir := fun path => change (·.makeDir path)
  isDir := fun path d => (d.isDir path, d)
  write := fun path content => change (·.write path content)
  read := fun path d => (d.read path, d)

/-! ## Looking at a whole disk -/

/-- The path of an entry and what it holds.  The path of a directory ends with a slash. -/
def described : Place × Entry → String × Option String
  | (place, .directory) => ("/".intercalate place ++ "/", none)
  | (place, .file content) => ("/".intercalate place, some content)

/-- All that is on the disk, sorted by path. -/
def listing (d : Disk) : List (String × Option String) :=
  (d.entries.toList.map described).mergeSort fun a b => decide (a.1 ≤ b.1)

end Disk

end ClassDiagram.Files
