import ClassDiagram.Files.Fault
import ClassDiagram.Files.Path

/-!
# File systems

A `FileSystem` is what a program may ask of the files around it.  It is a record
of four operations in some monad, so the same program runs on the files of the
machine and on a `Disk` that is only a value.  An operation that changes files
either succeeds or gives the fault that kept it from doing so.

`makeDirs` makes a directory together with those above it.  A directory that is
there already is no fault.
-/

namespace ClassDiagram.Files

/-- What a program may ask of the files around it. -/
structure FileSystem (m : Type → Type) where
  /-- Makes a directory in one that is there. -/
  makeDir : String → m (Option Fault)
  /-- There is a directory at a path. -/
  isDir : String → m Bool
  /-- Writes a file, in the place of the one there if there is one. -/
  write : String → String → m (Option Fault)
  /-- Reads a file. -/
  read : String → m (Except Fault String)

namespace FileSystem

variable {m : Type → Type} [Monad m]

/-- A fault of making a directory, which is none if the directory is there. -/
def excuse (fs : FileSystem m) (path : String) : Option Fault → m (Option Fault)
  | none => pure none
  | some fault => do
      if ← fs.isDir path then pure none else pure (some fault)

/-- Makes the first directory of a list.  If one above it is missing, makes the
rest of the list first and tries again. -/
def makeInside (fs : FileSystem m) : List String → m (Option Fault)
  | [] => pure none
  | path :: above => do
      match ← fs.makeDir path with
      | some .missing =>
          match ← fs.makeInside above with
          | none => fs.excuse path (← fs.makeDir path)
          | some fault => pure (some fault)
      | result => fs.excuse path result

/-- Makes a directory and those above it, as far as they are missing. -/
def makeDirs (fs : FileSystem m) (path : String) : m (Option Fault) :=
  fs.makeInside (Path.ancestors path)

end FileSystem

end ClassDiagram.Files
