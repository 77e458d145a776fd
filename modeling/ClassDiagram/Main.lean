import ClassDiagram.CommandLine.Session

/-!
# The program

The outer layer: the files of the machine as a `FileSystem`, and a `main` that
runs one session and prints its outcome.
-/

namespace ClassDiagram

open CommandLine Files

/-- The fault that an error of the machine stands for. -/
def faultOf (error : IO.Error) : Fault :=
  match error with
  | .noFileOrDirectory .. => .missing
  | .alreadyExists .. => .occupied
  | .inappropriateType _ code details =>
      if code = 20 then .notDirectory
      else if code = 21 then .isDirectory
      else .other (Fault.numbered details code.toNat)
  | .invalidArgument _ code details =>
      if code = 36 then .nameTooLong else .other (Fault.numbered details code.toNat)
  | .permissionDenied _ code details => .other (Fault.numbered details code.toNat)
  | other => .other (toString other)

/-- The fault of an action, if it does not succeed. -/
def faultWhen (action : IO Unit) : IO (Option Fault) := do
  match ← action.toBaseIO with
  | .ok _ => return none
  | .error error => return some (faultOf error)

/-- The result of an action or its fault. -/
def orFault (action : IO String) : IO (Except Fault String) := do
  match ← action.toBaseIO with
  | .ok text => return .ok text
  | .error error => return .error (faultOf error)

/-- The files of the machine. -/
def machineFiles : FileSystem IO where
  makeDir := fun path => faultWhen (IO.FS.createDir path)
  isDir := fun path => do
    match ← (IO.FS.realPath path).toBaseIO with
    | .ok place => place.isDir
    | .error _ => return false
  write := fun path content => faultWhen (IO.FS.writeFile path content)
  read := fun path => orFault (IO.FS.readFile path)

/-- The world that the program runs in. -/
def machine : Surroundings IO where
  files := machineFiles
  input := orFault do (← IO.getStdin).readToEnd

end ClassDiagram

/-- Answers the command line and ends with the status of the outcome. -/
def main (arguments : List String) : IO UInt32 := do
  let format ← IO.getEnv "CLASSFORGE_LOG_FORMAT"
  let outcome ← ClassDiagram.CommandLine.session ClassDiagram.machine format arguments
  IO.print outcome.output
  IO.eprint outcome.errors
  return outcome.status.toUInt32
