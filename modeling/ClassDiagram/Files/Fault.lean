/-!
# Faults of a file system

Why a file system refuses what it is asked for.  The common reasons have numbers
of their own, which their messages name.
-/

namespace ClassDiagram.Files

/-- Why a file system refuses. -/
inductive Fault where
  /-- There is nothing at the path, or a directory on the way is missing. -/
  | missing
  /-- There is something at the path already. -/
  | occupied
  /-- Something on the way is no directory. -/
  | notDirectory
  /-- There is a directory at the path. -/
  | isDirectory
  /-- The path or a name in it is too long. -/
  | nameTooLong
  /-- Any other reason, in the words of the file system. -/
  | other (message : String)
deriving DecidableEq, Repr

namespace Fault

/-- A message with the number of the reason. -/
def numbered (text : String) (number : Nat) : String :=
  text ++ " (os error " ++ toString number ++ ")"

/-- The message of a fault. -/
def message : Fault → String
  | .missing => numbered "No such file or directory" 2
  | .occupied => numbered "File exists" 17
  | .notDirectory => numbered "Not a directory" 20
  | .isDirectory => numbered "Is a directory" 21
  | .nameTooLong => numbered "File name too long" 36
  | .other message => message

end Fault

/-- The report of a fault at a path. -/
def report (path message : String) : String := "IO error at " ++ path ++ ": " ++ message

end ClassDiagram.Files
