/-!
# Paths

A path is a text in which slashes separate names.  Empty names do not count, and
a path that starts with a slash starts at the root.

`join` puts a path below another one.  `ancestors` lists a path and the paths of
the directories above it, from the inside out.
-/

namespace ClassDiagram.Files.Path

/-- The texts between the slashes of a text: the first one and those after it. -/
def splitSlashes : List Char → List Char × List (List Char)
  | [] => ([], [])
  | c :: cs =>
      let (first, others) := splitSlashes cs
      if c = '/' then ([], first :: others) else (c :: first, others)

/-- The names on a path. -/
def names (path : String) : List String :=
  let (first, others) := splitSlashes path.toList
  ((first :: others).filter (!·.isEmpty)).map .ofList

/-- The path starts at the root. -/
def isAbsolute (path : String) : Bool := path.toList.head? == some '/'

/-- The path ends with a slash. -/
def endsInSlash (path : String) : Bool := path.toList.getLast? == some '/'

/-- A path below another one.  One that starts at the root stays as it is. -/
def join (base path : String) : String :=
  if base.isEmpty || isAbsolute path then path
  else if endsInSlash base then base ++ path
  else base ++ "/" ++ path

/-- The name of a directory in itself. -/
def here : String := "."

/-- The name of the directory above. -/
def up : String := ".."

/-- The beginnings of a list that are neither empty nor all of it, longest first.  The list
is given backwards. -/
def beginnings : List String → List (List String)
  | [] | [_] => []
  | _ :: rest => rest.reverse :: beginnings rest

/-- A path and the paths of the directories above it, from the inside out. -/
def ancestors (path : String) : List String :=
  if path.isEmpty then []
  else
    let steps := (names path).filter (· != here)
    path :: (beginnings steps.reverse).map fun l =>
      (if isAbsolute path then "/" else "") ++ "/".intercalate l

end ClassDiagram.Files.Path
