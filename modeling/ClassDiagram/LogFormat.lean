import ClassDiagram.Text.Case

/-!
# Formats of a log

A log may be asked for in one of three formats.  Their names are read in any
case, but not with blanks around them.
-/

namespace ClassDiagram

open Text

/-- The formats of a log. -/
inductive LogFormat where
  | compact | pretty | json
deriving DecidableEq, Repr

namespace LogFormat

/-- All formats. -/
def all : List LogFormat := [.compact, .pretty, .json]

/-- The name of a format. -/
def name : LogFormat → String
  | .compact => "compact"
  | .pretty => "pretty"
  | .json => "json"

/-- The format with a name, in any case. -/
def ofName? (name : String) : Option LogFormat := all.find? (·.name == toLower name)

/-- The report of a name that no format has. -/
def unknownReport (name : String) : String := "Unknown log format: " ++ name

end LogFormat

end ClassDiagram
