import ClassDiagram.Text.Blank

/-!
# Laying out code

Code is made of lines at a depth, four blanks to a step, and of blocks in
braces.  A block opens its brace at the end of the line before or on a line of
its own, and closes it on a line of its own at the depth it was opened.
-/

namespace ClassDiagram.Emit

/-- The blanks at the start of a line at a depth. -/
def margin : Nat → String
  | 0 => ""
  | depth + 1 => "    " ++ margin depth

/-- A line at a depth. -/
def line (depth : Nat) (text : String) : String := margin depth ++ text ++ "\n"

/-- A block whose brace opens at the end of its first line. -/
def block (depth : Nat) (head body : String) : String :=
  line depth (head ++ " \x7b") ++ body ++ line depth "\x7d"

/-- A block whose brace opens on a line of its own. -/
def blockBelow (depth : Nat) (head body : String) : String :=
  line depth head ++ line depth "\x7b" ++ body ++ line depth "\x7d"

/-- Code with an empty line after it. -/
def spaced (code : String) : String := code ++ "\n"

/-- Lines of code, if any, with an empty line after them. -/
def paragraph (code : List String) : String :=
  if code.isEmpty then "" else spaced (String.join code)

/-- A list separated by commas. -/
def commas (l : List String) : String := ", ".intercalate l

/-- A list separated by blanks. -/
def words (l : List String) : String := " ".intercalate l

/-- A word that is there on a condition. -/
def wordWhen (condition : Bool) (word : String) : List String := if condition then [word] else []

end ClassDiagram.Emit
