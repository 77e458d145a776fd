/-!
# Lines

A line ends at a line feed, and a carriage return right before that line feed
belongs to the end.  A text that ends with a line feed has no empty line after
it.
-/

namespace ClassDiagram.Text

/-- A line without the carriage return it may end with. -/
def dropReturn (line : List Char) : List Char :=
  match line.reverse with
  | '\r' :: r => r.reverse
  | _ => line

/-- The lines of a text, where `start` holds the characters of the current line
read so far, newest first. -/
def linesFrom (start : List Char) : List Char → List (List Char)
  | [] => if start.isEmpty then [] else [start.reverse]
  | '\n' :: cs => dropReturn start.reverse :: linesFrom [] cs
  | c :: cs => linesFrom (c :: start) cs

/-- The lines of a text. -/
def lines (s : String) : List String := (linesFrom [] s.toList).map .ofList

/-- Every line of a text with `margin` before it, except for the empty ones. -/
def indent (margin text : String) : String :=
  String.join ((lines text).map fun line => if line.isEmpty then "\n" else margin ++ line ++ "\n")

end ClassDiagram.Text
