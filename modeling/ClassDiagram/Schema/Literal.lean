/-!
# Literals of SQL

A text in double quotes is written in single quotes, and every single quote in
it twice.  Any other value is written as it is.
-/

namespace ClassDiagram.Schema

/-- A text with every single quote twice. -/
def doubleQuotes : List Char → List Char
  | [] => []
  | c :: cs => if c = '\'' then '\'' :: '\'' :: doubleQuotes cs else c :: doubleQuotes cs

/-- What stands between the double quotes around a text, if it has them. -/
def unquoted? (value : List Char) : Option (List Char) :=
  match value with
  | '"' :: inner => if inner.getLast? = some '"' then some inner.dropLast else none
  | _ => none

/-- The literal for a value. -/
def literal (value : String) : String :=
  match unquoted? value.toList with
  | some inner => .ofList ('\'' :: doubleQuotes inner ++ ['\''])
  | none => value

end ClassDiagram.Schema
