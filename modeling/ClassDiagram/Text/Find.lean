/-!
# Finding and replacing

`occurs` tells whether a text stands somewhere in another, and `replaceChar`
puts a text in the place of every occurrence of a character.
-/

namespace ClassDiagram.Text

/-- A list of characters stands somewhere in another. -/
def occursIn (part : List Char) : List Char → Bool
  | [] => part.isEmpty
  | c :: cs => part.isPrefixOf (c :: cs) || occursIn part cs

/-- A text stands somewhere in another. -/
def occurs (part whole : String) : Bool := occursIn part.toList whole.toList

/-- A text with another in the place of every occurrence of a character. -/
def replaceChar (mark : Char) (other whole : String) : String :=
  .ofList (whole.toList.flatMap fun c => if c = mark then other.toList else [c])

end ClassDiagram.Text
