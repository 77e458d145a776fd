/-!
# Blank characters

A character is *blank* when Unicode gives it the property `White_Space`.  There
are 25 of them.  The zero width space, the byte order mark and the separators
U+001C to U+001F are not among them.

Trimming takes blanks off one end or off both.  The functions work on a list of
characters, and `trim` does the same to a string.
-/

namespace ClassDiagram.Text

/-- The code points of the property `White_Space`, as closed intervals. -/
def blankRanges : List (Nat × Nat) :=
  [(0x9, 0xD), (0x20, 0x20), (0x85, 0x85), (0xA0, 0xA0), (0x1680, 0x1680), (0x2000, 0x200A),
   (0x2028, 0x2029), (0x202F, 0x202F), (0x205F, 0x205F), (0x3000, 0x3000)]

/-- A code point lies in one of the closed intervals. -/
def inRanges (ranges : List (Nat × Nat)) (n : Nat) : Bool :=
  ranges.any fun (first, last) => decide (first ≤ n) && decide (n ≤ last)

/-- A character is blank when it has the property `White_Space`. -/
def isBlank (c : Char) : Bool := inRanges blankRanges c.toNat

/-- The characters from the first one that is not blank. -/
def trimStartChars (cs : List Char) : List Char := cs.dropWhile isBlank

/-- The characters up to the last one that is not blank. -/
def trimEndChars (cs : List Char) : List Char := (cs.reverse.dropWhile isBlank).reverse

/-- The characters from the first to the last one that is not blank. -/
def trimChars (cs : List Char) : List Char := trimEndChars (trimStartChars cs)

/-- The text from its first to its last character that is not blank. -/
def trim (s : String) : String := .ofList (trimChars s.toList)

/-! ## Small facts -/

theorem trimChars_nil : trimChars [] = [] := rfl

/-- Trimming a text is trimming its characters. -/
theorem toList_trim (s : String) : (trim s).toList = trimChars s.toList := by
  simp [trim]

end ClassDiagram.Text
