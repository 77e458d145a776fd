import ClassDiagram.Text.Blank
import ClassDiagram.Text.CaseTable

/-!
# Changing case

`toLower` and `toUpper` are the full case mappings of Unicode, which may change
the length of a text: `ß` becomes `SS` and `İ` becomes `i` with a dot above.
A capital sigma becomes the final form `ς` at the end of a word and `σ`
elsewhere.  The end of a word is told from the nearest characters on both sides
that are not case-ignorable: there is a cased one before and none after.

`capitalize` raises the first character and keeps the rest.
-/

namespace ClassDiagram.Text

/-! ## One character -/

/-- The upper case of a character. -/
def upperChar (c : Char) : List Char :=
  match upperExpansions.lookup c.toNat with
  | some points => points.map Char.ofNat
  | none =>
      match CaseRun.find? upperRuns c.toNat with
      | some n => [.ofNat n]
      | none => [c]

/-- The lower case of a character, wherever it stands. -/
def lowerChar (c : Char) : List Char :=
  if c = 'İ' then ['i', .ofNat 0x307]
  else
    match CaseRun.find? lowerRuns c.toNat with
    | some n => [.ofNat n]
    | none => [c]

/-! ## Texts -/

/-- The first character that is not case-ignorable is cased. -/
def meetsCased (cs : List Char) : Bool :=
  match cs.dropWhile fun c => inRanges caseIgnorableRanges c.toNat with
  | [] => false
  | c :: _ => inRanges casedRanges c.toNat

/-- Lowers a text of which the characters `before`, nearest first, come earlier. -/
def lowerAfter (before : List Char) : List Char → List Char
  | [] => []
  | c :: cs =>
      (if c = 'Σ' then [if meetsCased before && !meetsCased cs then 'ς' else 'σ']
        else lowerChar c) ++ lowerAfter (c :: before) cs

/-- The lower case of a text. -/
def toLower (s : String) : String := .ofList (lowerAfter [] s.toList)

/-- The upper case of a text. -/
def toUpper (s : String) : String := .ofList (s.toList.flatMap upperChar)

/-- The text with its first character in upper case. -/
def capitalize (s : String) : String :=
  match s.toList with
  | [] => ""
  | c :: cs => .ofList (upperChar c ++ cs)

/-- The form under which names are looked up: trimmed and in lower case. -/
def folded (s : String) : String := toLower (trim s)

end ClassDiagram.Text
