import ClassDiagram.Text.Blank

/-!
# Splitting texts

`splitFirst` and `splitLast` cut a text at the first or last occurrence of a
character, which belongs to neither part.

`pieces` reads a list separated by commas.  Some characters are forbidden in a
piece.  If the comma is one of them, it ends a piece and starts the next, and
any other forbidden character makes the list unreadable.  Pieces are trimmed.
`items` leaves out the blank ones.
-/

namespace ClassDiagram.Text

/-! ## One cut -/

/-- The parts before and after the first occurrence of a character. -/
def splitFirst (mark : Char) : List Char → Option (List Char × List Char)
  | [] => none
  | c :: cs =>
      if c = mark then some ([], cs)
      else (splitFirst mark cs).map fun (before, after) => (c :: before, after)

/-- The parts before and after the last occurrence of a character. -/
def splitLast (mark : Char) : List Char → Option (List Char × List Char)
  | [] => none
  | c :: cs =>
      match splitLast mark cs with
      | some (before, after) => some (c :: before, after)
      | none => if c = mark then some ([], cs) else none

/-! ## Lists -/

/-- The pieces of a list, not yet trimmed: the first one and those after it. -/
def rawPieces (forbidden : List Char) : List Char → Option (List Char × List (List Char))
  | [] => some ([], [])
  | c :: cs =>
      match rawPieces forbidden cs with
      | none => none
      | some (first, others) =>
          if c ∉ forbidden then some (c :: first, others)
          else if c = ',' then some ([], first :: others)
          else none

/-- The trimmed pieces of a list separated by commas, or nothing if a forbidden
character stands in one. -/
def pieces (forbidden : List Char) (cs : List Char) : Option (List (List Char)) :=
  (rawPieces forbidden cs).map fun (first, others) => (first :: others).map trimChars

/-- The pieces of a list that are not blank. -/
def items (forbidden : List Char) (cs : List Char) : Option (List (List Char)) :=
  (pieces forbidden cs).map (·.filter (!·.isEmpty))

/-! ## Small facts -/

/-- The two parts and the character between them make up the text. -/
theorem eq_of_splitFirst {mark : Char} {cs before after : List Char}
    (h : splitFirst mark cs = some (before, after)) : cs = before ++ mark :: after := by
  induction cs generalizing before with
  | nil => simp [splitFirst] at h
  | cons c cs ih =>
    rw [splitFirst] at h
    split at h
    next hc => simp_all
    next hc =>
      simp only [Option.map_eq_some_iff, Prod.mk.injEq] at h
      obtain ⟨⟨b, a⟩, hs, rfl, rfl⟩ := h
      simp [ih hs]

/-- The part before the first occurrence does not hold the character. -/
theorem notMem_of_splitFirst {mark : Char} {cs before after : List Char}
    (h : splitFirst mark cs = some (before, after)) : mark ∉ before := by
  induction cs generalizing before with
  | nil => simp [splitFirst] at h
  | cons c cs ih =>
    rw [splitFirst] at h
    split at h
    next hc => simp_all
    next hc =>
      simp only [Option.map_eq_some_iff, Prod.mk.injEq] at h
      obtain ⟨⟨b, a⟩, hs, rfl, rfl⟩ := h
      simp [Ne.symm hc, ih hs]

/-- A cut is found exactly when the character occurs. -/
theorem splitFirst_eq_none_iff {mark : Char} {cs : List Char} :
    splitFirst mark cs = none ↔ mark ∉ cs := by
  induction cs with
  | nil => simp [splitFirst]
  | cons c cs ih =>
    rw [splitFirst]
    split
    next hc => simp [hc]
    next hc => simp [Ne.symm hc, ih]

end ClassDiagram.Text
