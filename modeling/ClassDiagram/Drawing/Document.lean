import ClassDiagram.Drawing.Basic
import ClassDiagram.Json.Fields

/-!
# Drawings in JSON

A drawing is saved as a record with the fields `root_id`, `cells` and
`relationships`.  The texts of a cell may be nested in lists to any depth that a
document admits, and are read from the outside in and from left to right.
-/

namespace ClassDiagram

open Json

/-- A style. -/
def Style.ofJson? : Read → Option Style := map? text?

/-- The texts of a value, inside which only so many lists may still be open. -/
def nestedTexts? : Nat → Read → Option (List String)
  | _, .string text => text.map ([·])
  | room + 1, .array items => (items.mapM (nestedTexts? room)).map (·.flatten)
  | _, _ => none

/-- The lists that may be open in the texts of a cell.  The drawing, its map of
cells, the cell and its list of texts are open around them. -/
def textNestingLimit : Nat := nestingLimit - 4

/-- A cell. -/
def Cell.ofJson? (value : Read) : Option Cell := do
  let fields ← fields? ["id", "parent_id", "style", "values"] value
  let id ← required? fields "id" text?
  let parent ← optional? fields "parent_id" none (nullable? text?)
  let style ← optional? fields "style" ∅ Style.ofJson?
  let texts ← optional? fields "values" [] (list? (nestedTexts? textNestingLimit))
  some { id, parent, style, texts := texts.flatten }

/-- A connector. -/
def Connector.ofJson? (value : Read) : Option Connector := do
  let fields ← fields? ["source_id", "target_id", "style"] value
  let source ← required? fields "source_id" text?
  let target ← required? fields "target_id" text?
  let style ← optional? fields "style" ∅ Style.ofJson?
  some { source, target, style }

/-- A drawing. -/
def Drawing.ofJson? (value : Read) : Option Drawing := do
  let fields ← fields? ["root_id", "cells", "relationships"] value
  let root ← required? fields "root_id" text?
  let cells ← optional? fields "cells" ∅ (map? Cell.ofJson?)
  let connectors ← optional? fields "relationships" ∅ (map? Connector.ofJson?)
  some { root, cells, connectors }

/-- The drawing that a document holds. -/
def Drawing.parse? (document : String) : Option Drawing := do
  Drawing.ofJson? (← Json.parse? document)

end ClassDiagram
