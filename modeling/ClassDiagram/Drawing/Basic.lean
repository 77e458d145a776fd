import ClassDiagram.OrderedMap
import ClassDiagram.Text.Blank
import ClassDiagram.Text.Lines
import ClassDiagram.Text.Numeral

/-!
# Drawings

A drawing is what a diagram editor saves: cells in boxes inside each other, and
connectors between them.  What a cell or a connector looks like is a style, a
map from attributes to values.  Nothing here knows of classes yet.
-/

namespace ClassDiagram

open Text

/-- The attributes of a cell or a connector. -/
abbrev Style : Type := OrderedMap String String

/-- A box or a text of a drawing. -/
structure Cell where
  /-- Its name in the drawing. -/
  id : String
  /-- The cell it lies in, if any. -/
  parent : Option String := none
  /-- What it looks like. -/
  style : Style := ∅
  /-- The texts it shows, in reading order. -/
  texts : List String := []
deriving DecidableEq

/-- A line drawn from one cell to another. -/
structure Connector where
  /-- The cell it starts at. -/
  source : String
  /-- The cell it ends at. -/
  target : String
  /-- What it looks like. -/
  style : Style := ∅
deriving DecidableEq

/-- A whole drawing. -/
structure Drawing where
  /-- The cell that all others lie in. -/
  root : String
  /-- The cells, under the keys they are saved with. -/
  cells : OrderedMap String Cell := ∅
  /-- The connectors, under the cells of their labels. -/
  connectors : OrderedMap String Connector := ∅
deriving DecidableEq

namespace Cell

/-- The shape a cell has. -/
def shape (c : Cell) : Option String := c.style.get? "shape"

/-- The cell it lies in, which is named by the empty text if there is none. -/
def parentId (c : Cell) : String := c.parent.getD ""

/-- The lines a cell shows, trimmed and without blank ones. -/
def lines (c : Cell) : List String :=
  ((c.texts.flatMap Text.lines).map trim).filter (!·.isEmpty)

/-- The text of a cell is italic, by the second bit of its font style. -/
def isItalic (c : Cell) : Bool :=
  match (c.style.get? "fontStyle").bind fun v => word32? (trimChars v.toList) with
  | some bits => bits &&& 2 != 0
  | none => false

end Cell

namespace Drawing

/-- The drawing with a cell, in the place of the one with its key if there is one. -/
def addCell (d : Drawing) (c : Cell) : Drawing := { d with cells := d.cells.insert c.id c }

/-- The drawing with a connector, in the place of the one with its label if there is one. -/
def addConnector (d : Drawing) (label : String) (c : Connector) : Drawing :=
  { d with connectors := d.connectors.insert label c }

end Drawing

end ClassDiagram
