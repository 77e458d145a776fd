import ClassDiagram.Drawing.Basic

/-!
# Relations between classes

How a connector is drawn says how the classes at its ends are related.  The
heads of the line, whether they are filled and whether the line is dashed decide
it.  A connector drawn in any other way means nothing.
-/

namespace ClassDiagram

open Text

/-- How one class is related to another. -/
inductive Relation where
  | association
  | aggregation
  | composition
  /-- The source is a special case of the target. -/
  | generalization
  /-- The source does what the target demands. -/
  | realization
deriving DecidableEq, Repr

namespace Relation

/-- Both classes take note of the relation, and not the source alone. -/
def isMutual : Relation → Bool
  | .association | .aggregation | .composition => true
  | .generalization | .realization => false

/-- The word for a relation. -/
def keyword : Relation → String
  | .association => "association"
  | .aggregation => "aggregation"
  | .composition => "composition"
  | .generalization => "extends"
  | .realization => "implements"

end Relation

/-- What the line of a connector looks like. -/
structure LineStyle where
  /-- The head at the source. -/
  startHead : Option String
  /-- The head at the target. -/
  endHead : Option String
  /-- The head at the source is filled. -/
  startFilled : Bool
  /-- The head at the target is filled. -/
  endFilled : Bool
  /-- The line is dashed. -/
  dashed : Bool
deriving DecidableEq, Repr

namespace LineStyle

/-- The value of an attribute is one of the words for yes. -/
def isYes (value : String) : Bool := value == "1" || value == "true"

/-- The line that a style draws.  Heads are filled unless the style says otherwise. -/
def ofStyle (style : Style) : LineStyle :=
  let value (key : String) := (style.get? key).map trim
  { startHead := value "startArrow"
    endHead := value "endArrow"
    startFilled := ((value "startFill").map isYes).getD true
    endFilled := ((value "endFill").map isYes).getD true
    dashed := ((value "dashed").map isYes).getD false }

/-- The relation that a line stands for. -/
def relation? (line : LineStyle) : Option Relation :=
  match line.endHead with
  | some "none" => some .association
  | some "block" =>
      some (if line.endFilled then .association
        else if line.dashed then .realization
        else .generalization)
  | some "diamondthin" => some (if line.endFilled then .composition else .aggregation)
  | some "open" =>
      if line.startHead = some "diamondthin" then
        some (if line.startFilled then .composition else .aggregation)
      else none
  | _ => none

end LineStyle

/-- The relation that a style stands for. -/
def Style.relation? (style : Style) : Option Relation := (LineStyle.ofStyle style).relation?

end ClassDiagram
