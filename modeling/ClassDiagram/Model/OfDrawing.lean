import ClassDiagram.Member.Signature
import ClassDiagram.Model.Basic
import ClassDiagram.Text.Case

/-!
# Recognising a model in a drawing

A cell right inside the root with the shape of a container is a class box.  Its
own texts name the class and may give it a stereotype.  The cells inside the box
hold the members: first the properties, then, after a divider, the methods.
Cells that belong to a connector are passed over, and so is every cell that lies
in no class box met before it.

The cells are taken in the order of the drawing, and `Recognition.step` takes
one of them.  A box keeps the number of the next member beside its class.  A box
that comes again starts afresh in the place of the first, and a divider starts
the numbers again at zero.

When all classes are known, `Recognition.connect` takes the connectors one by
one.
-/

namespace ClassDiagram

open Text

/-! ## Cells -/

/-- The shapes of class boxes. -/
def containerShapes : List String := ["swimlane", "umlClass", "rectangle"]

/-- The shapes of dividers between properties and methods. -/
def dividerShapes : List String := ["line", "divider"]

namespace Cell

/-- The cell has one of some shapes. -/
def hasShapeIn (c : Cell) (shapes : List String) : Bool :=
  match c.shape with
  | some shape => shapes.contains shape
  | none => false

/-- The cell separates properties from methods. -/
def isDivider (c : Cell) : Bool := c.hasShapeIn dividerShapes

end Cell

namespace Drawing

/-- The cell is part of a connector: it has the head of a line or lies in a label. -/
def belongsToConnector (d : Drawing) (c : Cell) : Bool :=
  c.style.contains "endArrow" || c.parent.any d.connectors.contains

/-- The cell is a class box. -/
def isClassBox (d : Drawing) (c : Cell) : Bool :=
  !d.belongsToConnector c && c.parentId == d.root && c.hasShapeIn containerShapes

end Drawing

/-! ## Naming a class -/

/-- A stereotype in double angle brackets at the start of a line, and the rest of the line. -/
def splitStereotype (line : List Char) : Option (List Char × List Char) :=
  match trimChars line with
  | '<' :: '<' :: inner => go inner
  | _ => none
where
  /-- The parts of a text around the first pair of closing brackets. -/
  go : List Char → Option (List Char × List Char)
    | '>' :: '>' :: rest => some ([], trimChars rest)
    | c :: cs => (go cs).map fun (tag, rest) => (c :: tag, rest)
    | [] => none

/-- The stereotype and the name that the lines of a class box give.  The first
stereotype counts, and the name is the first text outside of it. -/
def labelOf (stereotype : Option String) : List String → Option String × Option String
  | [] => (stereotype, none)
  | line :: lines =>
      match stereotype, splitStereotype line.toList with
      | none, some (tag, rest) =>
          let found := some (String.ofList (trimChars tag))
          if rest.isEmpty then labelOf found lines else (found, some (.ofList rest))
      | _, _ => if line.isEmpty then labelOf stereotype lines else (stereotype, some line)

/-- The kind that a stereotype stands for, in any case. -/
def EntityKind.ofStereotype? (stereotype : String) : Option EntityKind :=
  let word := toLower stereotype
  if word = "interface" then some .interface
  else if word = "enum" ∨ word = "enumeration" then some .enumeration
  else if word = "abstract" then some .abstract
  else none

/-- The class that a class box stands for, still without members.  A stereotype that
stands for a kind is not kept.  Without one, italics mark an abstract class. -/
def Entity.ofCell (c : Cell) : Entity :=
  let (stereotype, name) := labelOf none c.lines
  let name := name.getD c.id
  match stereotype.bind EntityKind.ofStereotype? with
  | some kind => { kind, name }
  | none => { kind := if c.isItalic then .abstract else .concrete, name, stereotype }

/-! ## Taking in cells -/

/-- A class and the place where its next member goes. -/
structure ClassBox where
  /-- The class so far. -/
  entity : Entity
  /-- A divider has been met. -/
  inMethods : Bool := false
  /-- The number of the next member. -/
  next : Nat := 0
deriving DecidableEq

namespace ClassBox

/-- The sort of member that a line of the box stands for. -/
def memberKind (b : ClassBox) : MemberKind := if b.inMethods then .method else .property

/-- The box after a divider. -/
def divide (b : ClassBox) : ClassBox := { b with inMethods := true, next := 0 }

/-- The box with one more member. -/
def add (b : ClassBox) : Member → ClassBox
  | .property p =>
      { b with
        entity := { b.entity with properties := b.entity.properties.insert b.next p }
        next := b.next + 1 }
  | .method m =>
      { b with
        entity := { b.entity with methods := b.entity.methods.insert b.next m }
        next := b.next + 1 }

end ClassBox

/-- What was counted on the way. -/
structure BuildSummary where
  classes : Nat := 0
  properties : Nat := 0
  methods : Nat := 0
  /-- Connectors that became relations. -/
  linked : Nat := 0
  /-- Connectors whose style stands for no relation. -/
  ignored : Nat := 0
  /-- Connectors with an end that is no class. -/
  skipped : Nat := 0
deriving DecidableEq, Repr

/-- The summary with one more member. -/
def BuildSummary.countMember (s : BuildSummary) : Member → BuildSummary
  | .property _ => { s with properties := s.properties + 1 }
  | .method _ => { s with methods := s.methods + 1 }

/-- A cell of a class box with a line that is no signature. -/
structure BuildError where
  /-- The cell with the line. -/
  cell : String
  /-- The class box it lies in. -/
  parent : String
  /-- The line and its fault. -/
  cause : MalformedSignature
deriving DecidableEq, Repr

/-- The report of a line that is no signature, with its cell. -/
def BuildError.message (e : BuildError) : String :=
  "Failed to parse member of cell '" ++ e.cell ++ "' in '" ++ e.parent ++ "': " ++ e.cause.message

/-- What has been recognised so far. -/
structure Recognition where
  /-- The class boxes under their cells. -/
  boxes : OrderedMap String ClassBox := ∅
  /-- What was counted. -/
  summary : BuildSummary := {}
deriving DecidableEq

namespace Recognition

/-- Takes in one line of a box. -/
def addLine (c : Cell) (state : ClassBox × BuildSummary) (line : String) :
    Except BuildError (ClassBox × BuildSummary) :=
  match Member.ofLine state.1.memberKind line with
  | .ok member => .ok (state.1.add member, state.2.countMember member)
  | .error cause => .error ⟨c.id, c.parentId, cause⟩

/-- Takes in one cell. -/
def step (d : Drawing) (r : Recognition) (c : Cell) : Except BuildError Recognition :=
  if d.belongsToConnector c then .ok r
  else if d.isClassBox c then
    .ok {
      boxes := r.boxes.insert c.id { entity := .ofCell c }
      summary := { r.summary with classes := r.summary.classes + 1 } }
  else
    match r.boxes.get? c.parentId with
    | none => .ok r
    | some box =>
        if c.isDivider then .ok { r with boxes := r.boxes.insert c.parentId box.divide }
        else
          (c.lines.foldlM (addLine c) (box, r.summary)).map fun (box, summary) =>
            { boxes := r.boxes.insert c.parentId box, summary }

/-- The classes found so far, without links. -/
def model (r : Recognition) : Model := ⟨r.boxes.mapValues (·.entity)⟩

/-- Takes in one connector. -/
def connect (state : Model × BuildSummary) (c : Connector) : Model × BuildSummary :=
  let (model, summary) := state
  match c.style.relation? with
  | none => (model, { summary with ignored := summary.ignored + 1 })
  | some relation =>
      match model.link? relation c.source c.target with
      | some linked => (linked, { summary with linked := summary.linked + 1 })
      | none => (model, { summary with skipped := summary.skipped + 1 })

end Recognition

/-! ## The whole drawing -/

/-- The classes of a drawing, with what was counted. -/
def Drawing.classes (d : Drawing) : Except BuildError Recognition :=
  d.cells.values.foldlM (Recognition.step d) {}

/-- The model of a drawing, with what was counted. -/
def Model.ofDrawing (d : Drawing) : Except BuildError (Model × BuildSummary) :=
  d.classes.map fun r => d.connectors.values.foldl Recognition.connect (r.model, r.summary)

end ClassDiagram
