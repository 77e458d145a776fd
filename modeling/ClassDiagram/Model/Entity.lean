import ClassDiagram.Drawing.Relation
import ClassDiagram.Member.Basic
import ClassDiagram.OrderedMap

/-!
# Entities

An entity is one class box of a diagram: a class, an abstract class, an
interface or an enumeration, with its members and its links to other entities.

Members are numbered within their half of the box.  Links name entities by the
cells they stand in.  A mutual relation leaves a link at both of its ends, and
the link says which end it is.
-/

namespace ClassDiagram

/-! ## Kinds -/

/-- The kinds of entities. -/
inductive EntityKind where
  | concrete
  | abstract
  | interface
  | enumeration
deriving DecidableEq, Repr

namespace EntityKind

/-- The entity has instances of its own or through classes below it. -/
def isClass : EntityKind → Bool
  | .concrete | .abstract => true
  | .interface | .enumeration => false

theorem ne_enumeration_of_isClass {kind : EntityKind} (h : kind.isClass = true) :
    kind ≠ .enumeration := by
  rintro rfl
  cases h

/-- The word for a kind. -/
def keyword : EntityKind → String
  | .concrete => "class"
  | .abstract => "abstract class"
  | .interface => "interface"
  | .enumeration => "enum"

end EntityKind

/-! ## Links -/

/-- The end of a relation that a link was left at. -/
inductive Direction where
  /-- The link is at the source and names the target. -/
  | outgoing
  /-- The link is at the target and names the source. -/
  | incoming
deriving DecidableEq, Repr

/-- The word for a direction. -/
def Direction.keyword : Direction → String
  | .outgoing => "to"
  | .incoming => "from"

/-- The links of an entity, oldest first. -/
structure Links where
  /-- The entities that this one is a special case of. -/
  bases : List String := []
  /-- The entities whose demands this one meets. -/
  interfaces : List String := []
  associations : List (Direction × String) := []
  aggregations : List (Direction × String) := []
  compositions : List (Direction × String) := []
deriving DecidableEq

namespace Links

/-- There are no links. -/
def isEmpty (l : Links) : Bool :=
  l.bases.isEmpty && l.interfaces.isEmpty && l.associations.isEmpty && l.aggregations.isEmpty
    && l.compositions.isEmpty

/-- The links that a mutual relation left. -/
def directed (l : Links) : Relation → List (Direction × String)
  | .association => l.associations
  | .aggregation => l.aggregations
  | .composition => l.compositions
  | .generalization | .realization => []

/-- The links with one more. -/
def add (l : Links) (relation : Relation) (direction : Direction) (other : String) : Links :=
  match relation with
  | .association => { l with associations := l.associations ++ [(direction, other)] }
  | .aggregation => { l with aggregations := l.aggregations ++ [(direction, other)] }
  | .composition => { l with compositions := l.compositions ++ [(direction, other)] }
  | .generalization => { l with bases := l.bases ++ [other] }
  | .realization => { l with interfaces := l.interfaces ++ [other] }

/-- The entities that a mutual relation leads to. -/
def relatedIds (l : Links) : List String :=
  (l.associations ++ l.aggregations ++ l.compositions).map (·.2)

end Links

/-! ## Entities -/

/-- One class box of a diagram. -/
structure Entity where
  /-- Its kind. -/
  kind : EntityKind := .concrete
  /-- Its name. -/
  name : String
  /-- A stereotype that says nothing about the kind. -/
  stereotype : Option String := none
  /-- Its properties, by number. -/
  properties : OrderedMap Nat Property := ∅
  /-- Its methods, by number. -/
  methods : OrderedMap Nat Method := ∅
  /-- Its links to other entities. -/
  links : Links := {}
deriving DecidableEq

namespace Entity

/-- The entity with one more property, under the number that comes next. -/
def addProperty (e : Entity) (p : Property) : Entity :=
  { e with properties := e.properties.insert e.properties.size p }

/-- The entity with one more method, under the number that comes next. -/
def addMethod (e : Entity) (m : Method) : Entity :=
  { e with methods := e.methods.insert e.methods.size m }

/-- The properties, in order. -/
def propertyList (e : Entity) : List Property := e.properties.values

/-- The methods, in order. -/
def methodList (e : Entity) : List Method := e.methods.values

/-- The entity has a method of its own with a name. -/
def declares (e : Entity) (name : String) : Bool := e.methodList.any (·.name == name)

end Entity

end ClassDiagram
