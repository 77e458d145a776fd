import ClassDiagram.Model.Entity

/-!
# Models

A model is what a diagram means: its entities, each under the cell that it
stands in, in the order of the diagram.  Links between entities are made one at
a time, and only between entities that are there.
-/

namespace ClassDiagram

/-- The entities of a diagram, under their cells and in order. -/
structure Model where
  /-- The entities under their cells. -/
  entities : OrderedMap String Entity := ∅
deriving DecidableEq

namespace Model

/-- The model with an entity under a cell, in the place of the one there if there is one. -/
def insert (m : Model) (id : String) (e : Entity) : Model := ⟨m.entities.insert id e⟩

/-- The entity under a cell. -/
def get? (m : Model) (id : String) : Option Entity := m.entities.get? id

/-- There is an entity under a cell. -/
def contains (m : Model) (id : String) : Bool := m.entities.contains id

/-- The name of the entity under a cell. -/
def nameOf? (m : Model) (id : String) : Option String := (m.get? id).map (·.name)

/-- The entities with their cells, in order. -/
def toList (m : Model) : List (String × Entity) := m.entities.toList

/-- The first entity with a name, and its cell. -/
def find? (m : Model) (name : String) : Option (String × Entity) :=
  m.toList.find? fun (_, e) => e.name == name

/-- The first entity with a name. -/
def named? (m : Model) (name : String) : Option Entity := (m.find? name).map (·.2)

/-- The model with one more link at an entity. -/
def addLink (m : Model) (id : String) (relation : Relation) (direction : Direction)
    (other : String) : Model :=
  ⟨m.entities.modify id fun e => { e with links := e.links.add relation direction other }⟩

/-- The model with a relation between two of its entities: a link at the source, and
for a mutual relation another one at the target. -/
def link? (m : Model) (relation : Relation) (source target : String) : Option Model :=
  if m.contains source && m.contains target then
    let linked := m.addLink source relation .outgoing target
    some (if relation.isMutual then linked.addLink target relation .incoming source else linked)
  else none

end Model

end ClassDiagram
