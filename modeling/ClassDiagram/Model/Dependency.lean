import ClassDiagram.Model.Interface

/-!
# Dependencies

The names that an entity depends on, by how it does: as a base, as an interface
it realises, or in any other way.  Other ways are a mutual relation and the type
of a property, of a parameter or of what a method returns.  The methods that the
interfaces demand count as its own.
-/

namespace ClassDiagram

/-- The names that an entity depends on, by how it does. -/
structure Dependencies where
  /-- The names of its bases. -/
  bases : List String := []
  /-- The names of its interfaces. -/
  interfaces : List String := []
  /-- The names it depends on in any other way, also more than once. -/
  references : List String := []
deriving DecidableEq, Repr

/-- All names, each where it comes first. -/
def Dependencies.imports (d : Dependencies) : List String :=
  firsts (d.bases ++ d.interfaces ++ d.references)

namespace Model

/-- The names of the entities at some cells. -/
def names (m : Model) (ids : List String) : List String := ids.filterMap m.nameOf?

/-- The types that the members of an entity use, with those of the methods it owes. -/
def memberTypes (m : Model) (e : Entity) : List String :=
  e.propertyList.map (·.type)
    ++ (e.methodList ++ m.demanded e.links.interfaces).flatMap Method.types

/-- The names that an entity depends on. -/
def dependenciesOf (m : Model) (e : Entity) : Dependencies where
  bases := m.names e.links.bases
  interfaces := m.names e.links.interfaces
  references :=
    (m.names e.links.relatedIds).filter (· != e.name)
      ++ ((m.memberTypes e).filter (· != e.name)).filterMap fun type =>
          (m.named? type).map (·.name)

/-- The names that the entity at a cell depends on. -/
def dependencies (m : Model) (id : String) : Dependencies :=
  match m.get? id with
  | some e => m.dependenciesOf e
  | none => {}

end Model

end ClassDiagram
