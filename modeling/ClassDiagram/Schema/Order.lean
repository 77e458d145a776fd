import ClassDiagram.Distinct
import ClassDiagram.Model.Basic

/-!
# The order of creation

A script must create a table before the tables that refer to it.  The tables
that one refers to are its *parents*.  Its level is the length of the longest
walk from parent to parent.  A table from which some walk does not end has no
level.

Levels are found in rounds.  A round gives a table a level once all its parents
have one, and as many rounds as there are tables are enough.  The tables come
level by level, each level in the order of the model, and the tables without a
level come last.
-/

namespace ClassDiagram.Schema

/-- The place of the last entity of a list with a name. -/
def lastPlace? (entities : List Entity) (name : String) : Option Nat :=
  ((List.range entities.length).filter fun i =>
    (entities[i]?.map (·.name)) == some name).getLast?

/-- The name of the table that a property marked as a foreign key is about. -/
def parentName (m : Model) (p : Property) : String :=
  let target := p.constraints.foreignTarget.getD p.type
  ((m.named? target).map (·.name)).getD target

/-- The places of the parents of the entity at a place. -/
def parentsAt (m : Model) (entities : List Entity) (place : Nat) (e : Entity) : List Nat :=
  firsts (((e.propertyList.filter (·.constraints.foreign)).filterMap fun p =>
    lastPlace? entities (parentName m p)).filter (· != place))

/-- The level above some levels, if all of them are known. -/
def levelAbove : List (Option Nat) → Option Nat
  | [] => some 0
  | level :: levels => do
      let l ← level
      let above ← levelAbove levels
      some (max (l + 1) above)

/-- One round: the levels that follow from those known. -/
def nextLevels (parents : List (List Nat)) (known : List (Option Nat)) : List (Option Nat) :=
  parents.map fun ps => levelAbove (ps.map fun p => known[p]?.join)

/-- The levels known after some rounds. -/
def levelsAfter (parents : List (List Nat)) : Nat → List (Option Nat)
  | 0 => parents.map fun _ => none
  | rounds + 1 => nextLevels parents (levelsAfter parents rounds)

/-- The places level by level, and those without a level last. -/
def placesByLevel (levels : List (Option Nat)) : List Nat :=
  let places := List.range levels.length
  places.flatMap (fun l => places.filter fun i => levels[i]?.join == some l)
    ++ places.filter fun i => levels[i]?.join == none

/-- The places of some entities in the order in which their tables are created. -/
def creationOrder (m : Model) (entities : List Entity) : List Nat :=
  let parents := entities.mapIdx (parentsAt m entities)
  placesByLevel (levelsAfter parents entities.length)

end ClassDiagram.Schema
