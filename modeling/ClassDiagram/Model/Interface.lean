import ClassDiagram.Distinct
import ClassDiagram.Model.Basic

/-!
# What interfaces demand

An entity that realises an interface owes its methods, and those of every
interface that one realises in turn.  `interfaceWalk` visits these interfaces
depth first, and each of them once.  It keeps the entities that have not been
visited yet, takes an entity out of them when it gets there, and passes over a
cell that is not among them.  So it ends on every model, also when realisation
goes in a circle.
-/

namespace ClassDiagram

/-- The pairs of a list with another cell than the given one. -/
def exceptAt (id : String) (l : List (String × Entity)) : List (String × Entity) :=
  l.filter (·.1 != id)

/-- An entity that was visited is not visited again, so the walk ends. -/
theorem length_exceptAt_lt {id : String} {l : List (String × Entity)} {p : String × Entity}
    (h : l.find? (·.1 == id) = some p) : (exceptAt id l).length < l.length := by
  rw [exceptAt, List.length_filter_lt_length_iff_exists]
  exact ⟨p, List.mem_of_find?_eq_some h, by simpa using List.find?_some h⟩

/-- The entities at the cells of a list and at those they realise, depth first, out of
the entities that remain. -/
def interfaceWalk (remaining : List (String × Entity)) : List String → List (String × Entity)
  | [] => []
  | id :: ids =>
      match _ : remaining.find? (·.1 == id) with
      | none => interfaceWalk remaining ids
      | some visited =>
          visited :: interfaceWalk (exceptAt id remaining)
            (visited.2.links.interfaces ++ ids)
termination_by ids => (remaining.length, ids.length)
decreasing_by
  · exact Prod.Lex.right _ (by simp)
  · exact Prod.Lex.left _ _ (length_exceptAt_lt (by assumption))

namespace Model

/-- The interfaces at the cells of a list and those they realise, each with its cell. -/
def interfacesFrom (m : Model) (ids : List String) : List (String × Entity) :=
  interfaceWalk m.toList ids

/-- The methods that the interfaces of a list demand. -/
def demanded (m : Model) (ids : List String) : List Method :=
  (m.interfacesFrom ids).flatMap fun (_, e) => e.methodList

/-- The methods that an entity owes: of those demanded and not declared, the first with
each name. -/
def owed (m : Model) (e : Entity) : List Method :=
  firstsBy (·.name) ((m.demanded e.links.interfaces).filter fun d => !e.declares d.name)

end Model

end ClassDiagram
