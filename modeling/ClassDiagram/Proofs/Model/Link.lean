import ClassDiagram.Model.Basic
import ClassDiagram.Proofs.OrderedMap

/-!
# What one relation does to a model

A relation between two entities leaves links at its source and, if it is mutual,
at its target.  `Links.record` is what it does to the links at any one entity, a
loop included, and `get?_link?` says that nothing else of the model changes.

Two properties of the links of a whole model are kept by everything that makes
links.  In a *closed* model every link leads to an entity that is there.  In a
*paired* model every link of a mutual relation has its counterpart at the other
end, as often as it is there itself.
-/

namespace ClassDiagram

/-! ## Links at one entity -/

namespace Links

/-- The entities that links lead to. -/
def ids (l : Links) : List String := l.bases ++ l.interfaces ++ l.relatedIds

/-- The links at an entity after a relation between a source and a target. -/
def record (l : Links) (relation : Relation) (source target id : String) : Links :=
  let started := if id = source then l.add relation .outgoing target else l
  if relation.isMutual && id == target then started.add relation .incoming source else started

end Links

/-! ## Links in a model -/

namespace Model

theorem contains_congr {m n : Model} (keys : m.entities.keys = n.entities.keys) (id : String) :
    m.contains id = n.contains id := by
  rw [Bool.eq_iff_iff, contains, contains, OrderedMap.contains_iff_mem_keys,
    OrderedMap.contains_iff_mem_keys, keys]

theorem contains_eq_false_iff {m : Model} {id : String} :
    m.contains id = false ↔ m.get? id = none := by
  rw [contains, OrderedMap.contains, Option.isSome_eq_false_iff, Option.isNone_iff_eq_none]
  rfl

/-- A link is added to the entity at its id and to no other. -/
theorem get?_addLink (m : Model) (id : String) (relation : Relation) (direction : Direction)
    (other j : String) : (m.addLink id relation direction other).get? j =
      if j = id then
        (m.get? j).map fun e => { e with links := e.links.add relation direction other }
      else m.get? j :=
  OrderedMap.get?_modify _ _ _ _

@[simp] theorem keys_addLink (m : Model) (id : String) (relation : Relation) (direction : Direction)
    (other : String) : (m.addLink id relation direction other).entities.keys = m.entities.keys :=
  OrderedMap.keys_modify _ _ _

/-- A relation is made exactly between entities that are there. -/
theorem isSome_link? (m : Model) (relation : Relation) (source target : String) :
    (m.link? relation source target).isSome = (m.contains source && m.contains target) := by
  rw [link?]
  cases m.contains source && m.contains target <;> rfl

variable {m m' : Model} {relation : Relation} {source target : String}

/-- A mutual relation is added at both of its ends, another one at its source. -/
theorem link?_eq_some (h : m.link? relation source target = some m') :
    m' = if relation.isMutual then
        (m.addLink source relation .outgoing target).addLink target relation .incoming source
      else m.addLink source relation .outgoing target := by
  rw [link?] at h
  split at h
  next => exact (Option.some.inj h).symm
  next => cases h

theorem keys_link? (h : m.link? relation source target = some m') :
    m'.entities.keys = m.entities.keys := by
  rw [link?_eq_some h]
  split
  next => rw [keys_addLink, keys_addLink]
  next => rw [keys_addLink]

/-- A relation records its links and leaves everything else as it is. -/
theorem get?_link? (h : m.link? relation source target = some m') (id : String) :
    m'.get? id = (m.get? id).map fun e =>
      { e with links := e.links.record relation source target id } := by
  rw [link?_eq_some h]
  cases hmutual : relation.isMutual with
  | false =>
    simp only [Bool.false_eq_true, if_false, get?_addLink, Links.record, hmutual, Bool.false_and]
    split
    next => rfl
    next => cases m.get? id <;> rfl
  | true =>
    simp only [if_true, get?_addLink, Links.record, hmutual, Bool.true_and, beq_iff_eq]
    by_cases hsource : id = source
    · by_cases htarget : id = target
      · simp only [if_pos hsource, if_pos htarget, Option.map_map, Function.comp_def]
      · simp only [if_pos hsource, if_neg htarget]
    · by_cases htarget : id = target
      · simp only [if_neg hsource, if_pos htarget]
      · simp only [if_neg hsource, if_neg htarget]
        cases m.get? id <;> rfl

/-! ## Closed and paired models -/

/-- The links of a mutual relation at an entity, of which there are none where there is
no entity. -/
def directedAt (m : Model) (relation : Relation) (id : String) : List (Direction × String) :=
  ((m.get? id).map (·.links.directed relation)).getD []

/-- Every link leads to an entity of the model. -/
def LinksClosed (m : Model) : Prop :=
  ∀ id e, m.get? id = some e → ∀ other ∈ e.links.ids, m.contains other = true

/-- A model is closed if all ids in the links of its entities are those of entities. -/
theorem linksClosed_of_values {m : Model}
    (h : ∀ e ∈ m.entities.values, ∀ other ∈ e.links.ids, m.contains other = true) :
    m.LinksClosed :=
  fun id e hget => h e ((OrderedMap.mem_values_iff _ _).2 ⟨id, hget⟩)

/-- Every link of a mutual relation has its counterpart at the other end. -/
def LinksPaired (m : Model) : Prop :=
  ∀ (relation : Relation) (a b : String),
    (m.directedAt relation a).count (.outgoing, b) = (m.directedAt relation b).count (.incoming, a)

end Model

end ClassDiagram
