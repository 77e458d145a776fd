import ClassDiagram.Distinct
import ClassDiagram.Proofs.Model.Connectors

/-!
# Models made by edits

A model need not come from a drawing.  It can be made step by step, by putting in
entities that have no links yet and by relating those that are there.  An entity can
also be put in the place of another one, and loses the links of that one then.

Any number of edits leaves a closed model, with its entities in the order in which
their cells came first.  A link that a mutual relation left may be lost with an entity
that is replaced while its counterpart stays.  So the model is paired only if no cell
was used twice (`ofEdits_invariant`).
-/

namespace ClassDiagram

/-- A change to a model. -/
inductive Edit where
  /-- Puts an entity without links under a cell. -/
  | insert (id : String) (e : Entity) (unlinked : e.links = {})
  /-- Relates two entities. -/
  | link (relation : Relation) (source target : String)

/-- The cell that an edit puts an entity under. -/
def Edit.inserted? : Edit → Option String
  | insert id _ _ => some id
  | link _ _ _ => none

namespace Model

/-- The model after an edit, and whether the edit could be made. -/
def edit (m : Model) : Edit → Model × Bool
  | .insert id e _ => (m.insert id e, true)
  | .link relation source target =>
      match m.link? relation source target with
      | some linked => (linked, true)
      | none => (m, false)

/-- The model that some edits make, one after the other. -/
def ofEdits (edits : List Edit) : Model := edits.foldl (fun m e => (m.edit e).1) {}

variable {m m' : Model} {relation : Relation} {source target : String}

theorem ofEdits_concat (edits : List Edit) (e : Edit) :
    ofEdits (edits ++ [e]) = ((ofEdits edits).edit e).1 := by
  rw [ofEdits, List.foldl_append]
  rfl

theorem edit_link_of_some (h : m.link? relation source target = some m') :
    m.edit (.link relation source target) = (m', true) := by
  rw [edit, h]

theorem edit_link_of_none (h : m.link? relation source target = none) :
    m.edit (.link relation source target) = (m, false) := by
  rw [edit, h]

/-- A relation is only linked between two entities. -/
theorem contains_of_link? (h : m.link? relation source target = some m') :
    m.contains source = true ∧ m.contains target = true := by
  have hsome := isSome_link? m relation source target
  rw [h] at hsome
  exact Bool.and_eq_true_iff.1 hsome.symm

/-- Two entities can be related if both are there. -/
theorem snd_edit_link (m : Model) (relation : Relation) (source target : String) :
    (m.edit (.link relation source target)).2 = (m.contains source && m.contains target) := by
  rw [← isSome_link? m relation]
  cases hlink : m.link? relation source target with
  | none => rw [edit_link_of_none hlink, Option.isSome_none]
  | some m' => rw [edit_link_of_some hlink, Option.isSome_some]

theorem fst_edit_link_of_not (h : (m.edit (.link relation source target)).2 = false) :
    (m.edit (.link relation source target)).1 = m := by
  cases hlink : m.link? relation source target with
  | none => rw [edit_link_of_none hlink]
  | some m' =>
    rw [edit_link_of_some hlink] at h
    cases h

/-! ## Closed models -/

theorem contains_insert {id other : String} (h : m.contains other = true) (e : Entity) :
    (m.insert id e).contains other = true := by
  rw [contains, OrderedMap.contains_iff_mem_keys] at h ⊢
  rw [insert, OrderedMap.keys_insert]
  split
  next => exact h
  next => exact List.mem_append_left _ h

theorem mem_ids_add {l : Links} {direction : Direction} {id other : String}
    (h : id ∈ (l.add relation direction other).ids) : id ∈ l.ids ∨ id = other := by
  cases relation <;>
    simp only [Links.ids, Links.relatedIds, Links.add, List.map_append, List.mem_append,
      List.map_cons, List.map_nil, List.mem_singleton] at h ⊢ <;> tauto

/-- The links that a relation leaves lead to its ends. -/
theorem mem_ids_record {l : Links} {id other : String}
    (h : other ∈ (l.record relation source target id).ids) :
    other ∈ l.ids ∨ other = source ∨ other = target := by
  have hstarted (h : other ∈ (if id = source then l.add relation .outgoing target else l).ids) :
      other ∈ l.ids ∨ other = source ∨ other = target := by
    split at h
    next => exact (mem_ids_add h).imp_right Or.inr
    next => exact Or.inl h
  rw [Links.record] at h
  split at h
  next =>
    rcases mem_ids_add h with hids | hother
    · exact hstarted hids
    · exact Or.inr (Or.inl hother)
  next => exact hstarted h

/-- An entity without links does not lead outside the model. -/
theorem LinksClosed.insert_unlinked (h : m.LinksClosed) {id : String} {e : Entity}
    (unlinked : e.links = {}) : (m.insert id e).LinksClosed := by
  intro j f hget other hother
  rw [get?, Model.insert, OrderedMap.get?_insert] at hget
  split at hget
  next =>
    cases hget
    rw [unlinked] at hother
    cases hother
  next => exact contains_insert (h j f hget other hother) e

/-- A link between two entities does not lead outside the model. -/
theorem LinksClosed.link (h : m.LinksClosed) (hlink : m.link? relation source target = some m') :
    m'.LinksClosed := by
  intro id e hget other hother
  rw [get?_link? hlink, Option.map_eq_some_iff] at hget
  obtain ⟨f, hf, rfl⟩ := hget
  obtain ⟨hsource, htarget⟩ := contains_of_link? hlink
  rw [contains_congr (keys_link? hlink)]
  rcases mem_ids_record hother with hids | rfl | rfl
  · exact h id f hf other hids
  · exact hsource
  · exact htarget

/-! ## Paired models -/

/-- An entity under a new cell changes no links. -/
theorem directedAt_insert {id : String} (fresh : m.contains id = false) {e : Entity}
    (unlinked : e.links = {}) (relation : Relation) (j : String) :
    (m.insert id e).directedAt relation j = m.directedAt relation j := by
  rw [directedAt, directedAt, get?, get?, Model.insert, OrderedMap.get?_insert]
  split
  next hj =>
    have hnone : m.entities.get? j = none := hj ▸ contains_eq_false_iff.1 fresh
    rw [hnone, Option.map_some, unlinked]
    cases relation <;> rfl
  next => rfl

/-- A mutual relation adds one directed link of that relation and none of another. -/
theorem directed_add (l : Links) (relation other : Relation) (direction : Direction) (id : String) :
    (l.add relation direction id).directed other = l.directed other ++
      if relation = other ∧ relation.isMutual then [(direction, id)] else [] := by
  cases relation <;> cases other <;> simp [Links.add, Links.directed, Relation.isMutual]

theorem directed_foldl_add (relation other : Relation) (links : List (Direction × String))
    (l : Links) : (links.foldl (fun l (direction, id) => l.add relation direction id) l).directed
      other = l.directed other ++ if relation = other ∧ relation.isMutual then links else [] := by
  induction links generalizing l with
  | nil => simp
  | cons link links ih =>
    rw [List.foldl_cons, ih, directed_add]
    split <;> simp

/-- A relation records its ends at an entity one after the other, if it is mutual. -/
theorem record_of_isMutual (hmutual : relation.isMutual = true) (l : Links) (id : String) :
    l.record relation source target id = (({ source, target } : Connector).endsAt id).foldl
      (fun l (direction, id) => l.add relation direction id) l := by
  simp only [Links.record, Connector.endsAt, hmutual, Bool.true_and, beq_iff_eq]
  split_ifs <;> rfl

/-- A mutual relation leaves its ends, and any other one no directed links. -/
theorem directed_record (l : Links) (relation other : Relation) (source target id : String) :
    (l.record relation source target id).directed other = l.directed other ++
      if relation = other ∧ relation.isMutual then
        ({ source, target } : Connector).endsAt id
      else [] := by
  cases hmutual : relation.isMutual with
  | true => rw [record_of_isMutual hmutual, directed_foldl_add, hmutual]
  | false =>
    have hadd := directed_add l relation other .outgoing target
    simp only [hmutual, Bool.false_eq_true, and_false, if_false, List.append_nil] at hadd ⊢
    rw [Links.record, hmutual, Bool.false_and, if_neg Bool.false_ne_true]
    split
    next => exact hadd
    next => rfl

/-- A mutual relation adds its two ends to the directed links of its relation. Where there is no
entity, no relation ends. -/
theorem directedAt_link? (h : m.link? relation source target = some m') (other : Relation)
    (id : String) : m'.directedAt other id = m.directedAt other id ++
      if relation = other ∧ relation.isMutual then
        ({ source, target } : Connector).endsAt id
      else [] := by
  rw [directedAt, directedAt, get?_link? h]
  cases hget : m.get? id with
  | some e => exact directed_record e.links relation other source target id
  | none =>
    have hends : ({ source, target } : Connector).endsAt id = [] := by
      have hnot : m.contains id = false := contains_eq_false_iff.2 hget
      obtain ⟨hsource, htarget⟩ := contains_of_link? h
      have hs : id ≠ source := fun e => Bool.false_ne_true (hnot.symm.trans (e ▸ hsource))
      have ht : id ≠ target := fun e => Bool.false_ne_true (hnot.symm.trans (e ▸ htarget))
      rw [Connector.endsAt, if_neg hs, if_neg ht, List.append_nil]
    rw [hends, ite_self]
    rfl

/-- A new entity without links has no link that would need its other half. -/
theorem LinksPaired.insert_unlinked (h : m.LinksPaired) {id : String}
    (fresh : m.contains id = false) {e : Entity} (unlinked : e.links = {}) :
    (m.insert id e).LinksPaired := by
  intro relation a b
  rw [directedAt_insert fresh unlinked, directedAt_insert fresh unlinked]
  exact h relation a b

/-- A mutual relation is linked at both ends, so that the halves stay paired. -/
theorem LinksPaired.link (h : m.LinksPaired) (hlink : m.link? relation source target = some m') :
    m'.LinksPaired := by
  intro other a b
  rw [directedAt_link? hlink, directedAt_link? hlink, List.count_append, List.count_append,
    h other a b]
  split
  next => rw [count_endsAt]
  next => rfl

/-! ## Any number of edits -/

theorem keys_edit_link (m : Model) (relation : Relation) (source target : String) :
    (m.edit (.link relation source target)).1.entities.keys = m.entities.keys := by
  cases hlink : m.link? relation source target with
  | none => rw [edit_link_of_none hlink]
  | some m' =>
    rw [edit_link_of_some hlink]
    exact keys_link? hlink

/-- The entities stand in the order in which their cells came first. -/
theorem keys_ofEdits (edits : List Edit) :
    (ofEdits edits).entities.keys = firsts (edits.filterMap Edit.inserted?) := by
  induction edits using List.reverseRecOn with
  | nil => rfl
  | append_singleton edits e ih =>
    rw [ofEdits_concat, List.filterMap_append]
    cases e with
    | insert id e unlinked =>
      show ((ofEdits edits).insert id e).entities.keys =
        firsts (edits.filterMap Edit.inserted? ++ [id])
      rw [Model.insert, OrderedMap.keys_insert, firsts_concat, ih]
      simp only [mem_firsts]
    | link relation source target =>
      show _ = firsts (edits.filterMap Edit.inserted? ++ [])
      rw [keys_edit_link, List.append_nil, ih]

/-- Every link of an edited model leads to an entity. -/
theorem linksClosed_ofEdits (edits : List Edit) : (ofEdits edits).LinksClosed := by
  induction edits using List.reverseRecOn with
  | nil => exact fun _ _ hget => nomatch hget
  | append_singleton edits e ih =>
    rw [ofEdits_concat]
    cases e with
    | insert id e unlinked => exact ih.insert_unlinked unlinked
    | link relation source target =>
      cases hlink : (ofEdits edits).link? relation source target with
      | none =>
        rw [edit_link_of_none hlink]
        exact ih
      | some m' =>
        rw [edit_link_of_some hlink]
        exact ih.link hlink

/-- Every mutual link of an edited model has its other half, if no id has been inserted twice. -/
theorem linksPaired_ofEdits {edits : List Edit} (once : (edits.filterMap Edit.inserted?).Nodup) :
    (ofEdits edits).LinksPaired := by
  induction edits using List.reverseRecOn with
  | nil => exact fun _ _ _ => rfl
  | append_singleton edits e ih =>
    rw [List.filterMap_append] at once
    have hpaired := ih (List.nodup_append.1 once).1
    rw [ofEdits_concat]
    cases e with
    | insert id e unlinked =>
      have hnew : id ∉ edits.filterMap Edit.inserted? := fun hmem =>
        (List.nodup_append.1 once).2.2 id hmem id (List.mem_singleton_self id) rfl
      have fresh : (ofEdits edits).contains id = false := by
        rw [← Bool.not_eq_true, contains, OrderedMap.contains_iff_mem_keys, keys_ofEdits,
          mem_firsts]
        exact hnew
      exact hpaired.insert_unlinked fresh unlinked
    | link relation source target =>
      cases hlink : (ofEdits edits).link? relation source target with
      | none =>
        rw [edit_link_of_none hlink]
        exact hpaired
      | some m' =>
        rw [edit_link_of_some hlink]
        exact hpaired.link hlink

/-- Whatever edits a model was made by, its links lead to its entities, and these stand in the
order in which their cells came first.  Two entities can be related exactly if both are there,
and else nothing changes.  If no cell was used twice, every link of a mutual relation has its
counterpart. -/
theorem ofEdits_invariant (edits : List Edit) :
    (ofEdits edits).LinksClosed ∧
    (ofEdits edits).entities.keys = firsts (edits.filterMap Edit.inserted?) ∧
    (∀ relation source target,
      (((ofEdits edits).edit (.link relation source target)).2 = true ↔
        source ∈ (ofEdits edits).entities.keys ∧ target ∈ (ofEdits edits).entities.keys) ∧
      (((ofEdits edits).edit (.link relation source target)).2 = false →
        ((ofEdits edits).edit (.link relation source target)).1 = ofEdits edits)) ∧
    ((edits.filterMap Edit.inserted?).Nodup → (ofEdits edits).LinksPaired) := by
  refine ⟨linksClosed_ofEdits edits, keys_ofEdits edits, fun relation source target => ?_,
    linksPaired_ofEdits⟩
  constructor
  · rw [snd_edit_link, Bool.and_eq_true_iff, contains, contains,
      OrderedMap.contains_iff_mem_keys, OrderedMap.contains_iff_mem_keys]
  · exact fst_edit_link_of_not

/-- A shelf that holds books and other shelves. -/
def shelfEdits : List Edit :=
  [.insert "s" { name := "Shelf" } rfl, .link .aggregation "s" "b",
   .insert "b" { name := "Book" } rfl, .link .aggregation "s" "b", .link .composition "s" "s"]

/-- A shelf that is linked to a book and to itself has both halves of each link. -/
theorem ofEdits_invariant_shelf :
    (ofEdits shelfEdits).entities.keys = ["s", "b"] ∧ (ofEdits shelfEdits).LinksPaired ∧
      (ofEdits shelfEdits).directedAt .aggregation "b" = [(.incoming, "s")] ∧
      (ofEdits shelfEdits).directedAt .composition "s" = [(.outgoing, "s"), (.incoming, "s")] := by
  obtain ⟨-, hkeys, -, hpaired⟩ := ofEdits_invariant shelfEdits
  exact ⟨hkeys, hpaired (by decide), by decide, by decide⟩

/-- A book in the place of another one does not know the shelf that holds it. -/
example :
    let m := ofEdits (shelfEdits ++ [.insert "b" { name := "Book" } rfl])
    (m.directedAt .aggregation "s").count (.outgoing, "b") = 1 ∧
      (m.directedAt .aggregation "b").count (.incoming, "s") = 0 := by decide

end Model

end ClassDiagram
