import Mathlib.Data.Set.Finite.List
import Mathlib.Logic.Relation
import Mathlib.Order.WellFoundedSet
import ClassDiagram.Model.Interface
import ClassDiagram.Proofs.OrderedMap

/-!
# What the walk over interfaces finds

The walk keeps the entities that it has not visited.  They are the entities of
the model without the visited ones, so the walk is settled by the list of visited
cells (`walkAfter`), and `walk_induction` follows its steps.

*Exactness.*  What a visited entity realises is either visited or still to come,
so at the end the cells that were found are closed under realisation
(`walkAfter_closed`).  They are the entities that can be reached, and each of
them is found once.

*Order.*  The plain walk has no memory: it visits an interface each time it comes
to it (`Unfolds`), and it comes to an end when realisation does not go in a
circle.  When the walk with memory gets to a visited entity, all that can be
reached from there is visited too, since otherwise the entity would be one of its
own interfaces.  So it passes over what the plain walk has shown before, and
nothing else (`walkAfter_eq_firsts`).
-/

namespace ClassDiagram.Model

variable {m : Model} {visited ids : List String} {id : String} {e : Entity}

/-- The entity at one cell realises the one at another. -/
def Realises (m : Model) (a b : String) : Prop := ∃ e, m.get? a = some e ∧ b ∈ e.links.interfaces

/-- Following realisation from the cells of a list leads to a cell. -/
def Reaches (m : Model) (ids : List String) (id : String) : Prop :=
  ∃ start ∈ ids, Relation.ReflTransGen m.Realises start id

/-- Nothing that is reached from the cells of a list realises itself, also not through others. -/
def AcyclicFrom (m : Model) (ids : List String) : Prop :=
  ∀ id, m.Reaches ids id → ¬ Relation.TransGen m.Realises id id

/-- The plain walk from the cells of a list: each entity, followed at once by the walk from
the cells that it realises, as often as the walk gets there. -/
inductive Unfolds (m : Model) : List String → List String → Prop
  | nil : Unfolds m [] []
  | absent {id : String} {ids walk : List String} (habsent : m.get? id = none)
      (hrest : Unfolds m ids walk) : Unfolds m (id :: ids) walk
  | entity {id : String} {ids inner rest : List String} {e : Entity} (hget : m.get? id = some e)
      (hinner : Unfolds m e.links.interfaces inner) (hrest : Unfolds m ids rest) :
      Unfolds m (id :: ids) (id :: (inner ++ rest))

/-- The cells of the interfaces from the cells of a list on, in the order of the walk. -/
def interfaceIds (m : Model) (ids : List String) : List String :=
  (m.interfacesFrom ids).map (·.1)

/-- The methods of the entity at a cell. -/
def methodsAt (m : Model) (id : String) : List Method :=
  ((m.get? id).map Entity.methodList).getD []

/-! ## The walk by its visited cells -/

/-- The entities at other cells than the visited ones. -/
def unvisited (m : Model) (visited : List String) : List (String × Entity) :=
  m.toList.filter fun p => p.1 ∉ visited

/-- The walk from the cells of a list when some cells have been visited. -/
def walkAfter (m : Model) (visited ids : List String) : List (String × Entity) :=
  interfaceWalk (m.unvisited visited) ids

/-- The cells that the walk finds when some cells have been visited. -/
def foundAfter (m : Model) (visited ids : List String) : List String :=
  (m.walkAfter visited ids).map (·.1)

theorem mem_unvisited {p : String × Entity} :
    p ∈ m.unvisited visited ↔ m.get? p.1 = some p.2 ∧ p.1 ∉ visited := by
  rw [unvisited, List.mem_filter, decide_eq_true_eq]
  exact and_congr_left' (OrderedMap.mem_toList_iff m.entities p.1 p.2)

/-- Taking an entity out of the unvisited ones is visiting it. -/
theorem exceptAt_unvisited (m : Model) (visited : List String) (id : String) :
    exceptAt id (m.unvisited visited) = m.unvisited (id :: visited) := by
  rw [exceptAt, unvisited, unvisited, List.filter_filter]
  refine List.filter_congr fun p _ => ?_
  by_cases h : p.1 = id <;> simp [h]

theorem find?_unvisited_eq_none :
    (m.unvisited visited).find? (·.1 == id) = none ↔ id ∈ visited ∨ m.get? id = none := by
  rw [List.find?_eq_none]
  constructor
  · intro h
    by_cases hid : id ∈ visited
    · exact Or.inl hid
    · refine Or.inr (Option.eq_none_iff_forall_ne_some.2 fun e he => ?_)
      exact h (id, e) (mem_unvisited.2 ⟨he, hid⟩) (beq_self_eq_true id)
  · rintro h p hp hkey
    obtain ⟨hget, hvisited⟩ := mem_unvisited.1 hp
    rw [eq_of_beq hkey] at hget hvisited
    cases h with
    | inl hid => exact hvisited hid
    | inr hnone =>
      rw [hnone] at hget
      cases hget

theorem find?_unvisited_eq_some {p : String × Entity}
    (h : (m.unvisited visited).find? (·.1 == id) = some p) :
    id ∉ visited ∧ p.1 = id ∧ m.get? id = some p.2 := by
  have hid : p.1 = id := by simpa using List.find?_some h
  obtain ⟨hget, hvisited⟩ := mem_unvisited.1 (List.mem_of_find?_eq_some h)
  exact ⟨hid ▸ hvisited, hid, hid ▸ hget⟩

/-- The walk passes over a cell or visits it.  A property that holds when nothing is left,
and that both steps keep, holds of every walk. -/
theorem walk_induction {P : List String → List String → Prop}
    (nil : ∀ visited, P visited [])
    (skip : ∀ visited id ids, id ∈ visited ∨ m.get? id = none → P visited ids →
      P visited (id :: ids))
    (visit : ∀ visited id ids e, id ∉ visited → m.get? id = some e →
      P (id :: visited) (e.links.interfaces ++ ids) → P visited (id :: ids))
    (visited ids : List String) : P visited ids := by
  generalize hremaining : m.unvisited visited = remaining
  induction remaining, ids using interfaceWalk.induct generalizing visited with
  | case1 remaining => exact nil visited
  | case2 remaining id ids hfind ih =>
    subst hremaining
    exact skip visited id ids (find?_unvisited_eq_none.1 hfind) (ih visited rfl)
  | case3 remaining id ids p hfind ih =>
    subst hremaining
    obtain ⟨hid, -, hget⟩ := find?_unvisited_eq_some hfind
    exact visit visited id ids p.2 hid hget (ih _ (exceptAt_unvisited m visited id).symm)

@[simp] theorem walkAfter_nil (m : Model) (visited : List String) :
    m.walkAfter visited [] = [] := by
  rw [walkAfter, interfaceWalk]

theorem walkAfter_skip (h : id ∈ visited ∨ m.get? id = none) (ids : List String) :
    m.walkAfter visited (id :: ids) = m.walkAfter visited ids := by
  rw [walkAfter, interfaceWalk]
  split
  next => rfl
  next p hfind =>
    rw [find?_unvisited_eq_none.2 h] at hfind
    cases hfind

/-- The walk visits a new entity, and what it realises before the ids that follow. -/
theorem walkAfter_visit (hid : id ∉ visited) (hget : m.get? id = some e) (ids : List String) :
    m.walkAfter visited (id :: ids)
      = (id, e) :: m.walkAfter (id :: visited) (e.links.interfaces ++ ids) := by
  rw [walkAfter, interfaceWalk]
  split
  next hfind =>
    cases find?_unvisited_eq_none.1 hfind with
    | inl hvisited => exact absurd hvisited hid
    | inr hnone =>
      rw [hget] at hnone
      cases hnone
  next p hfind =>
    obtain ⟨-, hp, hget'⟩ := find?_unvisited_eq_some hfind
    have he : p = (id, e) := Prod.ext hp (Option.some.inj (hget'.symm.trans hget))
    subst he
    rw [exceptAt_unvisited]
    rfl

/-- Only which cells were visited counts, and not in which order. -/
theorem walkAfter_congr {visited' : List String} (h : ∀ id, id ∈ visited ↔ id ∈ visited')
    (ids : List String) : m.walkAfter visited ids = m.walkAfter visited' ids := by
  have hunvisited : m.unvisited visited = m.unvisited visited' :=
    List.filter_congr fun p _ => by simp only [h]
  rw [walkAfter, walkAfter, hunvisited]

/-- The walk from two lists of cells is the walk from the one and then from the other. -/
theorem walkAfter_append (m : Model) (visited ids others : List String) :
    m.walkAfter visited (ids ++ others) = m.walkAfter visited ids
      ++ m.walkAfter (m.foundAfter visited ids ++ visited) others := by
  refine walk_induction (m := m) (P := fun visited ids =>
    m.walkAfter visited (ids ++ others) = m.walkAfter visited ids
      ++ m.walkAfter (m.foundAfter visited ids ++ visited) others) ?_ ?_ ?_ visited ids
  · intro visited
    rw [foundAfter, walkAfter_nil]
    rfl
  · intro visited id ids h ih
    rw [List.cons_append, foundAfter, walkAfter_skip h, walkAfter_skip h]
    exact ih
  · intro visited id ids e hid hget ih
    rw [List.cons_append, foundAfter, walkAfter_visit hid hget, walkAfter_visit hid hget,
      ← List.append_assoc, ih, List.cons_append]
    have hvisited : ∀ x,
        x ∈ m.foundAfter (id :: visited) (e.links.interfaces ++ ids) ++ id :: visited ↔
          x ∈ ((id, e) :: m.walkAfter (id :: visited) (e.links.interfaces ++ ids)).map (·.1)
            ++ visited := by
      intro x
      simp only [foundAfter, List.map_cons, List.cons_append, List.mem_append, List.mem_cons,
        or_left_comm]
    rw [walkAfter_congr hvisited]

/-! ## Exactness -/

/-- What a list of ids reaches is reached from the first or from the others. -/
theorem Reaches.cons_iff {x : String} :
    m.Reaches (id :: ids) x ↔ Relation.ReflTransGen m.Realises id x ∨ m.Reaches ids x := by
  rw [Reaches, List.exists_mem_cons_iff]
  rfl

theorem Reaches.append_iff {others : List String} {x : String} :
    m.Reaches (ids ++ others) x ↔ m.Reaches ids x ∨ m.Reaches others x := by
  simp only [Reaches, List.mem_append, or_and_right, exists_or]

theorem Reaches.tail {a b : String} (h : m.Reaches ids a) (hab : m.Realises a b) :
    m.Reaches ids b := by
  obtain ⟨start, hstart, hpath⟩ := h
  exact ⟨start, hstart, hpath.tail hab⟩

/-- What is reached from the cells that an entity realises is reached from the entity, by
at least one step. -/
theorem Reaches.transGen (hget : m.get? id = some e) {x : String}
    (h : m.Reaches e.links.interfaces x) : Relation.TransGen m.Realises id x := by
  obtain ⟨start, hstart, hpath⟩ := h
  exact Relation.TransGen.head' ⟨e, hget, hstart⟩ hpath

theorem contains_of_get? (hget : m.get? id = some e) : m.contains id = true := by
  rw [contains, OrderedMap.contains, ← get?, hget]
  rfl

theorem get?_of_contains (h : m.contains id = true) : ∃ e, m.get? id = some e :=
  Option.isSome_iff_exists.1 h

/-- What the walk finds is an entity that was not visited and that can be reached. -/
theorem of_mem_walkAfter {p : String × Entity} (h : p ∈ m.walkAfter visited ids) :
    m.get? p.1 = some p.2 ∧ p.1 ∉ visited ∧ m.Reaches ids p.1 := by
  revert h
  refine walk_induction (m := m) (P := fun visited ids => p ∈ m.walkAfter visited ids →
    m.get? p.1 = some p.2 ∧ p.1 ∉ visited ∧ m.Reaches ids p.1) ?_ ?_ ?_ visited ids
  · intro visited h
    rw [walkAfter_nil] at h
    cases h
  · intro visited id ids hskip ih h
    rw [walkAfter_skip hskip] at h
    obtain ⟨hget, hvisited, hreach⟩ := ih h
    exact ⟨hget, hvisited, Reaches.cons_iff.2 (Or.inr hreach)⟩
  · intro visited id ids e hid hget ih h
    rw [walkAfter_visit hid hget, List.mem_cons] at h
    cases h with
    | inl hp =>
      subst hp
      exact ⟨hget, hid, Reaches.cons_iff.2 (Or.inl .refl)⟩
    | inr hp =>
      obtain ⟨hget', hvisited, hreach⟩ := ih hp
      refine ⟨hget', fun hmem => hvisited (List.mem_cons_of_mem _ hmem), Reaches.cons_iff.2 ?_⟩
      cases Reaches.append_iff.1 hreach with
      | inl hinner => exact Or.inl (hinner.transGen hget).to_reflTransGen
      | inr hrest => exact Or.inr hrest

/-- The walk visits no entity twice. -/
theorem nodup_foundAfter (m : Model) (visited ids : List String) :
    (m.foundAfter visited ids).Nodup := by
  refine walk_induction (m := m) (P := fun visited ids => (m.foundAfter visited ids).Nodup)
    ?_ ?_ ?_ visited ids
  · intro visited
    rw [foundAfter, walkAfter_nil]
    exact List.nodup_nil
  · intro visited id ids hskip ih
    rw [foundAfter, walkAfter_skip hskip]
    exact ih
  · intro visited id ids e hid hget ih
    rw [foundAfter, walkAfter_visit hid hget, List.map_cons, List.nodup_cons]
    refine ⟨fun hmem => ?_, ih⟩
    obtain ⟨p, hp, hpid⟩ := List.mem_map.1 hmem
    exact (of_mem_walkAfter hp).2.1 (hpid ▸ List.mem_cons_self)

/-- The entities at the given cells, and all that the found ones realise, are visited in
the end. -/
theorem walkAfter_closed (m : Model) (visited ids : List String) :
    (∀ a ∈ ids, m.contains a = true → a ∈ m.foundAfter visited ids ++ visited) ∧
      ∀ a ∈ m.foundAfter visited ids, ∀ b, m.Realises a b → m.contains b = true →
        b ∈ m.foundAfter visited ids ++ visited := by
  refine walk_induction (m := m) (P := fun visited ids =>
    (∀ a ∈ ids, m.contains a = true → a ∈ m.foundAfter visited ids ++ visited) ∧
      ∀ a ∈ m.foundAfter visited ids, ∀ b, m.Realises a b → m.contains b = true →
        b ∈ m.foundAfter visited ids ++ visited) ?_ ?_ ?_ visited ids
  · intro visited
    rw [foundAfter, walkAfter_nil]
    exact ⟨nofun, nofun⟩
  · intro visited id ids hskip ih
    rw [foundAfter, walkAfter_skip hskip]
    refine ⟨fun a ha hcontains => ?_, ih.2⟩
    cases List.mem_cons.1 ha with
    | inr hrest => exact ih.1 a hrest hcontains
    | inl he =>
      subst he
      cases hskip with
      | inl hvisited => exact List.mem_append_right _ hvisited
      | inr hnone =>
        obtain ⟨e, he⟩ := get?_of_contains hcontains
        rw [hnone] at he
        cases he
  · intro visited id ids e hid hget ih
    have hfound : ∀ x, x ∈ m.foundAfter (id :: visited) (e.links.interfaces ++ ids) ++ id :: visited
        → x ∈ m.foundAfter visited (id :: ids) ++ visited := by
      intro x hx
      rw [foundAfter, walkAfter_visit hid hget]
      simpa [foundAfter, or_left_comm] using hx
    refine ⟨fun a ha hcontains => hfound a ?_, fun a ha b hab hcontains => hfound b ?_⟩
    · cases List.mem_cons.1 ha with
      | inl he =>
        rw [he]
        exact List.mem_append_right _ List.mem_cons_self
      | inr hrest => exact ih.1 a (List.mem_append_right _ hrest) hcontains
    · rw [foundAfter, walkAfter_visit hid hget, List.map_cons, List.mem_cons] at ha
      cases ha with
      | inr hrest => exact ih.2 a hrest b hab hcontains
      | inl he =>
        rw [he] at hab
        obtain ⟨e', hget', hb⟩ := hab
        rw [Option.some.inj (hget.symm.trans hget')] at ih ⊢
        exact ih.1 b (List.mem_append_left _ hb) hcontains

/-- The search for interfaces is the walk with nothing visited before. -/
theorem interfacesFrom_eq_walkAfter (m : Model) (ids : List String) :
    m.interfacesFrom ids = m.walkAfter [] ids := by
  have hunvisited : m.unvisited [] = m.toList := by simp [unvisited]
  rw [interfacesFrom, walkAfter, hunvisited]

theorem interfaceIds_eq_foundAfter (m : Model) (ids : List String) :
    m.interfaceIds ids = m.foundAfter [] ids := by
  rw [interfaceIds, interfacesFrom_eq_walkAfter, foundAfter]

/-- The interfaces found are the entities that can be reached. Only an entity realises anything, so
that a path runs through entities up to its end. -/
theorem mem_interfaceIds : id ∈ m.interfaceIds ids ↔ m.contains id = true ∧ m.Reaches ids id := by
  rw [interfaceIds_eq_foundAfter]
  constructor
  · intro h
    obtain ⟨p, hp, rfl⟩ := List.mem_map.1 h
    obtain ⟨hget, -, hreach⟩ := of_mem_walkAfter hp
    exact ⟨contains_of_get? hget, hreach⟩
  · rintro ⟨hcontains, start, hstart, hpath⟩
    have hclosed := walkAfter_closed m [] ids
    simp only [List.append_nil] at hclosed
    induction hpath with
    | refl => exact hclosed.1 start hstart hcontains
    | tail _ hlast ih =>
      have hsource : m.contains _ = true := contains_of_get? hlast.choose_spec.1
      exact hclosed.2 _ (ih hsource) _ hlast hcontains

/-- The methods demanded are those of the interfaces found, one interface after the other. -/
theorem demanded_eq_flatMap (m : Model) (ids : List String) :
    m.demanded ids = (m.interfaceIds ids).flatMap m.methodsAt := by
  rw [demanded, interfaceIds, List.flatMap_map, List.flatMap, List.flatMap]
  refine congrArg List.flatten (List.map_congr_left fun p hp => ?_)
  have hwalk : p ∈ m.walkAfter [] ids := by
    have hunvisited : m.unvisited [] = m.toList := by simp [unvisited]
    rw [walkAfter, hunvisited]
    exact hp
  rw [methodsAt, (of_mem_walkAfter hwalk).1]
  rfl

/-! ## The plain walk -/

/-- There is only one plain walk over a list of ids. -/
theorem Unfolds.unique {walk walk' : List String} (h : m.Unfolds ids walk)
    (h' : m.Unfolds ids walk') : walk' = walk := by
  induction h generalizing walk' with
  | nil =>
    cases h'
    rfl
  | absent habsent _ ih =>
    cases h' with
    | absent _ hrest => exact ih hrest
    | entity hget _ _ =>
      rw [habsent] at hget
      cases hget
  | entity hget _ _ ihinner ihrest =>
    cases h' with
    | absent habsent _ =>
      rw [habsent] at hget
      cases hget
    | entity hget' hinner hrest =>
      cases Option.some.inj (hget.symm.trans hget')
      rw [ihinner hinner, ihrest hrest]

/-- The plain walk shows entities that can be reached, and no others. -/
theorem Unfolds.of_mem {walk : List String} (h : m.Unfolds ids walk) :
    ∀ x ∈ walk, m.contains x = true ∧ m.Reaches ids x := by
  induction h with
  | nil => nofun
  | absent _ _ ih =>
    intro x hx
    exact ⟨(ih x hx).1, Reaches.cons_iff.2 (Or.inr (ih x hx).2)⟩
  | entity hget _ _ ihinner ihrest =>
    intro x hx
    rw [List.mem_cons, List.mem_append] at hx
    rcases hx with rfl | hx | hx
    · exact ⟨contains_of_get? hget, Reaches.cons_iff.2 (Or.inl .refl)⟩
    · obtain ⟨hcontains, hreach⟩ := ihinner x hx
      exact ⟨hcontains, Reaches.cons_iff.2 (Or.inl (hreach.transGen hget).to_reflTransGen)⟩
    · exact ⟨(ihrest x hx).1, Reaches.cons_iff.2 (Or.inr (ihrest x hx).2)⟩

theorem exists_unfolds_of_forall
    (h : ∀ id ∈ ids, ∀ e, m.get? id = some e → ∃ inner, m.Unfolds e.links.interfaces inner) :
    ∃ walk, m.Unfolds ids walk := by
  induction ids with
  | nil => exact ⟨[], .nil⟩
  | cons id ids ih =>
    obtain ⟨hid, hids⟩ := List.forall_mem_cons.1 h
    obtain ⟨rest, hrest⟩ := ih hids
    cases hget : m.get? id with
    | none => exact ⟨rest, .absent hget hrest⟩
    | some e =>
      obtain ⟨inner, hinner⟩ := hid e hget
      exact ⟨id :: (inner ++ rest), .entity hget hinner hrest⟩

/-- The plain walk comes to an end when realisation does not go in a circle, for what is reached is
then ordered by realisation and there are only finitely many entities. -/
theorem exists_unfolds (acyclic : m.AcyclicFrom ids) : ∃ walk, m.Unfolds ids walk := by
  let below (a b : String) : Prop := Relation.TransGen m.Realises b a ∧ m.Reaches ids b
  have hirrefl : Std.Irrefl below := ⟨fun a h => acyclic a h.2 h.1⟩
  have htrans : IsTrans String below := ⟨fun _ _ _ hab hbc => ⟨hbc.1.trans hab.1, hbc.2⟩⟩
  have horder : IsStrictOrder String below := {}
  have hwf : {id | id ∈ m.entities.keys}.WellFoundedOn below :=
    (List.finite_toSet m.entities.keys).wellFoundedOn
  have hkey : ∀ id e, m.get? id = some e → id ∈ m.entities.keys := fun _ _ hget =>
    OrderedMap.mem_keys_of_get? hget
  have hinner : ∀ id ∈ m.entities.keys, m.Reaches ids id → ∀ e, m.get? id = some e →
      ∃ inner, m.Unfolds e.links.interfaces inner := by
    intro id hid
    refine hwf.induction (P := fun id => m.Reaches ids id → ∀ e, m.get? id = some e →
      ∃ inner, m.Unfolds e.links.interfaces inner) hid fun id _ ih hreach e hget => ?_
    refine exists_unfolds_of_forall fun child hchild e' hget' => ?_
    have hstep : m.Realises id child := ⟨e, hget, hchild⟩
    exact ih child (hkey child e' hget') ⟨.single hstep, hreach⟩ (hreach.tail hstep) e' hget'
  exact exists_unfolds_of_forall fun id hid e hget =>
    hinner id (hkey id e hget) ⟨id, hid, .refl⟩ e hget

/-! ## The order of the walk -/

/-- The visited cells that can be reached from a list realise nothing but visited cells. -/
def ClosedFrom (m : Model) (visited ids : List String) : Prop :=
  ∀ a ∈ visited, m.Reaches ids a → ∀ b, m.Realises a b → m.contains b = true → b ∈ visited

/-- All entities on a path from a visited id have been visited. -/
theorem ClosedFrom.mem_of_path (closed : m.ClosedFrom visited (id :: ids)) (hid : id ∈ visited)
    {x : String} (hpath : Relation.ReflTransGen m.Realises id x) (hcontains : m.contains x = true) :
    x ∈ visited := by
  induction hpath with
  | refl => exact hid
  | tail hbefore hlast ih =>
    have hsource := ih (contains_of_get? hlast.choose_spec.1)
    exact closed _ hsource (Reaches.cons_iff.2 (Or.inl hbefore)) _ hlast hcontains

/-- The walk shows what the plain walk shows, where it comes first and was not visited
before. -/
theorem walkAfter_eq_firsts {walk : List String} (h : m.Unfolds ids walk)
    (acyclic : m.AcyclicFrom ids) (closed : m.ClosedFrom visited ids) :
    m.foundAfter visited ids = firstsByFrom (fun id => id) visited walk := by
  induction h generalizing visited with
  | nil =>
    rw [foundAfter, walkAfter_nil]
    rfl
  | absent habsent _ ih =>
    rw [foundAfter, walkAfter_skip (Or.inr habsent)]
    exact ih (fun x hx => acyclic x (Reaches.cons_iff.2 (Or.inr hx)))
      fun a ha hreach => closed a ha (Reaches.cons_iff.2 (Or.inr hreach))
  | @entity id ids inner rest e hget hinner hrest ihinner ihrest =>
    have hrestAcyclic : m.AcyclicFrom ids := fun x hx =>
      acyclic x (Reaches.cons_iff.2 (Or.inr hx))
    have hrestClosed : m.ClosedFrom visited ids := fun a ha hreach =>
      closed a ha (Reaches.cons_iff.2 (Or.inr hreach))
    have hinnerReach : ∀ x, m.Reaches e.links.interfaces x → m.Reaches (id :: ids) x := fun x hx =>
      Reaches.cons_iff.2 (Or.inl (hx.transGen hget).to_reflTransGen)
    by_cases hid : id ∈ visited
    · -- All that the plain walk shows below the entity was visited with it.
      have hseen : ∀ x ∈ id :: inner, x ∈ visited := by
        intro x hx
        cases List.mem_cons.1 hx with
        | inl he => exact he ▸ hid
        | inr hx =>
          obtain ⟨hcontains, hreach⟩ := hinner.of_mem x hx
          exact closed.mem_of_path hid (hreach.transGen hget).to_reflTransGen hcontains
      rw [foundAfter, walkAfter_skip (Or.inl hid), ← List.cons_append,
        firstsByFrom_append_of_seen hseen]
      exact ihrest hrestAcyclic hrestClosed
    · have hinnerClosed : m.ClosedFrom (id :: visited) e.links.interfaces := by
        intro a ha hreach b hab hcontains
        cases List.mem_cons.1 ha with
        | inl he =>
          rw [he] at hreach
          exact absurd (hreach.transGen hget) (acyclic id (Reaches.cons_iff.2 (Or.inl .refl)))
        | inr hvisited =>
          exact List.mem_cons_of_mem _ (closed a hvisited (hinnerReach a hreach) b hab hcontains)
      have hafter := walkAfter_closed m (id :: visited) e.links.interfaces
      have hafterClosed : m.ClosedFrom
          (m.foundAfter (id :: visited) e.links.interfaces ++ id :: visited) ids := by
        intro a ha hreach b hab hcontains
        rw [List.mem_append, List.mem_cons] at ha
        rcases ha with hfound | rfl | hvisited
        · exact hafter.2 a hfound b hab hcontains
        · obtain ⟨e', hget', hb⟩ := hab
          rw [Option.some.inj (hget'.symm.trans hget)] at hb
          exact hafter.1 b hb hcontains
        · have hb := hrestClosed a hvisited hreach b hab hcontains
          exact List.mem_append_right _ (List.mem_cons_of_mem _ hb)
      have hfoundInner := ihinner (fun x hx => acyclic x (hinnerReach x hx)) hinnerClosed
      have hfoundRest := ihrest hrestAcyclic hafterClosed
      rw [foundAfter, walkAfter_visit hid hget, walkAfter_append, List.map_cons, List.map_append,
        firstsByFrom, if_neg hid, firstsByFrom_append, List.map_id', ← hfoundInner, ← hfoundRest]
      rfl

/-! ## What interfaces demand -/

/-- What the interfaces of a list demand is the methods of some cells, one after the other.
No cell comes twice, and the cells are those of the entities that realisation leads to.
When it does not go in a circle, they stand in the order in which the plain walk first gets
to them. -/
theorem demanded_reached (m : Model) (ids : List String) :
    m.demanded ids = (m.interfaceIds ids).flatMap m.methodsAt ∧
      (m.interfaceIds ids).Nodup ∧
      (∀ id, id ∈ m.interfaceIds ids ↔ m.contains id = true ∧ m.Reaches ids id) ∧
      (m.AcyclicFrom ids → ∃ walk, (∀ other, m.Unfolds ids other ↔ other = walk) ∧
        m.interfaceIds ids = firsts walk) := by
  refine ⟨demanded_eq_flatMap m ids, ?_, fun _ => mem_interfaceIds, fun acyclic => ?_⟩
  · rw [interfaceIds_eq_foundAfter]
    exact nodup_foundAfter m [] ids
  · obtain ⟨walk, hwalk⟩ := exists_unfolds acyclic
    have hclosed : m.ClosedFrom [] ids := nofun
    have hfound := walkAfter_eq_firsts hwalk acyclic hclosed
    refine ⟨walk, fun other => ⟨hwalk.unique, fun h => h ▸ hwalk⟩, ?_⟩
    rw [interfaceIds_eq_foundAfter, hfound]
    rfl

/-- Realisation that always leads to a lower rank does not go in a circle. -/
theorem acyclicFrom_of_rank (rank : String → Nat)
    (h : ∀ p ∈ m.toList, ∀ b ∈ p.2.links.interfaces, rank b < rank p.1) (ids : List String) :
    m.AcyclicFrom ids := by
  have hstep : ∀ a b, m.Realises a b → rank b < rank a := by
    rintro a b ⟨e, hget, hb⟩
    exact h (a, e) ((OrderedMap.mem_toList_iff m.entities a e).2 hget) b hb
  have hpath : ∀ a b, Relation.TransGen m.Realises a b → rank b < rank a := by
    intro a b hab
    induction hab with
    | single hlast => exact hstep _ _ hlast
    | tail _ hlast ih => exact Nat.lt_trans (hstep _ _ hlast) ih
  intro id _ hcircle
  exact Nat.lt_irrefl _ (hpath id id hcircle)

/-- Two interfaces that realise the same third one, which realises a fourth. -/
def diamond : Model :=
  let realising (name : String) (interfaces : List String) : Entity :=
    { kind := .interface, name, links := { interfaces } }
  ⟨.ofList [("a", realising "A" ["c"]), ("b", realising "B" ["c", "gone"]),
    ("c", realising "C" ["d"]), ("d", realising "D" [])]⟩

/-- An interface at the bottom of a diamond is found once, below the first that realises it. -/
theorem demanded_reached_diamond :
    diamond.AcyclicFrom ["a", "b"] ∧ diamond.interfaceIds ["a", "b"] = ["a", "c", "d", "b"] := by
  have acyclic : diamond.AcyclicFrom ["a", "b"] :=
    acyclicFrom_of_rank (fun id => if id = "d" ∨ id = "gone" then 0 else if id = "c" then 1 else 2)
      (by decide) _
  have hd : diamond.Unfolds ["d"] ["d"] := @Unfolds.entity diamond "d" [] [] [] _ rfl .nil .nil
  have hc : diamond.Unfolds ["c"] ["c", "d"] :=
    @Unfolds.entity diamond "c" [] ["d"] [] _ rfl hd .nil
  have hc' : diamond.Unfolds ["c", "gone"] ["c", "d"] :=
    @Unfolds.entity diamond "c" ["gone"] ["d"] [] _ rfl hd (.absent rfl .nil)
  have hb : diamond.Unfolds ["b"] ["b", "c", "d"] :=
    @Unfolds.entity diamond "b" [] ["c", "d"] [] _ rfl hc' .nil
  have hwalk : diamond.Unfolds ["a", "b"] ["a", "c", "d", "b", "c", "d"] :=
    @Unfolds.entity diamond "a" ["b"] ["c", "d"] ["b", "c", "d"] _ rfl hc hb
  obtain ⟨walk, hunique, hfound⟩ := (demanded_reached diamond ["a", "b"]).2.2.2 acyclic
  refine ⟨acyclic, ?_⟩
  rw [hfound, ← (hunique _).1 hwalk]
  decide

end ClassDiagram.Model
