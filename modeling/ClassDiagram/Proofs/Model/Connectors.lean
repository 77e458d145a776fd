import ClassDiagram.Proofs.Model.Link
import ClassDiagram.Proofs.Recognition.Opening

/-!
# What the connectors of a drawing mean

A connector is *effective* in a model when its style stands for a relation and
both of its ends are entities.  `Model.linksFrom` collects the links that
connectors leave at one entity: the targets of the effective generalizations and
realizations that start there, and for a mutual relation both ends of each
effective connector that touches it, in the order of the drawing.

Recognition adds these links one connector at a time.  `connected_foldl` says
that a whole pass leaves exactly them, and that it counts every connector once.
-/

namespace ClassDiagram

/-! ## The links that connectors leave -/

/-- The entity without its links. -/
def Entity.unlinked (e : Entity) : Entity := { e with links := {} }

theorem Entity.unlinked_of_links {e : Entity} (h : e.links = {}) : e.unlinked = e := by
  rw [unlinked, ← h]

namespace Connector

/-- The connector stands for a relation between two entities of a model. -/
def isEffective (m : Model) (c : Connector) : Bool :=
  c.style.relation?.isSome && (m.contains c.source && m.contains c.target)

/-- The ends of the connector at an entity, each with the entity at the other end. -/
def endsAt (id : String) (c : Connector) : List (Direction × String) :=
  (if id = c.source then [(.outgoing, c.target)] else []) ++
    if id = c.target then [(.incoming, c.source)] else []

end Connector

namespace Model

/-- The effective connectors of a relation. -/
def effective (m : Model) (cs : List Connector) (relation : Relation) : List Connector :=
  cs.filter fun c => c.isEffective m && c.style.relation? == some relation

/-- The targets of the effective connectors of a relation that start at an entity. -/
def targetsFrom (m : Model) (cs : List Connector) (relation : Relation) (id : String) :
    List String :=
  ((m.effective cs relation).filter fun c => id = c.source).map (·.target)

/-- The ends of the effective connectors of a relation at an entity. -/
def endsAt (m : Model) (cs : List Connector) (relation : Relation) (id : String) :
    List (Direction × String) :=
  (m.effective cs relation).flatMap (·.endsAt id)

/-- The links that connectors leave at an entity. -/
def linksFrom (m : Model) (cs : List Connector) (id : String) : Links where
  bases := m.targetsFrom cs .generalization id
  interfaces := m.targetsFrom cs .realization id
  associations := m.endsAt cs .association id
  aggregations := m.endsAt cs .aggregation id
  compositions := m.endsAt cs .composition id

/-! ## One more connector -/

variable {m n : Model} {c : Connector} {relation : Relation}

theorem isEffective_eq_false (hrelation : c.style.relation? = none) : c.isEffective m = false := by
  rw [Connector.isEffective, hrelation]
  rfl

/-- A connector of a relation has an effect when there is an entity at both of its ends. -/
theorem isEffective_iff (hrelation : c.style.relation? = some relation) :
    c.isEffective m = (m.contains c.source && m.contains c.target) := by
  rw [Connector.isEffective, hrelation]
  rfl

/-- A further connector comes last among the effective ones, if it has an effect. -/
theorem effective_concat (cs : List Connector) (relation : Relation) :
    m.effective (cs ++ [c]) relation = m.effective cs relation ++
      if c.isEffective m && c.style.relation? == some relation then [c] else [] := by
  rw [effective, List.filter_append, List.filter_singleton]
  cases (c.isEffective m && c.style.relation? == some relation) <;> rfl

/-- A connector that is not effective leaves no link. -/
theorem linksFrom_concat_of_not_effective (h : c.isEffective m = false) (cs : List Connector)
    (id : String) : m.linksFrom (cs ++ [c]) id = m.linksFrom cs id := by
  have hsame (relation : Relation) : m.effective (cs ++ [c]) relation = m.effective cs relation := by
    rw [effective_concat, h]
    exact List.append_nil _
  simp only [linksFrom, targetsFrom, endsAt, hsame]

/-- An effective connector leaves the links of its relation. -/
theorem linksFrom_concat_of_effective (h : c.isEffective m = true)
    (hrelation : c.style.relation? = some relation) (cs : List Connector) (id : String) :
    m.linksFrom (cs ++ [c]) id
      = (m.linksFrom cs id).record relation c.source c.target id := by
  have htargets (other : Relation) : m.targetsFrom (cs ++ [c]) other id
      = m.targetsFrom cs other id ++
        if relation = other ∧ id = c.source then [c.target] else [] := by
    rw [targetsFrom, effective_concat, h, hrelation, List.filter_append, List.map_append]
    by_cases ho : relation = other <;> by_cases hs : id = c.source <;>
      simp [ho, hs, targetsFrom]
  have hends (other : Relation) : m.endsAt (cs ++ [c]) other id
      = m.endsAt cs other id ++ if relation = other then c.endsAt id else [] := by
    rw [endsAt, effective_concat, h, hrelation, List.flatMap_append]
    by_cases ho : relation = other <;> simp [ho, endsAt]
  simp only [linksFrom, htargets, hends, Connector.endsAt, Links.record]
  obtain ⟨source, target, style⟩ := c
  by_cases hs : id = source
  · subst hs
    by_cases ht : id = target
    · subst ht
      cases relation <;> simp [Links.add, Relation.isMutual]
    · cases relation <;> simp [ht, Links.add, Relation.isMutual]
  · by_cases ht : id = target
    · subst ht
      cases relation <;> simp [hs, Links.add, Relation.isMutual]
    · cases relation <;> simp [hs, ht]

/-! ## All connectors -/

theorem isEffective_congr (keys : m.entities.keys = n.entities.keys) (c : Connector) :
    c.isEffective m = c.isEffective n := by
  rw [Connector.isEffective, Connector.isEffective, contains_congr keys, contains_congr keys]

/-- The links that connectors give depend on the keys of the model alone. -/
theorem linksFrom_congr (keys : m.entities.keys = n.entities.keys) (cs : List Connector)
    (id : String) : m.linksFrom cs id = n.linksFrom cs id := by
  simp only [linksFrom, targetsFrom, endsAt, effective, isEffective_congr keys]

/-- What some connectors make of a model without links and of a summary. -/
structure Connected (m : Model) (s : BuildSummary) (cs : List Connector)
    (state : Model × BuildSummary) : Prop where
  keys : state.1.entities.keys = m.entities.keys
  entities : ∀ id, state.1.get? id = (m.get? id).map fun e => { e with links := m.linksFrom cs id }
  summary : state.2 = { s with
    linked := s.linked + cs.countP (·.isEffective m)
    ignored := s.ignored + cs.countP (·.style.relation?.isNone)
    skipped := s.skipped + cs.countP fun c => c.style.relation?.isSome && !c.isEffective m }

variable {s : BuildSummary} {cs : List Connector} {state : Model × BuildSummary}

/-- A connector without a relation changes nothing but the count of the ignored ones. -/
theorem connect_of_ignored (h : c.style.relation? = none) :
    Recognition.connect state c = (state.1, { state.2 with ignored := state.2.ignored + 1 }) := by
  simp only [Recognition.connect, h]

/-- A connector with an end that is no entity changes nothing but the count of the skipped ones. -/
theorem connect_of_skipped (hrelation : c.style.relation? = some relation)
    (hlink : state.1.link? relation c.source c.target = none) :
    Recognition.connect state c = (state.1, { state.2 with skipped := state.2.skipped + 1 }) := by
  simp only [Recognition.connect, hrelation, hlink]

/-- A connector between two entities links them and is counted. -/
theorem connect_of_linked {linked : Model} (hrelation : c.style.relation? = some relation)
    (hlink : state.1.link? relation c.source c.target = some linked) :
    Recognition.connect state c = (linked, { state.2 with linked := state.2.linked + 1 }) := by
  simp only [Recognition.connect, hrelation, hlink]

/-- One more connector is carried out on top of those before it. -/
theorem Connected.connect (h : Connected m s cs state) (c : Connector) :
    Connected m s (cs ++ [c]) (Recognition.connect state c) := by
  cases hrelation : c.style.relation? with
  | none =>
    rw [connect_of_ignored hrelation, h.summary]
    have heffective : c.isEffective m = false := isEffective_eq_false hrelation
    refine ⟨h.keys, fun id => ?_, ?_⟩
    · rw [linksFrom_concat_of_not_effective heffective]
      exact h.entities id
    · simp [heffective, hrelation, Nat.add_assoc]
  | some relation =>
    have hcontains := isSome_link? state.1 relation c.source c.target
    rw [contains_congr h.keys, contains_congr h.keys, ← isEffective_iff hrelation] at hcontains
    cases hlink : state.1.link? relation c.source c.target with
    | none =>
      rw [connect_of_skipped hrelation hlink, h.summary]
      rw [hlink] at hcontains
      have heffective : c.isEffective m = false := hcontains.symm
      refine ⟨h.keys, fun id => ?_, ?_⟩
      · rw [linksFrom_concat_of_not_effective heffective]
        exact h.entities id
      · simp [heffective, hrelation, Nat.add_assoc]
    | some linked =>
      rw [connect_of_linked hrelation hlink, h.summary]
      rw [hlink] at hcontains
      have heffective : c.isEffective m = true := hcontains.symm
      refine ⟨(keys_link? hlink).trans h.keys, fun id => ?_, ?_⟩
      · rw [get?_link? hlink, h.entities, Option.map_map,
          linksFrom_concat_of_effective heffective hrelation]
        rfl
      · simp [heffective, hrelation, Nat.add_assoc]

/-- A pass over connectors leaves exactly their links, and counts each of them once. -/
theorem connected_foldl (hunlinked : ∀ id e, m.get? id = some e → e.links = {}) (s : BuildSummary)
    (cs : List Connector) : Connected m s cs (cs.foldl Recognition.connect (m, s)) := by
  induction cs using List.reverseRecOn with
  | nil =>
    refine ⟨rfl, fun id => ?_, rfl⟩
    cases he : m.get? id with
    | none => exact he
    | some e => exact he.trans (congrArg some (Entity.unlinked_of_links (hunlinked id e he)).symm)
  | append_singleton cs c ih =>
    rw [List.foldl_append]
    exact ih.connect c

/-! ## Links from connectors are closed and paired -/

variable {id other : String}

theorem contains_of_mem_effective (h : c ∈ m.effective cs relation) :
    m.contains c.source = true ∧ m.contains c.target = true := by
  have heffective := (Bool.and_eq_true_iff.1 (List.mem_filter.1 h).2).1
  exact Bool.and_eq_true_iff.1 (Bool.and_eq_true_iff.1 heffective).2

/-- An end of a connector at an entity names the entity at the other end. -/
theorem mem_endsAt {link : Direction × String} (h : link ∈ c.endsAt id) :
    (id = c.source ∧ link.2 = c.target) ∨ (id = c.target ∧ link.2 = c.source) := by
  rw [Connector.endsAt] at h
  cases List.mem_append.1 h with
  | inl h =>
    by_cases hs : id = c.source
    · rw [if_pos hs] at h
      exact Or.inl ⟨hs, congrArg Prod.snd (List.mem_singleton.1 h)⟩
    · rw [if_neg hs] at h
      cases h
  | inr h =>
    by_cases ht : id = c.target
    · rw [if_pos ht] at h
      exact Or.inr ⟨ht, congrArg Prod.snd (List.mem_singleton.1 h)⟩
    · rw [if_neg ht] at h
      cases h

theorem contains_of_mem_targetsFrom (h : other ∈ m.targetsFrom cs relation id) :
    m.contains id = true ∧ m.contains other = true := by
  obtain ⟨c, hc, rfl⟩ := List.mem_map.1 h
  obtain ⟨heffective, hsource⟩ := List.mem_filter.1 hc
  obtain ⟨hs, ht⟩ := contains_of_mem_effective heffective
  exact ⟨of_decide_eq_true hsource ▸ hs, ht⟩

theorem contains_of_mem_endsAt {link : Direction × String} (h : link ∈ m.endsAt cs relation id) :
    m.contains id = true ∧ m.contains link.2 = true := by
  obtain ⟨c, hc, hlink⟩ := List.mem_flatMap.1 h
  obtain ⟨hs, ht⟩ := contains_of_mem_effective hc
  cases mem_endsAt hlink with
  | inl h => exact ⟨h.1 ▸ hs, h.2 ▸ ht⟩
  | inr h => exact ⟨h.1 ▸ ht, h.2 ▸ hs⟩

/-- Everything that an entity is linked to is an entity. -/
theorem contains_of_mem_ids_linksFrom (h : other ∈ (m.linksFrom cs id).ids) :
    m.contains other = true := by
  simp only [Links.ids, Links.relatedIds, linksFrom, List.mem_append, List.mem_map] at h
  rcases h with (h | h) | ⟨link, (h | h) | h, rfl⟩
  · exact (contains_of_mem_targetsFrom h).2
  · exact (contains_of_mem_targetsFrom h).2
  · exact (contains_of_mem_endsAt h).2
  · exact (contains_of_mem_endsAt h).2
  · exact (contains_of_mem_endsAt h).2

/-- Where there is no entity, connectors leave no links. -/
theorem linksFrom_of_not_contains (h : m.contains id = false) : m.linksFrom cs id = {} := by
  have htargets (relation : Relation) : m.targetsFrom cs relation id = [] := by
    refine List.eq_nil_iff_forall_not_mem.2 fun other hother => ?_
    exact Bool.false_ne_true (h.symm.trans (contains_of_mem_targetsFrom hother).1)
  have hends (relation : Relation) : m.endsAt cs relation id = [] := by
    refine List.eq_nil_iff_forall_not_mem.2 fun link hlink => ?_
    exact Bool.false_ne_true (h.symm.trans (contains_of_mem_endsAt hlink).1)
  simp only [linksFrom, htargets, hends]

/-- A connector leaves as many links from one end to the other as the other way round. -/
theorem count_endsAt (c : Connector) (a b : String) :
    (c.endsAt a).count (.outgoing, b) = (c.endsAt b).count (.incoming, a) := by
  obtain ⟨source, target, style⟩ := c
  simp only [Connector.endsAt]
  by_cases hs : a = source <;> by_cases ht : b = target <;> by_cases hs' : b = source <;>
    by_cases ht' : a = target <;> simp_all [eq_comm]

/-- As many links of a mutual relation leave one entity for another as arrive there from it. -/
theorem count_directed_linksFrom (m : Model) (cs : List Connector) (relation : Relation)
    (a b : String) : ((m.linksFrom cs a).directed relation).count (.outgoing, b)
      = ((m.linksFrom cs b).directed relation).count (.incoming, a) := by
  have hends (relation : Relation) : (m.endsAt cs relation a).count (.outgoing, b)
      = (m.endsAt cs relation b).count (.incoming, a) := by
    rw [endsAt, endsAt, List.count_flatMap, List.count_flatMap]
    exact congrArg List.sum (List.map_congr_left fun c _ => count_endsAt c a b)
  cases relation with
  | association => exact hends .association
  | aggregation => exact hends .aggregation
  | composition => exact hends .composition
  | generalization => rfl
  | realization => rfl

/-- The links of a model are those that some connectors leave. -/
def LinkedBy (m : Model) (cs : List Connector) : Prop :=
  ∀ id e, m.get? id = some e → e.links = m.linksFrom cs id

theorem LinkedBy.directedAt (h : m.LinkedBy cs) (relation : Relation) (id : String) :
    m.directedAt relation id = (m.linksFrom cs id).directed relation := by
  rw [Model.directedAt]
  cases he : m.get? id with
  | none =>
    rw [linksFrom_of_not_contains (contains_eq_false_iff.2 he)]
    cases relation <;> rfl
  | some e =>
    rw [← h id e he]
    rfl

/-- Links that come from connectors lead to entities. -/
theorem LinkedBy.linksClosed (h : m.LinkedBy cs) : m.LinksClosed := by
  intro id e he other hother
  rw [h id e he] at hother
  exact contains_of_mem_ids_linksFrom hother

/-- Links that come from connectors are present at both ends. -/
theorem LinkedBy.linksPaired (h : m.LinkedBy cs) : m.LinksPaired := by
  intro relation a b
  rw [h.directedAt, h.directedAt]
  exact count_directed_linksFrom m cs relation a b

theorem Connected.linkedBy (h : Connected m s cs state) : state.1.LinkedBy cs := by
  intro id e he
  rw [h.entities, Option.map_eq_some_iff] at he
  obtain ⟨q, -, rfl⟩ := he
  exact (linksFrom_congr h.keys cs id).symm

/-- Only links are added. -/
theorem Connected.mapValues_unlinked (h : Connected m s cs state)
    (hunlinked : ∀ id e, m.get? id = some e → e.links = {}) :
    state.1.entities.mapValues Entity.unlinked = m.entities := by
  refine OrderedMap.ext_get? ?_ fun id => ?_
  · rw [OrderedMap.keys_mapValues, h.keys]
  · have hid : state.1.entities.get? id = _ := h.entities id
    rw [OrderedMap.get?_mapValues, hid, Option.map_map]
    cases he : m.get? id with
    | none => exact he.symm
    | some e =>
      have hid' : m.entities.get? id = some e := he
      rw [hid']
      exact congrArg some (Entity.unlinked_of_links (hunlinked id e he))

/-- Every connector is counted once. -/
theorem countP_add_countP_add_countP (m : Model) (cs : List Connector) :
    cs.countP (·.isEffective m) + cs.countP (·.style.relation?.isNone)
      + cs.countP (fun c => c.style.relation?.isSome && !c.isEffective m) = cs.length := by
  induction cs with
  | nil => rfl
  | cons c cs ih =>
    simp only [List.countP_cons, List.length_cons]
    cases hrelation : c.style.relation? with
    | none =>
      rw [isEffective_eq_false hrelation]
      simp
      omega
    | some relation =>
      cases c.isEffective m <;> simp <;> omega

end Model

end ClassDiagram
