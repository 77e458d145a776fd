import ClassDiagram.Proofs.Schema.Levels
import ClassDiagram.Proofs.Schema.Reference

/-!
# The order of tables

Places come by rank, which is their level or, without a level, a number above all
levels, and within a rank in their own order (`pairwise_placesByLevel`).  So a
parent comes before its child if it has a level, and else only if it stands before
it anyway (`precedes_iff`).

The parents of an entity are the entities that it refers to (`hasParent_iff`).  What
counts as a reference here is any property that is marked as a foreign key, also a
static one, which is no column and leaves no clause in the table.
-/

namespace ClassDiagram.Schema

/-! ## Pairs of a list -/

/-- In a list ordered by a relation that goes one way only, one element stands before another
exactly when the relation holds. -/
theorem pair_sublist_iff {α : Type} {r : α → α → Prop} {l : List α} (h : l.Pairwise r)
    (asymm : ∀ a b, r a b → ¬ r b a) {a b : α} (ha : a ∈ l) (hb : b ∈ l) :
    [a, b].Sublist l ↔ r a b := by
  constructor
  · intro hsub
    exact (List.pairwise_cons.1 (h.sublist hsub)).1 b List.mem_cons_self
  · intro hab
    obtain ⟨before, after, rfl⟩ := List.append_of_mem ha
    rw [List.mem_append, List.mem_cons] at hb
    rcases hb with hb | rfl | hb
    · have hba := (List.pairwise_append.1 h).2.2 b hb a List.mem_cons_self
      exact absurd hba (asymm a b hab)
    · exact absurd hab (asymm b b hab)
    · exact ((List.singleton_sublist.2 hb).cons_cons a).trans (List.sublist_append_right _ _)

/-! ## Places by level -/

variable {levels : List (Option Nat)}

/-- The level of a place, and for a place without one a number above all levels. -/
def rank (levels : List (Option Nat)) (place : Nat) : Nat := levels[place]?.join.getD levels.length

/-- One place comes before another. -/
def Precedes (levels : List (Option Nat)) (i j : Nat) : Prop :=
  rank levels i < rank levels j ∨ rank levels i = rank levels j ∧ i < j

theorem Precedes.asymm {i j : Nat} (h : Precedes levels i j) : ¬ Precedes levels j i := by
  unfold Precedes at *
  omega

theorem rank_of_level {i l : Nat} (h : levels[i]?.join = some l) : rank levels i = l := by
  rw [rank, h]
  rfl

theorem rank_of_none {i : Nat} (h : levels[i]?.join = none) : rank levels i = levels.length := by
  rw [rank, h]
  rfl

section

variable (below : ∀ i l : Nat, levels[i]?.join = some l → l < levels.length)
include below

/-- Places in the order of levels are those of each rank in turn. -/
theorem placesByLevel_eq :
    placesByLevel levels = (List.range (levels.length + 1)).flatMap fun r =>
      (List.range levels.length).filter fun i => rank levels i == r := by
  rw [placesByLevel, List.range_succ, List.flatMap_append, List.flatMap_singleton]
  congr 1
  · refine List.flatMap_congr fun r hr => List.filter_congr fun i _ => ?_
    cases h : levels[i]?.join with
    | none =>
      have hne : levels.length ≠ r := Nat.ne_of_gt (List.mem_range.1 hr)
      simp [rank_of_none h, hne]
    | some l => simp [rank_of_level h]
  · refine List.filter_congr fun i _ => ?_
    cases h : levels[i]?.join with
    | none => simp [rank_of_none h]
    | some l => simp [rank_of_level h, Nat.ne_of_lt (below i l h)]

/-- In the order of levels each place precedes those after it. -/
theorem pairwise_placesByLevel :
    (placesByLevel levels).Pairwise (Precedes levels) := by
  rw [placesByLevel_eq below, List.pairwise_flatMap]
  constructor
  · intro r _
    refine (List.pairwise_lt_range.filter _).imp_of_mem fun {i j} hi hj hij => ?_
    have hri := beq_iff_eq.1 (List.mem_filter.1 hi).2
    have hrj := beq_iff_eq.1 (List.mem_filter.1 hj).2
    exact Or.inr ⟨hri.trans hrj.symm, hij⟩
  · refine List.pairwise_lt_range.imp fun {r s} hrs i hi j hj => ?_
    have hri := beq_iff_eq.1 (List.mem_filter.1 hi).2
    have hrj := beq_iff_eq.1 (List.mem_filter.1 hj).2
    exact Or.inl (by omega)

theorem mem_placesByLevel {i : Nat} :
    i ∈ placesByLevel levels ↔ i < levels.length := by
  rw [placesByLevel_eq below, List.mem_flatMap]
  constructor
  · rintro ⟨r, -, hi⟩
    exact List.mem_range.1 (List.mem_filter.1 hi).1
  · intro hi
    refine ⟨rank levels i, ?_, List.mem_filter.2 ⟨List.mem_range.2 hi, beq_self_eq_true _⟩⟩
    rw [List.mem_range]
    cases h : levels[i]?.join with
    | none => simp [rank_of_none h]
    | some l =>
      have := below i l h
      rw [rank_of_level h]
      omega

/-- Every place comes exactly once in the order of levels. -/
theorem placesByLevel_perm :
    (placesByLevel levels).Perm (List.range levels.length) := by
  have hnodup : (placesByLevel levels).Nodup := by
    refine (pairwise_placesByLevel below).imp fun {i j} hij => ?_
    rintro rfl
    exact hij.asymm hij
  refine (List.perm_ext_iff_of_nodup hnodup List.nodup_range).2 fun i => ?_
  rw [mem_placesByLevel below, List.mem_range]

end

/-- A parent comes before its child if nothing leads from it into a circle, and else only in
the order of the places. -/
theorem precedes_iff {parents : List (List Nat)} {i j : Nat}
    (inside : ∀ i j, HasParent parents i j → j < parents.length) (h : HasParent parents i j) :
    Precedes (levelsAfter parents parents.length) j i ↔
      j < i ∨ Grounded (HasParent parents) j := by
  cases hj : levelAfter parents parents.length j with
  | some l =>
    refine iff_of_true (Or.inl ?_) (Or.inr (grounded_of_levelAfter hj))
    rw [rank_of_level hj]
    cases hi : levelAfter parents parents.length i with
    | some k =>
      obtain ⟨l', hlt, hl'⟩ := exists_lower hi h
      cases hj.symm.trans hl'
      rwa [rank_of_level hi]
    | none =>
      rw [rank_of_none hi, length_levelsAfter]
      exact levelAfter_lt hj
  | none =>
    have hi : levelAfter parents parents.length i = none := by
      refine Option.eq_none_iff_forall_ne_some.2 fun k hk => ?_
      obtain ⟨l, -, hl⟩ := exists_lower hk h
      cases hj.symm.trans hl
    have hcircle : ¬ Grounded (HasParent parents) j := by
      intro hgrounded
      have hsome := isSome_levelAfter inside (inside i j h) hgrounded
      rw [hj] at hsome
      cases hsome
    rw [or_iff_left hcircle, Precedes, rank_of_none hi, rank_of_none hj]
    simp

/-! ## The last entity with a name -/

section

variable {entities : List Entity} {i j : Nat} {name : String}

/-- The last entity of a list with a name stands at a place. -/
structure IsLast (entities : List Entity) (name : String) (place : Nat) : Prop where
  named : ∃ e, entities[place]? = some e ∧ e.name = name
  last : ∀ later e, place < later → entities[later]? = some e → e.name ≠ name

theorem IsLast.unique (hi : IsLast entities name i) (hj : IsLast entities name j) : i = j := by
  obtain ⟨e, he, hname⟩ := hi.named
  obtain ⟨f, hf, hname'⟩ := hj.named
  rcases Nat.lt_trichotomy i j with hlt | heq | hlt
  · exact absurd hname' (hi.last j f hlt hf)
  · exact heq
  · exact absurd hname (hj.last i e hlt he)

theorem isLast_of_lastPlace? (h : lastPlace? entities name = some j) :
    IsLast entities name j := by
  obtain ⟨earlier, hearlier⟩ := List.getLast?_eq_some_iff.1 h
  have hmem : ∀ k, k ∈ earlier ++ [j] ↔ ∃ e, entities[k]? = some e ∧ e.name = name := by
    intro k
    rw [← hearlier, List.mem_filter, List.mem_range, beq_iff_eq, Option.map_eq_some_iff]
    exact and_iff_right_of_imp fun ⟨e, he, _⟩ => (List.getElem?_eq_some_iff.1 he).1
  have hsorted : (earlier ++ [j]).Pairwise (· < ·) := hearlier ▸ List.pairwise_lt_range.filter _
  refine ⟨(hmem j).1 (by simp), fun later e hlt he hname => ?_⟩
  rcases List.mem_append.1 ((hmem later).2 ⟨e, he, hname⟩) with hbefore | hself
  · have := (List.pairwise_append.1 hsorted).2.2 later hbefore j (by simp)
    omega
  · have := List.mem_singleton.1 hself
    omega

/-- The last place of a name is that of the last entity with it. -/
theorem lastPlace?_eq_some_iff_isLast :
    lastPlace? entities name = some j ↔ IsLast entities name j := by
  refine ⟨isLast_of_lastPlace?, fun hlast => ?_⟩
  obtain ⟨e, he, hname⟩ := hlast.named
  have hmem : j ∈ (List.range entities.length).filter fun i =>
      (entities[i]?.map (·.name)) == some name := by
    refine List.mem_filter.2 ⟨List.mem_range.2 (List.getElem?_eq_some_iff.1 he).1, ?_⟩
    simp [he, hname]
  obtain ⟨k, hk⟩ := Option.ne_none_iff_exists'.1
    (mt List.getLast?_eq_none_iff.1 (List.ne_nil_of_mem hmem))
  rw [lastPlace?, hk, (isLast_of_lastPlace? hk).unique hlast]

theorem lt_of_lastPlace? (h : lastPlace? entities name = some j) : j < entities.length := by
  obtain ⟨e, he, -⟩ := (isLast_of_lastPlace? h).named
  exact (List.getElem?_eq_some_iff.1 he).1

end

/-! ## Entities and their places -/

section

variable {m : Model} {entities : List Entity} (names : (entities.map (·.name)).Nodup)
  {i j : Nat} {e f : Entity}

/-- A property of an entity, which need not be a column, is marked as a foreign key to
another entity of a list. -/
def Refers (m : Model) (entities : List Entity) (e f : Entity) : Prop :=
  e ∈ entities ∧ f ∈ entities ∧ e ≠ f ∧
    ∃ p ∈ e.propertyList, p.constraints.foreign = true ∧ parentName m p = f.name

/-- The places of the entities that each entity of a list refers to. -/
def parentPlaces (m : Model) (entities : List Entity) : List (List Nat) :=
  entities.mapIdx (parentsAt m entities)

include names in
theorem place_unique (hi : entities[i]? = some e) (hj : entities[j]? = some f)
    (hname : e.name = f.name) : i = j := by
  have hlt : i < (entities.map (·.name)).length := by
    rw [List.length_map]
    exact (List.getElem?_eq_some_iff.1 hi).1
  exact (List.getElem?_inj hlt names).1 (by simp [hi, hj, hname])

include names in
theorem idxOf_of_getElem? (hi : entities[i]? = some e) : entities.idxOf e = i := by
  have hmem : e ∈ entities := List.mem_of_getElem? hi
  exact place_unique names (List.getElem?_idxOf hmem) hi rfl

include names in
theorem lastPlace?_eq_some_iff {name : String} (hj : entities[j]? = some f) :
    lastPlace? entities name = some j ↔ f.name = name := by
  rw [lastPlace?_eq_some_iff_isLast]
  constructor
  · rintro ⟨⟨e, he, hname⟩, -⟩
    cases hj.symm.trans he
    exact hname
  · rintro rfl
    refine ⟨⟨f, hj, rfl⟩, fun later e hlt he hname => ?_⟩
    have hsame := place_unique names he hj hname
    omega

/-- The parents of a table are the other tables that its foreign properties refer to. -/
theorem mem_parentsAt : j ∈ parentsAt m entities i e ↔ j ≠ i ∧ ∃ p ∈ e.propertyList,
    p.constraints.foreign = true ∧ lastPlace? entities (parentName m p) = some j := by
  simp only [parentsAt, mem_firsts, List.mem_filter, List.mem_filterMap, bne_iff_ne, and_assoc]
  exact and_comm

theorem exists_of_hasParent (h : HasParent (parentPlaces m entities) i j) :
    ∃ e f, entities[i]? = some e ∧ entities[j]? = some f := by
  obtain ⟨ps, hps, hj⟩ := h
  rw [parentPlaces, List.getElem?_mapIdx, Option.map_eq_some_iff] at hps
  obtain ⟨e, he, rfl⟩ := hps
  obtain ⟨-, p, -, -, hplace⟩ := mem_parentsAt.1 hj
  exact ⟨e, _, he, List.getElem?_eq_getElem (lt_of_lastPlace? hplace)⟩

theorem lt_of_hasParent (h : HasParent (parentPlaces m entities) i j) :
    j < (parentPlaces m entities).length := by
  obtain ⟨e, f, -, hf⟩ := exists_of_hasParent h
  rw [parentPlaces, List.length_mapIdx]
  exact (List.getElem?_eq_some_iff.1 hf).1

include names in
/-- The parents of a place are those that the entity there refers to. -/
theorem hasParent_iff (hi : entities[i]? = some e) (hj : entities[j]? = some f) :
    HasParent (parentPlaces m entities) i j ↔ Refers m entities e f := by
  have hrow : (parentPlaces m entities)[i]? = some (parentsAt m entities i e) := by
    rw [parentPlaces, List.getElem?_mapIdx, hi]
    rfl
  have hne : j ≠ i ↔ e ≠ f := by
    refine not_congr ⟨fun hij => ?_, fun hef => ?_⟩
    · rw [hij, hi] at hj
      exact Option.some.inj hj
    · exact place_unique names hj hi (hef ▸ rfl)
  constructor
  · rintro ⟨ps, hps, hmem⟩
    rw [hrow] at hps
    cases hps
    obtain ⟨hji, p, hp, hforeign, hplace⟩ := mem_parentsAt.1 hmem
    have hname := (lastPlace?_eq_some_iff names hj).1 hplace
    exact ⟨List.mem_of_getElem? hi, List.mem_of_getElem? hj, hne.1 hji, p, hp, hforeign, hname.symm⟩
  · rintro ⟨-, -, hef, p, hp, hforeign, hname⟩
    have hplace := (lastPlace?_eq_some_iff names hj).2 hname.symm
    exact ⟨_, hrow, mem_parentsAt.2 ⟨hne.2 hef, p, hp, hforeign, hplace⟩⟩

include names in
/-- An entity leads into a circle exactly when its place does. -/
theorem grounded_iff (hj : entities[j]? = some f) :
    Grounded (Refers m entities) f ↔ Grounded (HasParent (parentPlaces m entities)) j := by
  constructor
  · intro h
    refine Grounded.of_map (r := Refers m entities) (g := fun i => entities[i]?.getD f)
      (fun i k hik => ?_) (by simpa [hj] using h)
    obtain ⟨e, e', he, he'⟩ := exists_of_hasParent hik
    simpa [he, he'] using (hasParent_iff names he he').1 hik
  · intro h
    refine Grounded.of_map (r := HasParent (parentPlaces m entities)) (g := entities.idxOf)
      (fun e e' hee' => ?_) (by rwa [idxOf_of_getElem? names hj])
    exact (hasParent_iff names (List.getElem?_idxOf hee'.1) (List.getElem?_idxOf hee'.2.1)).2 hee'

end

end ClassDiagram.Schema
