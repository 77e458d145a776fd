import Mathlib.Data.List.Chain
import Mathlib.Data.List.Perm.Subperm
import Mathlib.Logic.Relation
import ClassDiagram.Schema.Order

/-!
# Levels

A round gives a place a level once all its parents have one.  What a round has
given, later rounds keep (`levelAfter_succ_of_some`), and the level of a parent is
lower (`exists_lower`).  So a place with a level does not lead into a circle.

A place that has no level after a round has a parent that had none before.  As
many rounds as there are places leave a walk that is longer than the number of
places, so it comes to some place twice (`isSome_levelAfter`).
-/

namespace ClassDiagram.Schema

/-- Following a relation from an element does not lead into a circle. -/
def Grounded {α : Type} (r : α → α → Prop) (a : α) : Prop :=
  ∀ c, Relation.ReflTransGen r a c → ¬ Relation.TransGen r c c

/-- What is mapped into grounded elements, steps into steps, is grounded. -/
theorem Grounded.of_map {α β : Type} {r : α → α → Prop} {s : β → β → Prop} {g : β → α}
    (hmap : ∀ x y, s x y → r (g x) (g y)) {b : β} (h : Grounded r (g b)) : Grounded s b :=
  fun c hpath hcircle => h (g c) (hpath.lift g hmap) (hcircle.lift g hmap)

/-! ## The level above some levels -/

theorem levelAbove_eq_none_iff {levels : List (Option Nat)} :
    levelAbove levels = none ↔ none ∈ levels := by
  induction levels with
  | nil => simp [levelAbove]
  | cons level levels ih =>
    cases level with
    | none => simp [levelAbove]
    | some l => cases h : levelAbove levels <;> simp_all [levelAbove]

/-- A level above others is the least one above them all. -/
theorem of_levelAbove {levels : List (Option Nat)} {n : Nat} (h : levelAbove levels = some n) :
    (∀ level ∈ levels, ∃ l < n, level = some l) ∧ (n = 0 ∨ ∃ l, some l ∈ levels ∧ n = l + 1) := by
  induction levels generalizing n with
  | nil =>
    cases h
    exact ⟨nofun, Or.inl rfl⟩
  | cons level levels ih =>
    simp only [levelAbove, Option.bind_eq_bind, Option.bind_eq_some_iff] at h
    obtain ⟨l, rfl, above, habove, hn⟩ := h
    obtain ⟨hlower, hmax⟩ := ih habove
    cases hn
    constructor
    · intro level hlevel
      rcases List.mem_cons.1 hlevel with rfl | hlevel
      · exact ⟨l, by omega, rfl⟩
      · obtain ⟨k, hk, rfl⟩ := hlower level hlevel
        exact ⟨k, by omega, rfl⟩
    · right
      rcases Nat.le_total above (l + 1) with hle | hle
      · exact ⟨l, List.mem_cons_self, by omega⟩
      · obtain rfl | ⟨k, hk, rfl⟩ := hmax
        · omega
        · exact ⟨k, List.mem_cons_of_mem _ hk, by omega⟩

/-! ## Rounds -/

variable {parents : List (List Nat)} {rounds i j l : Nat}

/-- A place has another one among its parents. -/
def HasParent (parents : List (List Nat)) (i j : Nat) : Prop :=
  ∃ ps, parents[i]? = some ps ∧ j ∈ ps

/-- The level that a place has after some rounds. -/
def levelAfter (parents : List (List Nat)) (rounds place : Nat) : Option Nat :=
  (levelsAfter parents rounds)[place]?.join

@[simp] theorem length_levelsAfter (parents : List (List Nat)) (rounds : Nat) :
    (levelsAfter parents rounds).length = parents.length := by
  cases rounds <;> simp [levelsAfter, nextLevels]

@[simp] theorem levelAfter_zero (parents : List (List Nat)) (i : Nat) :
    levelAfter parents 0 i = none := by
  simp only [levelAfter, levelsAfter, List.getElem?_map]
  cases parents[i]? <;> rfl

theorem levelAfter_succ {ps : List Nat} (h : parents[i]? = some ps) :
    levelAfter parents (rounds + 1) i = levelAbove (ps.map (levelAfter parents rounds)) := by
  simp only [levelAfter, levelsAfter, nextLevels, List.getElem?_map, h]
  rfl

theorem exists_parents (h : levelAfter parents rounds i = some l) :
    ∃ ps, parents[i]? = some ps := by
  have hlt : i < parents.length := by
    by_contra hge
    rw [levelAfter, List.getElem?_eq_none (by simpa using hge)] at h
    cases h
  exact ⟨_, List.getElem?_eq_getElem hlt⟩

/-- Later rounds keep a level. -/
theorem levelAfter_succ_of_some (h : levelAfter parents rounds i = some l) :
    levelAfter parents (rounds + 1) i = some l := by
  induction rounds generalizing i l with
  | zero => simp at h
  | succ rounds ih =>
    obtain ⟨ps, hps⟩ := exists_parents h
    rw [levelAfter_succ hps] at h
    have hsame : ps.map (levelAfter parents (rounds + 1)) = ps.map (levelAfter parents rounds) := by
      refine List.map_congr_left fun p hp => ?_
      obtain ⟨k, -, hk⟩ := (of_levelAbove h).1 _ (List.mem_map_of_mem hp)
      rw [hk, ih hk]
    rw [levelAfter_succ hps, hsame, h]

theorem exists_lower (h : levelAfter parents rounds i = some l) (hij : HasParent parents i j) :
    ∃ k < l, levelAfter parents rounds j = some k := by
  cases rounds with
  | zero => simp at h
  | succ rounds =>
    obtain ⟨ps, hps, hj⟩ := hij
    rw [levelAfter_succ hps] at h
    obtain ⟨k, hk, hlevel⟩ := (of_levelAbove h).1 _ (List.mem_map_of_mem hj)
    exact ⟨k, hk, levelAfter_succ_of_some hlevel⟩

/-- A level is found in a round above it. -/
theorem levelAfter_lt (h : levelAfter parents rounds i = some l) : l < rounds := by
  induction rounds generalizing i l with
  | zero => simp at h
  | succ rounds ih =>
    obtain ⟨ps, hps⟩ := exists_parents h
    rw [levelAfter_succ hps] at h
    rcases (of_levelAbove h).2 with rfl | ⟨k, hk, rfl⟩
    · omega
    · obtain ⟨p, -, hp⟩ := List.mem_map.1 hk
      have := ih hp
      omega

theorem levelsAfter_below (parents : List (List Nat)) (i l : Nat)
    (h : (levelsAfter parents parents.length)[i]?.join = some l) :
    l < (levelsAfter parents parents.length).length := by
  rw [length_levelsAfter]
  exact levelAfter_lt h

/-! ## Places without a level -/

/-- All that comes before a place has a lower level. -/
theorem exists_lower_of_transGen (hij : Relation.TransGen (HasParent parents) i j)
    (h : levelAfter parents rounds i = some l) : ∃ k < l, levelAfter parents rounds j = some k := by
  induction hij with
  | single hstep => exact exists_lower h hstep
  | tail _ hstep ih =>
    obtain ⟨k, hk, hlevel⟩ := ih
    obtain ⟨k', hk', hlevel'⟩ := exists_lower hlevel hstep
    exact ⟨k', by omega, hlevel'⟩

/-- A place with a level does not lead into a circle. -/
theorem grounded_of_levelAfter (h : levelAfter parents rounds i = some l) :
    Grounded (HasParent parents) i := by
  intro c hpath hcircle
  have hlevel : ∃ k, levelAfter parents rounds c = some k := by
    rcases Relation.reflTransGen_iff_eq_or_transGen.1 hpath with rfl | hpath
    · exact ⟨l, h⟩
    · obtain ⟨k, -, hk⟩ := exists_lower_of_transGen hpath h
      exact ⟨k, hk⟩
  obtain ⟨k, hk⟩ := hlevel
  obtain ⟨k', hlt, hk'⟩ := exists_lower_of_transGen hcircle hk
  rw [hk] at hk'
  cases hk'
  exact Nat.lt_irrefl k hlt

/-- From a place that still has no level one can walk as many steps as there were rounds. -/
theorem exists_walk (inside : ∀ i j, HasParent parents i j → j < parents.length)
    (hi : i < parents.length) (h : levelAfter parents rounds i = none) :
    ∃ walk : List Nat, walk.length = rounds ∧ (i :: walk).IsChain (HasParent parents) := by
  induction rounds generalizing i with
  | zero => exact ⟨[], rfl, .singleton i⟩
  | succ rounds ih =>
    have hps := List.getElem?_eq_getElem hi
    rw [levelAfter_succ hps, levelAbove_eq_none_iff] at h
    obtain ⟨p, hp, hnone⟩ := List.mem_map.1 h
    have hstep : HasParent parents i p := ⟨_, hps, hp⟩
    obtain ⟨walk, hlength, hchain⟩ := ih (inside i p hstep) hnone
    exact ⟨p :: walk, by simp [hlength], hchain.cons_cons hstep⟩

/-- A place that does not lead into a circle has its level after as many rounds as there are places.
-/
theorem isSome_levelAfter (inside : ∀ i j, HasParent parents i j → j < parents.length)
    (hi : i < parents.length) (h : Grounded (HasParent parents) i) :
    (levelAfter parents parents.length i).isSome = true := by
  by_contra hnone
  obtain ⟨walk, hlength, hchain⟩ := exists_walk inside hi (by simpa using hnone)
  have hpairs : (i :: walk).Pairwise (Relation.TransGen (HasParent parents)) :=
    (hchain.imp fun _ _ => Relation.TransGen.single).pairwise
  have hreached : ∀ a ∈ i :: walk, Relation.ReflTransGen (HasParent parents) i a := by
    intro a ha
    rcases List.mem_cons.1 ha with rfl | ha
    · exact .refl
    · exact ((List.pairwise_cons.1 hpairs).1 a ha).to_reflTransGen
  have hnodup : (i :: walk).Nodup := by
    refine hpairs.imp_of_mem fun {a b} ha _ hab => ?_
    rintro rfl
    exact h a (hreached a ha) hab
  have hplaces : i :: walk ⊆ List.range parents.length := by
    intro a ha
    rw [List.mem_range]
    rcases Relation.ReflTransGen.cases_tail (hreached a ha) with rfl | ⟨b, -, hstep⟩
    · exact hi
    · exact inside b a hstep
  have hle := (List.subperm_of_subset hnodup hplaces).length_le
  rw [List.length_cons, List.length_range] at hle
  omega

end ClassDiagram.Schema
