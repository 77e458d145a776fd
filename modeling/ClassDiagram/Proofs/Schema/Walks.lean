import Mathlib.Order.Bounds.Basic
import ClassDiagram.Proofs.Schema.Order

/-!
# Longest walks

The level of a place is the length of the longest walk from it
(`levelAfter_eq_some_iff`), and a place without a level is one that an endless walk
starts from (`levelAfter_eq_none_iff`).  Among finitely many places that is a place
from which one comes to a circle (`endless_iff`).  So places by level are places by
longest walk (`placesByLevel_byWalks`).

None of this looks at how the parents of a place are listed, so neither do the
levels (`levelsAfter_congr`).
-/

namespace ClassDiagram.Schema

/-! ## Walks along a relation -/

section

variable {α : Type} {r : α → α → Prop} {a b : α} {l n : Nat}

/-- One can walk a number of steps from an element. -/
def Walk (r : α → α → Prop) (a : α) (n : Nat) : Prop :=
  ∃ walk : List α, walk.length = n ∧ (a :: walk).IsChain r

/-- The longest walk from an element has a number of steps. -/
def LongestWalk (r : α → α → Prop) (a : α) (n : Nat) : Prop :=
  IsGreatest { k | Walk r a k } n

/-- Some walk from an element does not end. -/
def Endless (r : α → α → Prop) (a : α) : Prop :=
  ∃ walk : Nat → α, walk 0 = a ∧ ∀ k, r (walk k) (walk (k + 1))

theorem Walk.step (hstep : r a b) (h : Walk r b n) : Walk r a (n + 1) := by
  obtain ⟨walk, rfl, hchain⟩ := h
  exact ⟨b :: walk, rfl, hchain.cons_cons hstep⟩

theorem Endless.step (hstep : r a b) (h : Endless r b) : Endless r a := by
  obtain ⟨walk, rfl, hwalk⟩ := h
  refine ⟨fun k => k.casesOn a walk, rfl, fun k => ?_⟩
  cases k with
  | zero => exact hstep
  | succ k => exact hwalk k

theorem Endless.walk (h : Endless r a) (n : Nat) : Walk r a n := by
  induction n generalizing a with
  | zero => exact ⟨[], rfl, .singleton a⟩
  | succ n ih =>
    obtain ⟨walk, rfl, hwalk⟩ := h
    exact (ih ⟨fun k => walk (k + 1), rfl, fun k => hwalk (k + 1)⟩).step (hwalk 0)

/-- Where there is a longest walk one cannot walk on forever. -/
theorem LongestWalk.not_endless (h : LongestWalk r a l) : ¬ Endless r a := by
  intro hendless
  have hle : l + 1 ≤ l := h.2 (hendless.walk (l + 1))
  omega

/-- From an element that leads into a circle one can step to another one that does. If the element
is on the circle itself, the step is the first one around it. -/
theorem exists_step_of_not_grounded (h : ¬ Grounded r a) : ∃ b, r a b ∧ ¬ Grounded r b := by
  simp only [Grounded, not_forall, not_not] at h
  obtain ⟨c, hpath, hcircle⟩ := h
  -- Without a path to the circle the element is on it, and the first step is one of the circle.
  obtain ⟨b, hstep, hrest⟩ : ∃ b, r a b ∧ Relation.ReflTransGen r b c := by
    rcases hpath.cases_head with rfl | hhead
    · exact Relation.TransGen.head'_iff.1 hcircle
    · exact hhead
  exact ⟨b, hstep, fun hgrounded => hgrounded c hrest hcircle⟩

/-- From an element that leads into a circle one can walk on forever, among the elements that do. -/
theorem endless_of_not_grounded (h : ¬ Grounded r a) : Endless r a := by
  have hsteps : ∀ x : { x // ¬ Grounded r x }, ∃ y : { x // ¬ Grounded r x }, r x y := by
    rintro ⟨x, hx⟩
    obtain ⟨y, hstep, hy⟩ := exists_step_of_not_grounded hx
    exact ⟨⟨y, hy⟩, hstep⟩
  choose next hnext using hsteps
  refine ⟨fun k => next^[k] ⟨a, h⟩, rfl, fun k => ?_⟩
  show r (next^[k] ⟨a, h⟩) (next^[k + 1] ⟨a, h⟩)
  rw [Function.iterate_succ_apply']
  exact hnext _

end

/-! ## Walks from parent to parent -/

section

variable {parents parents' : List (List Nat)} {rounds i j l : Nat}

theorem lt_length_of_hasParent (h : HasParent parents i j) : i < parents.length := by
  obtain ⟨ps, hps, -⟩ := h
  exact (List.getElem?_eq_some_iff.1 hps).1

theorem getElem?_levelsAfter (hi : i < parents.length) :
    (levelsAfter parents rounds)[i]? = some (levelAfter parents rounds i) := by
  have hlength : i < (levelsAfter parents rounds).length := by rwa [length_levelsAfter]
  rw [levelAfter, List.getElem?_eq_getElem hlength]
  rfl

/-- A level is the length of a walk. -/
theorem walk_of_levelAfter (h : levelAfter parents rounds i = some l) :
    Walk (HasParent parents) i l := by
  induction rounds generalizing i l with
  | zero => simp at h
  | succ rounds ih =>
    obtain ⟨ps, hps⟩ := exists_parents h
    rw [levelAfter_succ hps] at h
    rcases (of_levelAbove h).2 with rfl | ⟨k, hk, rfl⟩
    · exact ⟨[], rfl, .singleton i⟩
    · obtain ⟨p, hp, hlevel⟩ := List.mem_map.1 hk
      exact (ih hlevel).step ⟨ps, hps, hp⟩

/-- No walk is longer than the level, since each step leads to a lower one. -/
theorem length_le_of_levelAfter {walk : List Nat} (hchain : (i :: walk).IsChain (HasParent parents))
    (h : levelAfter parents rounds i = some l) : walk.length ≤ l := by
  induction walk generalizing i l with
  | nil => exact Nat.zero_le l
  | cons p walk ih =>
    obtain ⟨hstep, hrest⟩ := List.isChain_cons_cons.1 hchain
    obtain ⟨k, hk, hlevel⟩ := exists_lower h hstep
    have hle := ih hrest hlevel
    rw [List.length_cons]
    omega

/-- The level of a place is the length of the longest walk from it. -/
theorem longestWalk_of_levelAfter (h : levelAfter parents rounds i = some l) :
    LongestWalk (HasParent parents) i l := by
  refine ⟨walk_of_levelAfter h, ?_⟩
  rintro n ⟨walk, rfl, hchain⟩
  exact length_le_of_levelAfter hchain h

variable (inside : ∀ i j, HasParent parents i j → j < parents.length)
include inside

/-- A place is left without a level exactly when one can walk on forever from it. -/
theorem levelAfter_eq_none_iff (hi : i < parents.length) :
    levelAfter parents parents.length i = none ↔ Endless (HasParent parents) i := by
  constructor
  · intro hnone
    refine endless_of_not_grounded fun hgrounded => ?_
    have hsome := isSome_levelAfter inside hi hgrounded
    rw [hnone] at hsome
    cases hsome
  · intro hendless
    refine Option.eq_none_iff_forall_ne_some.2 fun l hl => ?_
    exact (longestWalk_of_levelAfter hl).not_endless hendless

theorem levelAfter_eq_some_iff (hi : i < parents.length) :
    levelAfter parents parents.length i = some l ↔ LongestWalk (HasParent parents) i l := by
  refine ⟨longestWalk_of_levelAfter, fun hlongest => ?_⟩
  have hlevel := mt (levelAfter_eq_none_iff inside hi).1 hlongest.not_endless
  obtain ⟨k, hk⟩ := Option.ne_none_iff_exists'.1 hlevel
  rw [hk, (longestWalk_of_levelAfter hk).unique hlongest]

theorem endless_iff : Endless (HasParent parents) i ↔ ¬ Grounded (HasParent parents) i := by
  refine ⟨fun hendless hgrounded => ?_, endless_of_not_grounded⟩
  have hi : i < parents.length := by
    obtain ⟨walk, rfl, hwalk⟩ := hendless
    exact lt_length_of_hasParent (hwalk 0)
  have hsome := isSome_levelAfter inside hi hgrounded
  rw [(levelAfter_eq_none_iff inside hi).2 hendless] at hsome
  cases hsome

/-- There is a longest walk unless one can walk on forever. -/
theorem exists_longestWalk (hi : i < parents.length) (h : ¬ Endless (HasParent parents) i) :
    ∃ l, LongestWalk (HasParent parents) i l := by
  obtain ⟨l, hl⟩ := Option.ne_none_iff_exists'.1 (mt (levelAfter_eq_none_iff inside hi).1 h)
  exact ⟨l, longestWalk_of_levelAfter hl⟩

/-- Levels depend on which places are parents and not on how they are listed. -/
theorem levelsAfter_congr (hlength : parents'.length = parents.length)
    (hparents : ∀ i j, HasParent parents' i j ↔ HasParent parents i j) :
    levelsAfter parents' parents'.length = levelsAfter parents parents.length := by
  have hrel : HasParent parents' = HasParent parents := by
    funext i j
    exact propext (hparents i j)
  have inside' : ∀ i j, HasParent parents' i j → j < parents'.length := by
    rwa [hrel, hlength]
  refine List.ext_getElem? fun i => ?_
  rcases Nat.lt_or_ge i parents.length with hi | hi
  · have hi' : i < parents'.length := hlength ▸ hi
    rw [getElem?_levelsAfter hi, getElem?_levelsAfter hi']
    refine congrArg some (Option.ext fun l => ?_)
    rw [levelAfter_eq_some_iff inside hi, levelAfter_eq_some_iff inside' hi', hrel]
  · rw [List.getElem?_eq_none (by simpa [hlength] using hi),
      List.getElem?_eq_none (by simpa using hi)]

end

/-! ## The order of the longest walks -/

/-- In the order of the longest walks a place comes before another one.  Endless walks are
longer than all others, and places with walks alike keep their order. -/
inductive ComesBefore (r : Nat → Nat → Prop) (i j : Nat) : Prop
  | shorter {k l : Nat} (hi : LongestWalk r i k) (hj : LongestWalk r j l) (hlt : k < l)
  | level {l : Nat} (hi : LongestWalk r i l) (hj : LongestWalk r j l) (hlt : i < j)
  | ending (hi : ¬ Endless r i) (hj : Endless r j)
  | endless (hi : Endless r i) (hj : Endless r j) (hlt : i < j)

/-- The first places up to a number stand in the order of the longest walks. -/
structure ByWalks (r : Nat → Nat → Prop) (n : Nat) (places : List Nat) : Prop where
  perm : places.Perm (List.range n)
  ordered : places.Pairwise (ComesBefore r)
  parents_first : ∀ i j, r i j → ¬ Endless r i → [j, i].Sublist places

section

variable {parents : List (List Nat)} {i j : Nat}
  (inside : ∀ i j, HasParent parents i j → j < parents.length)
include inside

/-- What precedes by levels comes before by walks. A place without a level has a rank above all
levels, so that it precedes none that has one. -/
theorem comesBefore_of_precedes (hi : i < parents.length) (hj : j < parents.length)
    (h : Precedes (levelsAfter parents parents.length) i j) :
    ComesBefore (HasParent parents) i j := by
  cases hli : levelAfter parents parents.length i with
  | some k =>
    have hlongest := longestWalk_of_levelAfter hli
    cases hlj : levelAfter parents parents.length j with
    | some l =>
      rw [Precedes, rank_of_level hli, rank_of_level hlj] at h
      rcases h with hlt | ⟨rfl, hlt⟩
      · exact .shorter hlongest (longestWalk_of_levelAfter hlj) hlt
      · exact .level hlongest (longestWalk_of_levelAfter hlj) hlt
    | none => exact .ending hlongest.not_endless ((levelAfter_eq_none_iff inside hj).1 hlj)
  | none =>
    cases hlj : levelAfter parents parents.length j with
    | some l =>
      have hlt := levelAfter_lt hlj
      rw [Precedes, rank_of_none hli, rank_of_level hlj, length_levelsAfter] at h
      omega
    | none =>
      rw [Precedes, rank_of_none hli, rank_of_none hlj] at h
      refine .endless ((levelAfter_eq_none_iff inside hi).1 hli)
        ((levelAfter_eq_none_iff inside hj).1 hlj) ?_
      omega

/-- The order of the levels is the one by the longest walks. -/
theorem placesByLevel_byWalks :
    ByWalks (HasParent parents) parents.length
      (placesByLevel (levelsAfter parents parents.length)) where
  perm := by simpa using placesByLevel_perm (levelsAfter_below parents)
  ordered := by
    refine (pairwise_placesByLevel (levelsAfter_below parents)).imp_of_mem fun {i j} hi hj hij => ?_
    rw [mem_placesByLevel (levelsAfter_below parents), length_levelsAfter] at hi hj
    exact comesBefore_of_precedes inside hi hj hij
  parents_first i j hij hending := by
    have hgrounded : Grounded (HasParent parents) j := by
      by_contra hcircle
      exact hending ((endless_of_not_grounded hcircle).step hij)
    have hbefore := (precedes_iff inside hij).2 (Or.inr hgrounded)
    refine (pair_sublist_iff (pairwise_placesByLevel (levelsAfter_below parents))
      (fun _ _ => Precedes.asymm) ?_ ?_).2 hbefore
    · rw [mem_placesByLevel (levelsAfter_below parents), length_levelsAfter]
      exact inside i j hij
    · rw [mem_placesByLevel (levelsAfter_below parents), length_levelsAfter]
      exact lt_length_of_hasParent hij

end

end ClassDiagram.Schema
