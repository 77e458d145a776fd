import Mathlib.Data.List.Count
import ClassDiagram.Proofs.Schema.Walks

/-!
# Levels given one by one

Levels need not be found in rounds.  One may as well go through the places in any
order and give a level to one that has none, once all its parents have theirs.
Each step leaves one place less without a level, so no run is longer than the
number of places (`length_le_of_run`).  Steps give no level but the one that the
rounds find (`Settles.agrees`), and where no step is left they have given all of
them (`Settled.eq_levelsAfter`).  So the order of the steps does not matter.
-/

namespace ClassDiagram.Schema

variable {parents : List (List Nat)} {levels next : List (Option Nat)} {i l : Nat}

/-- A place without a level is given the level above its parents. -/
inductive Settles (parents : List (List Nat)) (levels : List (Option Nat)) :
    List (Option Nat) → Prop
  | place {i l : Nat} {ps : List Nat} (hnone : levels[i]? = some none)
      (hps : parents[i]? = some ps)
      (hlevel : levelAbove (ps.map fun p => levels[p]?.join) = some l) :
      Settles parents levels (levels.set i (some l))

/-- No place has a level yet. -/
def unsettled (parents : List (List Nat)) : List (Option Nat) := parents.map fun _ => none

/-- Levels that were given one by one until no place was left that could be given one. -/
structure Settled (parents : List (List Nat)) (levels : List (Option Nat)) : Prop where
  run : Relation.ReflTransGen (Settles parents) (unsettled parents) levels
  ended : ∀ next, ¬ Settles parents levels next

/-! ## Runs end -/

theorem Settles.length_eq (h : Settles parents levels next) : next.length = levels.length := by
  cases h with
  | place => exact List.length_set

theorem Settled.length_eq (h : Settled parents levels) : levels.length = parents.length := by
  obtain ⟨hrun, -⟩ := h
  induction hrun with
  | refl => exact List.length_map _
  | tail _ hstep ih => exact hstep.length_eq.trans ih

/-- Settling a place leaves one unsettled place less. -/
theorem Settles.count_none (h : Settles parents levels next) :
    next.count none + 1 = levels.count none := by
  cases h with
  | @place i l ps hnone =>
    obtain ⟨hi, hget⟩ := List.getElem?_eq_some_iff.1 hnone
    have hpos : 0 < levels.count none := List.count_pos_iff.2 (List.mem_of_getElem? hnone)
    rw [List.count_set hi, hget]
    simp
    omega

/-- No run of settling is longer than there are unsettled places. -/
theorem length_le_count {run : List (List (Option Nat))}
    (h : (levels :: run).IsChain (Settles parents)) : run.length ≤ levels.count none := by
  induction run generalizing levels with
  | nil => exact Nat.zero_le _
  | cons next run ih =>
    obtain ⟨hstep, hrest⟩ := List.isChain_cons_cons.1 h
    have hle := ih hrest
    have hcount := hstep.count_none
    rw [List.length_cons]
    omega

/-- No run has more steps than there are places. -/
theorem length_le_of_run {run : List (List (Option Nat))}
    (h : (unsettled parents :: run).IsChain (Settles parents)) : run.length ≤ parents.length := by
  have hle := length_le_count h
  have hcount : (unsettled parents).count none ≤ (unsettled parents).length :=
    List.count_le_length
  rw [unsettled, List.length_map] at hcount
  exact hle.trans hcount

/-- Every run can be continued to an end. -/
theorem exists_settled_of_run
    (h : Relation.ReflTransGen (Settles parents) (unsettled parents) levels) :
    ∃ settled, Settled parents settled := by
  induction hcount : levels.count none using Nat.strong_induction_on generalizing levels with
  | _ n ih =>
    by_cases hended : ∀ next, ¬ Settles parents levels next
    · exact ⟨levels, h, hended⟩
    · obtain ⟨next, hstep⟩ : ∃ next, Settles parents levels next := by simpa using hended
      have hfewer := hstep.count_none
      exact ih _ (by omega) (h.tail hstep) rfl

/-- Settling places one by one comes to an end. -/
theorem exists_settled (parents : List (List Nat)) : ∃ levels, Settled parents levels :=
  exists_settled_of_run .refl

/-! ## What runs give -/

/-- Levels give no place another level than the rounds do. -/
def Agrees (parents : List (List Nat)) (levels : List (Option Nat)) : Prop :=
  ∀ i l, levels[i]?.join = some l → levelAfter parents parents.length i = some l

theorem agrees_unsettled (parents : List (List Nat)) : Agrees parents (unsettled parents) := by
  intro i l h
  simp only [unsettled, List.getElem?_map] at h
  cases hps : parents[i]? <;> simp [hps] at h

section

variable (inside : ∀ i j, HasParent parents i j → j < parents.length)
include inside

/-- As many rounds as there are places are enough. -/
theorem levelAfter_of_succ (h : levelAfter parents (parents.length + 1) i = some l) :
    levelAfter parents parents.length i = some l := by
  obtain ⟨ps, hps⟩ := exists_parents h
  have hi := (List.getElem?_eq_some_iff.1 hps).1
  exact (levelAfter_eq_some_iff inside hi).2 (longestWalk_of_levelAfter h)

/-- A settled place has the level that the rounds give it. All its parents have their levels from
the rounds, so that the next round gives this one. -/
theorem Settles.agrees (hstep : Settles parents levels next) (h : Agrees parents levels) :
    Agrees parents next := by
  cases hstep with
  | @place i l ps hnone hps hlevel =>
    intro j k hj
    rcases eq_or_ne i j with rfl | hij
    · have hi := (List.getElem?_eq_some_iff.1 hnone).1
      rw [List.getElem?_set_self hi] at hj
      have hsame : (ps.map fun p => levels[p]?.join)
          = ps.map (levelAfter parents parents.length) := by
        refine List.map_congr_left fun p hp => ?_
        obtain ⟨k, -, hk⟩ := (of_levelAbove hlevel).1 _ (List.mem_map_of_mem hp)
        rw [hk, h p k hk]
      refine levelAfter_of_succ inside ?_
      rw [levelAfter_succ hps, ← hsame, hlevel]
      exact hj
    · rw [List.getElem?_set_ne hij] at hj
      exact h j k hj

/-- In whatever order places are settled, their levels are those that the rounds give. -/
theorem Settled.agrees (h : Settled parents levels) : Agrees parents levels := by
  obtain ⟨hrun, -⟩ := h
  induction hrun with
  | refl => exact agrees_unsettled parents
  | tail _ hstep ih => exact hstep.agrees inside ih

/-- Where no step is left, each level that the rounds find has been given. The parents of a place
have lower levels and have been given theirs by induction, so that otherwise one more step would be
possible. -/
theorem Settled.complete (h : Settled parents levels)
    (hlevel : levelAfter parents parents.length i = some l) : levels[i]?.join = some l := by
  induction l using Nat.strong_induction_on generalizing i with
  | _ l ih =>
    obtain ⟨ps, hps⟩ := exists_parents hlevel
    have hi : i < levels.length := by
      rw [h.length_eq]
      exact (List.getElem?_eq_some_iff.1 hps).1
    have hget := List.getElem?_eq_getElem hi
    cases hgiven : levels[i] with
    | some k =>
      have hjoin : levels[i]?.join = some k := by rw [hget, hgiven]; rfl
      rw [hjoin, ← h.agrees inside i k hjoin, hlevel]
    | none =>
      have hsame : (ps.map fun p => levels[p]?.join)
          = ps.map (levelAfter parents parents.length) := by
        refine List.map_congr_left fun p hp => ?_
        obtain ⟨k, hk, hparent⟩ := exists_lower hlevel ⟨ps, hps, hp⟩
        rw [ih k hk hparent, hparent]
      have habove : levelAbove (ps.map fun p => levels[p]?.join) = some l := by
        rw [hsame, ← levelAfter_succ hps]
        exact levelAfter_succ_of_some hlevel
      rw [hgiven] at hget
      exact absurd (.place hget hps habove) (h.ended _)

/-- All runs to an end give the levels that the rounds find. -/
theorem Settled.eq_levelsAfter (h : Settled parents levels) :
    levels = levelsAfter parents parents.length := by
  refine List.ext_getElem? fun i => ?_
  rcases Nat.lt_or_ge i parents.length with hi | hi
  · have hlevels : i < levels.length := by rwa [h.length_eq]
    have hjoin : levels[i]?.join = levelAfter parents parents.length i :=
      Option.ext fun l => ⟨h.agrees inside i l, h.complete inside⟩
    rw [getElem?_levelsAfter hi, ← hjoin, List.getElem?_eq_getElem hlevels]
    rfl
  · rw [List.getElem?_eq_none (h.length_eq ▸ hi),
      List.getElem?_eq_none (by simpa using hi)]

end

end ClassDiagram.Schema
