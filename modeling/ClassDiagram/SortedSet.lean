/-!
# Sorted sets of texts

A set of texts is a list without repetitions in increasing order of code points,
so two sets with the same members are equal.
-/

namespace ClassDiagram

/-- A set of texts, listed in increasing order. -/
@[ext] structure SortedSet where
  /-- The members, in increasing order. -/
  toList : List String
  /-- Every member comes before all larger ones. -/
  sorted : toList.Pairwise (· < ·)
deriving DecidableEq

namespace SortedSet

/-- The members with one more put in its place. -/
def insertSorted (s : String) : List String → List String
  | [] => [s]
  | t :: r => if s < t then s :: t :: r else if s = t then t :: r else t :: insertSorted s r

/-- The new text is a member, and so are the old ones. -/
theorem mem_insertSorted {s x : String} {l : List String} :
    x ∈ insertSorted s l ↔ x = s ∨ x ∈ l := by
  induction l with
  | nil => simp [insertSorted]
  | cons t r ih =>
    rw [insertSorted]
    split
    · simp
    · split
      next h => simp [h]
      next => simp only [List.mem_cons, ih, or_left_comm]

/-- The place of the new text is found by the order. -/
theorem pairwise_insertSorted {s : String} {l : List String} (h : l.Pairwise (· < ·)) :
    (insertSorted s l).Pairwise (· < ·) := by
  induction l with
  | nil => simp [insertSorted]
  | cons t r ih =>
    have ⟨ht, hr⟩ := List.pairwise_cons.1 h
    rw [insertSorted]
    split
    next hs =>
      refine List.pairwise_cons.2 ⟨fun x hx => ?_, h⟩
      rcases List.mem_cons.1 hx with rfl | hx
      · exact hs
      · exact String.lt_trans hs (ht x hx)
    next hs =>
      split
      next => exact h
      next hne =>
        refine List.pairwise_cons.2 ⟨fun x hx => ?_, ih hr⟩
        rcases mem_insertSorted.1 hx with rfl | hx
        · exact Std.lt_of_le_of_ne (String.not_lt.1 hs) (Ne.symm hne)
        · exact ht x hx

/-- The set without members. -/
def empty : SortedSet := ⟨[], List.Pairwise.nil⟩

instance : EmptyCollection SortedSet := ⟨empty⟩

instance : Inhabited SortedSet := ⟨empty⟩

instance : Membership String SortedSet := ⟨fun m s => s ∈ m.toList⟩

/-- The set with one more member. -/
def insert (m : SortedSet) (s : String) : SortedSet :=
  ⟨insertSorted s m.toList, pairwise_insertSorted m.sorted⟩

/-! ## Small facts -/

/-- A text greater than all others goes to the end. -/
theorem insertSorted_of_forall_lt {s : String} {l : List String} (h : ∀ t ∈ l, t < s) :
    insertSorted s l = l ++ [s] := by
  induction l with
  | nil => rfl
  | cons t r ih =>
    obtain ⟨ht, hr⟩ := List.forall_mem_cons.1 h
    have hst : ¬ s < t := fun hst => String.lt_irrefl s (String.lt_trans hst ht)
    have hne : s ≠ t := fun he => String.lt_irrefl s (he ▸ ht)
    rw [insertSorted, if_neg hst, if_neg hne, ih hr]
    rfl

/-- Texts that come in increasing order, and after all that are there, go to the end. -/
theorem toList_foldl_insert (m : SortedSet) {l : List String} (hl : l.Pairwise (· < ·))
    (h : ∀ t ∈ m, ∀ s ∈ l, t < s) : (l.foldl insert m).toList = m.toList ++ l := by
  induction l generalizing m with
  | nil => exact (List.append_nil _).symm
  | cons s r ih =>
    obtain ⟨hs, hr⟩ := List.pairwise_cons.1 hl
    have hinsert : (m.insert s).toList = m.toList ++ [s] :=
      insertSorted_of_forall_lt fun t ht => h t ht s List.mem_cons_self
    have hafter : ∀ t ∈ m.insert s, ∀ u ∈ r, t < u := by
      intro t ht u hu
      cases mem_insertSorted.1 ht with
      | inl he => exact he ▸ hs u hu
      | inr hm => exact h t hm u (List.mem_cons_of_mem _ hu)
    rw [List.foldl_cons, ih _ hr hafter, hinsert, List.append_assoc]
    rfl

/-- A set is made up of its members in order. -/
theorem foldl_insert_toList (m : SortedSet) : m.toList.foldl insert ∅ = m :=
  SortedSet.ext (toList_foldl_insert ∅ m.sorted nofun)

theorem mem_insert {m : SortedSet} {s x : String} : x ∈ m.insert s ↔ x = s ∨ x ∈ m :=
  mem_insertSorted

end SortedSet

end ClassDiagram
