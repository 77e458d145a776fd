/-!
# First occurrences

A list often names the same thing more than once, and only the first time
counts.  `firstsBy` keeps the first element with each key, in order.
-/

namespace ClassDiagram

/-- The first elements with each key that is not among the `seen` ones. -/
def firstsByFrom {α κ : Type} [DecidableEq κ] (key : α → κ) (seen : List κ) : List α → List α
  | [] => []
  | a :: r =>
      if key a ∈ seen then firstsByFrom key seen r
      else a :: firstsByFrom key (key a :: seen) r

/-- The first elements with each key, in order. -/
def firstsBy {α κ : Type} [DecidableEq κ] (key : α → κ) (l : List α) : List α :=
  firstsByFrom key [] l

/-- The distinct elements in the order of their first occurrence. -/
def firsts {α : Type} [DecidableEq α] (l : List α) : List α := firstsBy id l

/-! ## Small facts -/

section

variable {α κ : Type} [DecidableEq κ] {key : α → κ}

/-- What is kept is in the list, and its key was not seen before. -/
theorem mem_firstsByFrom {seen : List κ} {l : List α} {a : α} (h : a ∈ firstsByFrom key seen l) :
    a ∈ l ∧ key a ∉ seen := by
  induction l generalizing seen with
  | nil => simp [firstsByFrom] at h
  | cons b r ih =>
    rw [firstsByFrom] at h
    split at h
    next => exact ⟨List.mem_cons_of_mem _ (ih h).1, (ih h).2⟩
    next hb =>
      rcases List.mem_cons.1 h with rfl | h
      · exact ⟨List.mem_cons_self, hb⟩
      · exact ⟨List.mem_cons_of_mem _ (ih h).1, fun hs => (ih h).2 (List.mem_cons_of_mem _ hs)⟩

/-- Every key that is not among the seen ones is the key of an element that is kept. -/
theorem exists_mem_firstsByFrom {seen : List κ} {l : List α} {a : α} (h : a ∈ l)
    (hs : key a ∉ seen) : ∃ b ∈ firstsByFrom key seen l, key b = key a := by
  induction l generalizing seen with
  | nil => simp at h
  | cons b r ih =>
    rw [firstsByFrom]
    by_cases hab : key b = key a
    · rw [if_neg (hab ▸ hs)]
      exact ⟨b, List.mem_cons_self, hab⟩
    · have har : a ∈ r := by
        rcases List.mem_cons.1 h with rfl | h
        · exact absurd rfl hab
        · exact h
      split
      next => exact ih har hs
      next =>
        have hs' : key a ∉ key b :: seen := by simp [Ne.symm hab, hs]
        obtain ⟨c, hc, he⟩ := ih har hs'
        exact ⟨c, List.mem_cons_of_mem _ hc, he⟩

theorem nodup_map_firstsByFrom (seen : List κ) (l : List α) :
    ((firstsByFrom key seen l).map key).Nodup := by
  induction l generalizing seen with
  | nil => simp [firstsByFrom]
  | cons b r ih =>
    rw [firstsByFrom]
    split
    next => exact ih seen
    next =>
      refine List.nodup_cons.2 ⟨fun h => ?_, ih _⟩
      obtain ⟨c, hc, he⟩ := List.mem_map.1 h
      exact (mem_firstsByFrom hc).2 (by simp [he])

/-- No key is kept twice. -/
theorem nodup_map_firstsBy (l : List α) : ((firstsBy key l).map key).Nodup :=
  nodup_map_firstsByFrom [] l

theorem nodup_firsts [DecidableEq α] (l : List α) : (firsts l).Nodup := by
  have h : ((firstsBy id l).map id).Nodup := nodup_map_firstsBy l
  simpa [firsts] using h

/-- No value is lost. -/
theorem mem_firsts [DecidableEq α] {l : List α} {a : α} : a ∈ firsts l ↔ a ∈ l := by
  constructor
  · intro h
    exact (mem_firstsByFrom h).1
  · intro h
    have hs : id a ∉ ([] : List α) := by simp
    obtain ⟨b, hb, rfl⟩ := exists_mem_firstsByFrom h hs
    exact hb

theorem firstsByFrom_sublist (seen : List κ) (l : List α) :
    (firstsByFrom key seen l).Sublist l := by
  induction l generalizing seen with
  | nil => exact .refl _
  | cons b r ih =>
    rw [firstsByFrom]
    split
    next => exact (ih seen).cons b
    next => exact (ih _).cons_cons b

/-- What is kept keeps its order. -/
theorem firstsBy_sublist (l : List α) : (firstsBy key l).Sublist l := firstsByFrom_sublist [] l

/-- What is kept is the first element with its key. -/
theorem find?_of_mem_firstsByFrom {seen : List κ} {l : List α} {a : α}
    (h : a ∈ firstsByFrom key seen l) : l.find? (key · == key a) = some a := by
  induction l generalizing seen with
  | nil => cases h
  | cons b r ih =>
    have hseen := (mem_firstsByFrom h).2
    rw [firstsByFrom] at h
    split at h
    next hb =>
      have hne : key b ≠ key a := fun e => hseen (e ▸ hb)
      rw [List.find?_cons_of_neg (by simpa using hne)]
      exact ih h
    next =>
      rcases List.mem_cons.1 h with rfl | h
      · rw [List.find?_cons_of_pos (by simp)]
      · have hne : key b ≠ key a := fun e => (mem_firstsByFrom h).2 (e ▸ List.mem_cons_self)
        rw [List.find?_cons_of_neg (by simpa using hne)]
        exact ih h

/-- Only which keys were seen counts, and not in which order. -/
theorem firstsByFrom_congr {seen seen' : List κ} (h : ∀ k, k ∈ seen ↔ k ∈ seen') (l : List α) :
    firstsByFrom key seen l = firstsByFrom key seen' l := by
  induction l generalizing seen seen' with
  | nil => rfl
  | cons b r ih =>
    have hcons : ∀ k, k ∈ key b :: seen ↔ k ∈ key b :: seen' := by
      intro k
      rw [List.mem_cons, List.mem_cons, h]
    rw [firstsByFrom, firstsByFrom, ih h, ih hcons]
    by_cases hb : key b ∈ seen
    · rw [if_pos hb, if_pos ((h _).1 hb)]
    · rw [if_neg hb, if_neg (mt (h _).2 hb)]

/-- The second of two lists is gone through with the keys of the first one seen. -/
theorem firstsByFrom_append (seen : List κ) (l r : List α) :
    firstsByFrom key seen (l ++ r) = firstsByFrom key seen l
      ++ firstsByFrom key ((firstsByFrom key seen l).map key ++ seen) r := by
  induction l generalizing seen with
  | nil => rfl
  | cons b l ih =>
    rw [List.cons_append, firstsByFrom, firstsByFrom]
    split
    next => exact ih seen
    next =>
      have hseen : ∀ k, k ∈ (firstsByFrom key (key b :: seen) l).map key ++ key b :: seen ↔
          k ∈ (b :: firstsByFrom key (key b :: seen) l).map key ++ seen := by
        intro k
        simp only [List.map_cons, List.cons_append, List.mem_append, List.mem_cons, or_left_comm]
      rw [ih, List.cons_append, firstsByFrom_congr hseen]

/-- Elements whose keys were all seen add nothing. -/
theorem firstsByFrom_append_of_seen {seen : List κ} {l : List α} (h : ∀ a ∈ l, key a ∈ seen)
    (r : List α) : firstsByFrom key seen (l ++ r) = firstsByFrom key seen r := by
  induction l with
  | nil => rfl
  | cons b l ih =>
    obtain ⟨hb, hl⟩ := List.forall_mem_cons.1 h
    rw [List.cons_append, firstsByFrom, if_pos hb, ih hl]

/-- One more value is kept if its key is new. -/
theorem firstsByFrom_concat (seen : List κ) (l : List α) (a : α) :
    firstsByFrom key seen (l ++ [a]) =
      if key a ∈ seen ∨ key a ∈ l.map key then firstsByFrom key seen l
      else firstsByFrom key seen l ++ [a] := by
  induction l generalizing seen with
  | nil => simp [firstsByFrom]
  | cons b r ih =>
    rw [List.cons_append, firstsByFrom, firstsByFrom]
    split
    next hb =>
      rw [ih]
      by_cases hab : key a = key b
      · simp [hab, hb]
      · simp [hab]
    next hb =>
      rw [ih]
      by_cases hab : key a = key b
      · simp [hab]
      · simp only [List.mem_cons, hab, false_or, List.map_cons]
        split <;> rfl

/-- What is kept stands in the order in which it comes first. -/
theorem pairwise_firstsByFrom [DecidableEq α] (seen l : List α) :
    (firstsByFrom id seen l).Pairwise fun a b => l.idxOf a < l.idxOf b := by
  induction l generalizing seen with
  | nil => exact .nil
  | cons c r ih =>
    have hskip : ∀ s, c ∈ s → ∀ a ∈ firstsByFrom id s r,
        (c :: r).idxOf a = r.idxOf a + 1 := by
      intro s hc a ha
      have hne : (c == a) = false := beq_false_of_ne fun e => (mem_firstsByFrom ha).2 (e ▸ hc)
      rw [List.idxOf_cons, hne, cond_false]
    have hrest : ∀ s, c ∈ s → (firstsByFrom id s r).Pairwise fun a b =>
        (c :: r).idxOf a < (c :: r).idxOf b := by
      intro s hc
      refine (ih s).imp_of_mem fun ha hb hlt => ?_
      rw [hskip s hc _ ha, hskip s hc _ hb]
      exact Nat.succ_lt_succ hlt
    rw [firstsByFrom]
    split
    next hc => exact hrest seen hc
    next =>
      refine List.pairwise_cons.2 ⟨fun a ha => ?_, hrest _ List.mem_cons_self⟩
      rw [List.idxOf_cons_self, hskip _ List.mem_cons_self a ha]
      exact Nat.succ_pos _

/-- Values are kept in the order in which they first appear. -/
theorem pairwise_firsts [DecidableEq α] (l : List α) :
    (firsts l).Pairwise fun a b => l.idxOf a < l.idxOf b :=
  pairwise_firstsByFrom [] l

theorem firsts_concat [DecidableEq α] (l : List α) (a : α) :
    firsts (l ++ [a]) = if a ∈ l then firsts l else firsts l ++ [a] := by
  have h : ([] : List α).map id = [] := rfl
  simpa [firsts, firstsBy] using @firstsByFrom_concat α α _ id [] l a

end

end ClassDiagram
