import Mathlib.Algebra.Order.BigOperators.Group.List
import Mathlib.Algebra.Order.Ring.Nat
import Mathlib.Data.Finset.Basic
import Mathlib.Data.List.Basic
import Mathlib.Data.List.Nodup
import ClassDiagram.OrderedMap

/-!
# The algebra of ordered maps

An ordered map is settled by the order of its keys and by what it answers for
each of them (`ext_get?`).  So two insertions under different keys may change
places when at least one of the keys is there already (`insert_comm`), and an
insertion of what is there changes nothing (`insert_self`).

`put` writes to a place that may stay empty, and `total` adds up a measure of
the entries.  `total_put` is the one law of sums that is needed: it follows a
measure that changes at the key that is written and nowhere else.
-/

namespace ClassDiagram.OrderedMap

variable {κ α β : Type} [DecidableEq κ]

/-! ## Keys and answers -/

/-- The keys are those with a value. -/
theorem mem_keys_iff (m : OrderedMap κ α) (k : κ) : k ∈ m.keys ↔ ∃ a, m.get? k = some a := by
  rw [← contains_iff_mem_keys, contains, Option.isSome_iff_exists]

theorem mem_keys_of_get? {m : OrderedMap κ α} {k : κ} {a : α} (h : m.get? k = some a) :
    k ∈ m.keys :=
  (mem_keys_iff m k).2 ⟨a, h⟩

/-- Where no key comes twice, a pair is found by its key. -/
theorem findPair_eq_some_of_mem {l : List (κ × α)} (nodup : (l.map Prod.fst).Nodup) {k : κ} {a : α}
    (h : (k, a) ∈ l) : findPair k l = some a := by
  induction l with
  | nil => cases h
  | cons p r ih =>
    obtain ⟨hp, hr⟩ := List.nodup_cons.1 nodup
    cases List.mem_cons.1 h with
    | inl he =>
      rw [← he]
      exact if_pos rfl
    | inr hm =>
      have hne : p.1 ≠ k := fun e => hp (e ▸ List.mem_map_of_mem (f := Prod.fst) hm)
      rw [findPair, if_neg hne]
      exact ih hr hm

theorem mem_toList_iff (m : OrderedMap κ α) (k : κ) (a : α) :
    (k, a) ∈ m.toList ↔ m.get? k = some a :=
  ⟨findPair_eq_some_of_mem m.nodup_keys, mem_of_findPair⟩

/-- The values are those of some key. -/
theorem mem_values_iff (m : OrderedMap κ α) (a : α) :
    a ∈ m.values ↔ ∃ k, m.get? k = some a := by
  simp only [values, List.mem_map, Prod.exists, exists_eq_right, mem_toList_iff]

/-- Lists of pairs without a key that comes twice are equal when their keys come in
the same order and have the same values. -/
theorem eq_of_findPair_eq {l r : List (κ × α)} (nodup : (l.map Prod.fst).Nodup)
    (keys : l.map Prod.fst = r.map Prod.fst) (values : ∀ k, findPair k l = findPair k r) :
    l = r := by
  induction l generalizing r with
  | nil => exact (List.map_eq_nil_iff.1 keys.symm).symm
  | cons p l ih =>
    obtain ⟨k, a⟩ := p
    cases r with
    | nil => cases keys
    | cons q r =>
      obtain ⟨k', b⟩ := q
      obtain ⟨hk, hr⟩ := List.cons_eq_cons.1 keys
      obtain ⟨hl, nodup'⟩ := List.nodup_cons.1 nodup
      have hk' : k = k' := hk
      subst hk'
      have hab : a = b := by simpa [findPair] using values k
      subst hab
      refine congrArg _ (ih nodup' hr fun j => ?_)
      by_cases hj : k = j
      · subst hj
        have h1 : findPair k l = none := by
          rw [← Option.not_isSome_iff_eq_none, isSome_findPair_iff]
          exact hl
        have h2 : findPair k r = none := by
          rw [← Option.not_isSome_iff_eq_none, isSome_findPair_iff, ← hr]
          exact hl
        rw [h1, h2]
      · simpa [findPair, hj] using values j

/-- A map is settled by the order of its keys and by its answers. -/
theorem ext_get? {m n : OrderedMap κ α} (keys : m.keys = n.keys)
    (answers : ∀ k, m.get? k = n.get? k) : m = n :=
  OrderedMap.ext (eq_of_findPair_eq m.nodup_keys keys answers)

/-- A value that is mapped is found at its key. -/
theorem get?_mapValues (f : α → β) (m : OrderedMap κ α) (k : κ) :
    (m.mapValues f).get? k = (m.get? k).map f := by
  simp only [get?, mapValues]
  induction m.toList with
  | nil => rfl
  | cons p r ih =>
    by_cases h : p.1 = k
    · simp [findPair, h]
    · simp [findPair, h, ih]

omit [DecidableEq κ] in
@[simp] theorem values_mapValues (f : α → β) (m : OrderedMap κ α) :
    (m.mapValues f).values = m.values.map f := by
  simp [values, mapValues, Function.comp_def]

omit [DecidableEq κ] in
@[simp] theorem length_keys (m : OrderedMap κ α) : m.keys.length = m.size := by
  simp [keys, size]

/-! ## Insertions -/

/-- Inserting what is there changes nothing. -/
theorem insert_self {m : OrderedMap κ α} {k : κ} {a : α} (h : m.get? k = some a) :
    m.insert k a = m := by
  refine ext_get? ?_ fun j => ?_
  · rw [keys_insert, if_pos (mem_keys_of_get? h)]
  · rw [get?_insert]
    split
    next hj => rw [hj, h]
    next => rfl

/-- Insertions under different keys may change places, unless both keys are new. -/
theorem insert_comm {m : OrderedMap κ α} {k j : κ} (ne : k ≠ j) (present : k ∈ m.keys ∨ j ∈ m.keys)
    (a b : α) : (m.insert k a).insert j b = (m.insert j b).insert k a := by
  refine ext_get? ?_ fun i => ?_
  · cases present with
    | inl hk => by_cases hj : j ∈ m.keys <;> simp [keys_insert, hk, hj]
    | inr hj => by_cases hk : k ∈ m.keys <;> simp [keys_insert, hk, hj]
  · simp only [get?_insert]
    by_cases hi : i = j
    · have hk : i ≠ k := fun e => ne (e ▸ hi)
      rw [if_pos hi, if_neg hk, if_pos hi]
    · simp [hi]

theorem insertPair_of_notMem {k : κ} {l : List (κ × α)} (h : k ∉ l.map Prod.fst) (a : α) :
    insertPair k a l = l ++ [(k, a)] := by
  induction l with
  | nil => rfl
  | cons p r ih =>
    obtain ⟨hp, hr⟩ := not_or.1 (mt List.mem_cons.2 h)
    have hne : p.1 ≠ k := fun e => hp e.symm
    rw [insertPair, if_neg hne, ih hr]
    rfl

/-- A new key goes to the end. -/
theorem toList_insert_of_notMem {m : OrderedMap κ α} {k : κ} (h : k ∉ m.keys) (a : α) :
    (m.insert k a).toList = m.toList ++ [(k, a)] :=
  insertPair_of_notMem h a

theorem values_insert_of_notMem {m : OrderedMap κ α} {k : κ} (h : k ∉ m.keys) (a : α) :
    (m.insert k a).values = m.values ++ [a] := by
  rw [values, toList_insert_of_notMem h, List.map_append]
  rfl

theorem eq_or_mem_of_mem_values_insert {m : OrderedMap κ α} {k : κ} {a x : α}
    (h : x ∈ (m.insert k a).values) : x = a ∨ x ∈ m.values := by
  obtain ⟨j, hj⟩ := (mem_values_iff _ _).1 h
  rw [get?_insert] at hj
  split at hj
  next => exact Or.inl (Option.some.inj hj).symm
  next => exact Or.inr ((mem_values_iff _ _).2 ⟨j, hj⟩)

/-! ## Maps whose keys are the numbers from zero on -/

/-- The keys are the numbers below the size, in order. -/
def Numbered (m : OrderedMap Nat α) : Prop := m.keys = List.range m.size

theorem numbered_empty : Numbered (∅ : OrderedMap Nat α) := rfl

/-- The size is the first number that is free. -/
theorem Numbered.notMem_keys {m : OrderedMap Nat α} (h : m.Numbered) : m.size ∉ m.keys := by
  rw [h, List.mem_range]
  exact Nat.lt_irrefl _

/-- An insertion under the next number or an earlier one keeps the numbers. -/
theorem Numbered.keys_insert {m : OrderedMap Nat α} (h : m.Numbered) {n : Nat} (hn : n ≤ m.size)
    (a : α) : (m.insert n a).keys = List.range (max m.size (n + 1)) := by
  rw [OrderedMap.keys_insert, h]
  split
  next hlt =>
    rw [Nat.max_eq_left (List.mem_range.1 hlt)]
  next hge =>
    have hsize : n = m.size := Nat.le_antisymm hn (Nat.le_of_not_lt (mt List.mem_range.2 hge))
    rw [hsize, Nat.max_eq_right (Nat.le_succ _), List.range_succ]

/-- A number that is in use, or the first free one, makes the map as long as needed. -/
theorem Numbered.size_insert {m : OrderedMap Nat α} (h : m.Numbered) {n : Nat} (hn : n ≤ m.size)
    (a : α) : (m.insert n a).size = max m.size (n + 1) := by
  rw [← length_keys, h.keys_insert hn, List.length_range]

theorem Numbered.insert {m : OrderedMap Nat α} (h : m.Numbered) {n : Nat} (hn : n ≤ m.size)
    (a : α) : (m.insert n a).Numbered := by
  rw [Numbered, h.keys_insert hn, h.size_insert hn]

/-! ## Leaving out keys -/

/-- The map without some keys. -/
def without (m : OrderedMap κ α) (removed : Finset κ) : OrderedMap κ α where
  toList := m.toList.filter fun p => p.1 ∉ removed
  nodup_keys := m.nodup_keys.sublist (List.filter_sublist.map Prod.fst)

omit [DecidableEq κ] in
/-- A key stands in one place only. -/
theorem eq_of_toList_eq {m : OrderedMap κ α} {k : κ} {before after before' after' : List (κ × α)}
    {a a' : α} (h : m.toList = before ++ (k, a) :: after)
    (h' : m.toList = before' ++ (k, a') :: after') : before = before' ∧ a = a' := by
  have hnodup := m.nodup_keys
  rw [h, List.map_append, List.map_cons, List.nodup_middle, List.nodup_cons] at hnodup
  have hnotMem : k ∉ before.map Prod.fst ∧ k ∉ after.map Prod.fst := by
    simpa only [List.mem_append, not_or] using hnodup.1
  have hbefore : (k, a') ∉ before := fun hmem => hnotMem.1 (List.mem_map_of_mem hmem)
  have hafter : (k, a') ∉ after := fun hmem => hnotMem.2 (List.mem_map_of_mem hmem)
  have heq := (List.append_cons_inj_of_notMem hbefore hafter).1 (h.symm.trans h')
  exact ⟨heq.1, congrArg Prod.snd heq.2.1⟩

/-! ## Writing to a place that may stay empty -/

/-- The map with a value put under a key, if there is one. -/
def put (m : OrderedMap κ α) (k : κ) : Option α → OrderedMap κ α
  | none => m
  | some a => m.insert k a

/-- A place that is put back as it was leaves the map as it was. -/
theorem put_get? (m : OrderedMap κ α) (k : κ) : m.put k (m.get? k) = m := by
  cases h : m.get? k with
  | none => rfl
  | some a => exact insert_self h

theorem get?_put_of_ne (m : OrderedMap κ α) {k j : κ} (ne : j ≠ k) (slot : Option α) :
    (m.put k slot).get? j = m.get? j := by
  cases slot with
  | none => rfl
  | some a => rw [put, get?_insert, if_neg ne]

/-- Writes to different places may change places, unless both make a new key. -/
theorem put_comm {m : OrderedMap κ α} {k j : κ} (ne : k ≠ j) {x y : Option α}
    (present : x = none ∨ y = none ∨ k ∈ m.keys ∨ j ∈ m.keys) :
    (m.put k x).put j y = (m.put j y).put k x := by
  cases x with
  | none => rfl
  | some a =>
    cases y with
    | none => rfl
    | some b => exact insert_comm ne (by simpa using present) a b

/-! ## Sums -/

/-- The sum of a measure of the entries. -/
def total (m : OrderedMap κ α) (f : κ → α → Nat) : Nat := (m.toList.map fun p => f p.1 p.2).sum

/-- A total goes by the values that are there. -/
theorem total_congr {m : OrderedMap κ α} {f g : κ → α → Nat}
    (h : ∀ k a, m.get? k = some a → f k a = g k a) : m.total f = m.total g := by
  refine congrArg List.sum (List.map_congr_left fun p hp => ?_)
  exact h p.1 p.2 ((mem_toList_iff m p.1 p.2).1 hp)

omit [DecidableEq κ] in
theorem total_one (m : OrderedMap κ α) : m.total (fun _ _ => 1) = m.size := by
  rw [total, List.map_const', List.sum_replicate_nat, Nat.mul_one]
  rfl

omit [DecidableEq κ] in
/-- Values may be mapped before they are counted. -/
theorem total_mapValues (f : α → β) (m : OrderedMap κ α) (g : κ → β → Nat) :
    (m.mapValues f).total g = m.total fun k a => g k (f a) := by
  rw [total, mapValues, List.map_map]
  rfl

/-- The new value is counted in the place of the old one. -/
theorem sum_insertPair {f g : κ → α → Nat} {k : κ} (same : ∀ j a, j ≠ k → g j a = f j a) (a : α)
    {l : List (κ × α)} (nodup : (l.map Prod.fst).Nodup) :
    ((insertPair k a l).map fun p => g p.1 p.2).sum + ((findPair k l).map (f k)).getD 0
      = (l.map fun p => f p.1 p.2).sum + g k a := by
  induction l with
  | nil => simp [insertPair, findPair]
  | cons p r ih =>
    obtain ⟨hp, hr⟩ := List.nodup_cons.1 nodup
    by_cases h : p.1 = k
    · have hrest : (r.map fun p => g p.1 p.2) = r.map fun p => f p.1 p.2 := by
        refine List.map_congr_left fun q hq => same q.1 q.2 fun e => hp ?_
        rw [h, ← e]
        exact List.mem_map_of_mem (f := Prod.fst) hq
      rw [insertPair, findPair, if_pos h, if_pos h, List.map_cons, List.map_cons, hrest, ← h]
      simp only [List.sum_cons, Option.map_some, Option.getD_some]
      omega
    · have := ih hr
      simp only [insertPair, findPair, if_neg h, List.map_cons, List.sum_cons, same p.1 p.2 h]
      omega

/-- A write under a key takes out what was there before and adds what is there now.
The measure may change at that key. -/
theorem total_insert {f g : κ → α → Nat} (m : OrderedMap κ α) {k : κ}
    (same : ∀ j a, j ≠ k → g j a = f j a) (a : α) :
    (m.insert k a).total g + ((m.get? k).map (f k)).getD 0 = m.total f + g k a :=
  sum_insertPair same a m.nodup_keys

/-- A sum of smaller numbers is as great only if none of them is smaller. -/
theorem sum_map_eq_sum_map_iff {γ : Type} {f g : γ → Nat} {l : List γ} (le : ∀ c ∈ l, f c ≤ g c) :
    (l.map f).sum = (l.map g).sum ↔ ∀ c ∈ l, f c = g c := by
  induction l with
  | nil => simp
  | cons c r ih =>
    obtain ⟨hc, hr⟩ := List.forall_mem_cons.1 le
    have hsum : (r.map f).sum ≤ (r.map g).sum := List.sum_le_sum hr
    rw [List.forall_mem_cons, ← ih hr, List.map_cons, List.map_cons, List.sum_cons, List.sum_cons]
    omega

theorem total_le_total {m : OrderedMap κ α} {f g : κ → α → Nat}
    (le : ∀ k a, m.get? k = some a → f k a ≤ g k a) : m.total f ≤ m.total g :=
  List.sum_le_sum fun p hp => le p.1 p.2 ((mem_toList_iff m p.1 p.2).1 hp)

/-- Two measures of which one is nowhere greater have the same sum exactly when they
agree at every entry. -/
theorem total_eq_total_iff {m : OrderedMap κ α} {f g : κ → α → Nat}
    (le : ∀ k a, m.get? k = some a → f k a ≤ g k a) :
    m.total f = m.total g ↔ ∀ k a, m.get? k = some a → f k a = g k a := by
  have le' : ∀ p ∈ m.toList, f p.1 p.2 ≤ g p.1 p.2 := fun p hp =>
    le p.1 p.2 ((mem_toList_iff m p.1 p.2).1 hp)
  have key : m.total f = m.total g ↔ ∀ p ∈ m.toList, f p.1 p.2 = g p.1 p.2 :=
    sum_map_eq_sum_map_iff le'
  rw [key]
  constructor
  · intro h k a hk
    exact h (k, a) ((mem_toList_iff m k a).2 hk)
  · intro h p hp
    exact h p.1 p.2 ((mem_toList_iff m p.1 p.2).1 hp)

end ClassDiagram.OrderedMap
