/-!
# Ordered maps

A map that remembers the order in which its keys were first inserted.  Inserting
under a key that is present replaces the value and keeps the place, and a new
key goes to the end.

The map is a list of pairs in which no key comes twice.  `keys_insert` and
`get?_insert` say what an insertion does to the order of the keys and to the
values, and nothing else about it is needed.
-/

namespace ClassDiagram

/-- A map that remembers the order in which its keys were first inserted. -/
@[ext] structure OrderedMap (κ : Type) (α : Type) where
  /-- The pairs of a key and its value, in order. -/
  toList : List (κ × α)
  /-- No key comes twice. -/
  nodup_keys : (toList.map Prod.fst).Nodup

namespace OrderedMap

variable {κ α β : Type} [DecidableEq κ]

instance [DecidableEq α] : DecidableEq (OrderedMap κ α) := fun m n =>
  decidable_of_iff (m.toList = n.toList) ⟨OrderedMap.ext, fun h => h ▸ rfl⟩

/-! ## Lists of pairs -/

/-- The pairs with a value put under a key. -/
def insertPair (k : κ) (a : α) : List (κ × α) → List (κ × α)
  | [] => [(k, a)]
  | (k', a') :: r => if k' = k then (k, a) :: r else (k', a') :: insertPair k a r

/-- A new key goes to the end, and an old one keeps its place. -/
theorem map_fst_insertPair (k : κ) (a : α) (l : List (κ × α)) :
    (insertPair k a l).map Prod.fst
      = if k ∈ l.map Prod.fst then l.map Prod.fst else l.map Prod.fst ++ [k] := by
  induction l with
  | nil => rfl
  | cons p r ih =>
    rw [insertPair]
    split
    next h => simp [h]
    next h =>
      have : k ≠ p.1 := fun e => h e.symm
      simp only [List.map_cons, ih, List.mem_cons, this, false_or]
      split <;> simp

/-- The value of the first pair with a key. -/
def findPair (k : κ) : List (κ × α) → Option α
  | [] => none
  | (k', a) :: r => if k' = k then some a else findPair k r

/-- What is inserted is found at its key, and nothing else is changed. -/
theorem findPair_insertPair (k : κ) (a : α) (l : List (κ × α)) (j : κ) :
    findPair j (insertPair k a l) = if j = k then some a else findPair j l := by
  induction l with
  | nil => simp [insertPair, findPair, eq_comm]
  | cons p r ih =>
    rw [insertPair]
    split
    next h =>
      subst h
      by_cases hj : p.1 = j
      · simp [findPair, hj]
      · simp [findPair, hj, Ne.symm hj]
    next h =>
      by_cases hj : p.1 = j
      · subst hj
        simp [findPair, h]
      · simp [findPair, hj, ih]

theorem mem_of_findPair {l : List (κ × α)} {k : κ} {a : α} (h : findPair k l = some a) :
    (k, a) ∈ l := by
  induction l with
  | nil => simp [findPair] at h
  | cons p r ih =>
    rw [findPair] at h
    split at h
    next e =>
      obtain ⟨k', a'⟩ := p
      simp_all
    next => exact List.mem_cons_of_mem _ (ih h)

/-- A key has a value if it is there. -/
theorem isSome_findPair_iff {l : List (κ × α)} {k : κ} :
    (findPair k l).isSome ↔ k ∈ l.map Prod.fst := by
  induction l with
  | nil => simp [findPair]
  | cons p r ih =>
    rw [findPair]
    split
    next e => simp [e]
    next e => simp [ih, Ne.symm e]

/-! ## Maps -/

/-- The map without keys. -/
def empty : OrderedMap κ α := ⟨[], List.nodup_nil⟩

instance : EmptyCollection (OrderedMap κ α) := ⟨empty⟩

instance : Inhabited (OrderedMap κ α) := ⟨empty⟩

/-- The keys, in order. -/
def keys (m : OrderedMap κ α) : List κ := m.toList.map Prod.fst

/-- The values, in the order of their keys. -/
def values (m : OrderedMap κ α) : List α := m.toList.map Prod.snd

/-- The number of keys. -/
def size (m : OrderedMap κ α) : Nat := m.toList.length

/-- The map has no keys. -/
def isEmpty (m : OrderedMap κ α) : Bool := m.toList.isEmpty

/-- The value under a key. -/
def get? (m : OrderedMap κ α) (k : κ) : Option α := findPair k m.toList

/-- The map has a value under a key. -/
def contains (m : OrderedMap κ α) (k : κ) : Bool := (m.get? k).isSome

/-- The map with a value put under a key. -/
def insert (m : OrderedMap κ α) (k : κ) (a : α) : OrderedMap κ α where
  toList := insertPair k a m.toList
  nodup_keys := by
    have h := m.nodup_keys
    rw [map_fst_insertPair]
    split
    next => exact h
    next hk =>
      refine List.nodup_append.2 ⟨h, by simp, fun x hx y hy e => hk ?_⟩
      rw [← List.mem_singleton.1 hy, ← e]
      exact hx

/-- The map with every value replaced by its image. -/
def mapValues (f : α → β) (m : OrderedMap κ α) : OrderedMap κ β where
  toList := m.toList.map fun (k, a) => (k, f a)
  nodup_keys := by simpa [Function.comp_def] using m.nodup_keys

/-- The map with the value under one key replaced by its image. -/
def modify (m : OrderedMap κ α) (k : κ) (f : α → α) : OrderedMap κ α where
  toList := m.toList.map fun (j, a) => (j, if j = k then f a else a)
  nodup_keys := by simpa [Function.comp_def] using m.nodup_keys

/-- The map with the pairs of a list inserted from left to right. -/
def ofList (l : List (κ × α)) : OrderedMap κ α := l.foldl (fun m (k, a) => m.insert k a) ∅

/-! ## Small facts -/

omit [DecidableEq κ] in
@[simp] theorem keys_empty : (∅ : OrderedMap κ α).keys = [] := rfl

@[simp] theorem get?_empty (k : κ) : (∅ : OrderedMap κ α).get? k = none := rfl

/-- A new key goes to the end, and an old one keeps its place. -/
theorem keys_insert (m : OrderedMap κ α) (k : κ) (a : α) :
    (m.insert k a).keys = if k ∈ m.keys then m.keys else m.keys ++ [k] :=
  map_fst_insertPair k a m.toList

/-- What is inserted is found at its key, and nothing else is changed. -/
theorem get?_insert (m : OrderedMap κ α) (k : κ) (a : α) (j : κ) :
    (m.insert k a).get? j = if j = k then some a else m.get? j :=
  findPair_insertPair k a m.toList j

theorem contains_iff_mem_keys (m : OrderedMap κ α) (k : κ) : m.contains k = true ↔ k ∈ m.keys :=
  isSome_findPair_iff

omit [DecidableEq κ] in
@[simp] theorem keys_mapValues (f : α → β) (m : OrderedMap κ α) :
    (m.mapValues f).keys = m.keys := by
  simp [keys, mapValues, Function.comp_def]

/-- Changing a value changes no key. -/
@[simp] theorem keys_modify (m : OrderedMap κ α) (k : κ) (f : α → α) :
    (m.modify k f).keys = m.keys := by
  simp [keys, modify, Function.comp_def]

/-- Only the value at the key is changed, if there is one. -/
theorem get?_modify (m : OrderedMap κ α) (k : κ) (f : α → α) (j : κ) :
    (m.modify k f).get? j = if j = k then (m.get? j).map f else m.get? j := by
  simp only [get?, modify]
  induction m.toList with
  | nil => simp [findPair]
  | cons p r ih =>
    by_cases hj : p.1 = j
    · subst hj
      by_cases hk : p.1 = k <;> simp [findPair, hk]
    · simp [findPair, hj, ih]

end OrderedMap

end ClassDiagram
