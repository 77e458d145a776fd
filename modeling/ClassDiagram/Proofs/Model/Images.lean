import ClassDiagram.Proofs.Model.Embedding

/-!
# Models that hold a model

Three changes leave a model within the changed one: other cells for its entities, a
new access for all its properties, and one more entity.

The cells of a diagram are names that its author did not choose.  They are replaced in
the keys and in all links, and no two that stand in the model become one.  A cell
without an entity stays one then, since the cells with entities keep theirs.

What speaks of an entity is a link to its cell, the type of a property, of a parameter
or of what a method returns, or a table that is referred to.  In a closed model no link
leads to a new cell, so a new entity must only have a name that no member mentions.
The links of the new entity may lead anywhere.
-/

namespace ClassDiagram

/-! ## Maps under other keys -/

namespace OrderedMap

variable {κ κ' α : Type}

/-- The map with every key replaced by its image. -/
def mapKeys (m : OrderedMap κ α) (f : κ → κ') (hf : Set.InjOn f {k | k ∈ m.keys}) :
    OrderedMap κ' α where
  toList := m.toList.map fun (k, a) => (f k, a)
  nodup_keys := by
    have hkeys : (m.toList.map fun (k, a) => (f k, a)).map Prod.fst = m.keys.map f := by
      simp [keys, Function.comp_def]
    rw [hkeys]
    exact m.nodup_keys.map_on fun _ hj _ hk h => hf hj hk h

@[simp] theorem values_mapKeys (m : OrderedMap κ α) (f : κ → κ')
    (hf : Set.InjOn f {k | k ∈ m.keys}) : (m.mapKeys f hf).values = m.values := by
  simp [values, mapKeys, Function.comp_def]

/-- What stands at a key stands at the image of the key, which is the image of no other. -/
theorem get?_mapKeys [DecidableEq κ] [DecidableEq κ'] (m : OrderedMap κ α) {f : κ → κ'}
    (hf : Set.InjOn f {k | k ∈ m.keys}) {k : κ} (hk : ∀ j ∈ m.keys, f j = f k → j = k) :
    (m.mapKeys f hf).get? (f k) = m.get? k := by
  show findPair (f k) (m.toList.map fun (k, a) => (f k, a)) = findPair k m.toList
  revert hk
  rw [keys]
  induction m.toList with
  | nil => exact fun _ => rfl
  | cons p r ih =>
    intro hk
    obtain ⟨hp, hr⟩ := List.forall_mem_cons.1 hk
    rw [List.map_cons, findPair, findPair, ih hr]
    by_cases h : p.1 = k
    · rw [if_pos h, if_pos (congrArg f h)]
    · rw [if_neg h, if_neg (mt hp h)]

end OrderedMap

/-! ## Other cells -/

/-- The entity with its links to the images of the cells. -/
def Entity.rename (f : String → String) (e : Entity) : Entity :=
  { e with links := e.links.mapIds f }

namespace Model

/-- The model with every cell replaced by its image, in the keys and in all links. -/
def rename (m : Model) (f : String → String) (hf : Set.InjOn f {id | id ∈ m.ids}) : Model :=
  ⟨(m.entities.mapValues (Entity.rename f)).mapKeys f
    (hf.mono fun _ h => List.mem_append_left _ (OrderedMap.keys_mapValues _ _ ▸ h))⟩

variable {m : Model} {f : String → String} (hf : Set.InjOn f {id | id ∈ m.ids})

theorem values_rename :
    (m.rename f hf).entities.values = m.entities.values.map (Entity.rename f) := by
  rw [rename, OrderedMap.values_mapKeys, OrderedMap.values_mapValues]

theorem get?_rename {id : String} (hid : id ∈ m.ids) :
    (m.rename f hf).get? (f id) = (m.get? id).map (Entity.rename f) := by
  rw [rename, get?, OrderedMap.get?_mapKeys, OrderedMap.get?_mapValues]
  · rfl
  · intro j hj h
    rw [OrderedMap.keys_mapValues] at hj
    exact hf (List.mem_append_left _ hj) hid h

/-- A model is found in itself when its cells are renamed. -/
def Embedding.rename : m.Embedding (m.rename f hf) where
  onId := f
  onProperty := id
  onEntity := Entity.rename f
  hidden _ := rfl
  kind _ := rfl
  name _ := rfl
  propertyList e := (List.map_id e.propertyList).symm
  methodList _ := rfl
  links _ := rfl
  injOn := hf
  get? _ hid := get?_rename hf hid
  named? name _ := named?_of_values (f := Entity.rename f) (fun _ => rfl) (values_rename hf) name

end Model

/-! ## Hidden properties -/

/-- The entity with all properties for its own class only. -/
def Entity.hidden (e : Entity) : Entity :=
  { e with properties := e.properties.mapValues Property.hidden }

/-- The model with all properties for their own class only. -/
def Model.hidden (m : Model) : Model := ⟨m.entities.mapValues Entity.hidden⟩

theorem Model.values_hidden (m : Model) :
    m.hidden.entities.values = m.entities.values.map Entity.hidden :=
  OrderedMap.values_mapValues _ _

/-- A model is found in itself when its properties are hidden. -/
def Model.Embedding.hide (m : Model) : m.Embedding m.hidden where
  onId := id
  onProperty := Property.hidden
  onEntity := Entity.hidden
  hidden _ := rfl
  kind _ := rfl
  name _ := rfl
  propertyList _ := OrderedMap.values_mapValues _ _
  methodList _ := rfl
  links e := e.links.mapIds_id.symm
  injOn := Set.injOn_id _
  get? _ _ := OrderedMap.get?_mapValues _ _ _
  named? name _ := named?_of_values (f := Entity.hidden) (fun _ => rfl) m.values_hidden name

/-! ## One more entity -/

namespace Model

variable {m : Model} {id : String} {new : Entity}

/-- In a closed model every id that occurs is that of an entity. -/
theorem LinksClosed.contains_of_mem_ids (closed : m.LinksClosed) {id : String} (h : id ∈ m.ids) :
    m.contains id = true := by
  rcases List.mem_append.1 h with hkey | hlink
  · exact (OrderedMap.contains_iff_mem_keys _ _).2 hkey
  · obtain ⟨e, he, hid⟩ := List.mem_flatMap.1 hlink
    obtain ⟨key, hget⟩ := (OrderedMap.mem_values_iff _ _).1 he
    exact closed key e hget id hid

/-- A new entity comes after the others. -/
theorem values_insert (fresh : m.contains id = false) (new : Entity) :
    (m.insert id new).entities.values = m.entities.values ++ [new] := by
  refine OrderedMap.values_insert_of_notMem (fun hkey => ?_) new
  rw [contains, (OrderedMap.contains_iff_mem_keys _ _).2 hkey] at fresh
  cases fresh

/-- A closed model is found in itself with one more entity that it does not mention. -/
def Embedding.insert (closed : m.LinksClosed) (fresh : m.contains id = false)
    (unmentioned : new.name ∉ m.mentions) : m.Embedding (m.insert id new) where
  onId := fun id => id
  onProperty := fun p => p
  onEntity := fun e => e
  hidden _ := rfl
  kind _ := rfl
  name _ := rfl
  propertyList e := (List.map_id e.propertyList).symm
  methodList _ := rfl
  links e := e.links.mapIds_id.symm
  injOn := Set.injOn_id _
  get? other hother := by
    have hne : other ≠ id := by
      rintro rfl
      exact Bool.false_ne_true (fresh.symm.trans (closed.contains_of_mem_ids hother))
    rw [Option.map_id']
    exact (OrderedMap.get?_insert _ _ _ _).trans (if_neg hne)
  named? name hname := by
    have hne : (new.name == name) = false := beq_false_of_ne fun h => unmentioned (h ▸ hname)
    rw [Option.map_id', named?_eq, named?_eq, values_insert fresh, List.find?_append,
      List.find?_cons_of_neg (by simp [hne]), List.find?_nil, Option.or_none]

end Model

end ClassDiagram
