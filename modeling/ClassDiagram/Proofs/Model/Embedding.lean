import Mathlib.Data.Set.Function
import ClassDiagram.Model.Dependency
import ClassDiagram.Proofs.Emit.Stubs
import ClassDiagram.Proofs.Model.Link

/-!
# A model within another

An embedding takes the cells of a model to those of another one, and its entities to
entities.  Kinds, names and methods stay, properties keep all but their access, and the
links are taken along.  The other model may have more entities.  What counts is that
the look-ups that are made in the first model have their images as answers in the
other one: those at a cell that stands in it, and those of a name that its members
mention.

Whatever is said about an entity of the first model is found by such look-ups.  So the
entity and its image owe the same methods (`Embedding.owed`) and depend on the same
names (`Embedding.dependenciesOf`).
-/

namespace ClassDiagram

/-! ## What a model speaks of -/

/-- The links to the images of the cells. -/
def Links.mapIds (f : String → String) (l : Links) : Links where
  bases := l.bases.map f
  interfaces := l.interfaces.map f
  associations := l.associations.map fun (direction, id) => (direction, f id)
  aggregations := l.aggregations.map fun (direction, id) => (direction, f id)
  compositions := l.compositions.map fun (direction, id) => (direction, f id)

@[simp] theorem Links.mapIds_id (l : Links) : l.mapIds id = l := by
  simp [mapIds]

theorem Links.relatedIds_mapIds (f : String → String) (l : Links) :
    (l.mapIds f).relatedIds = l.relatedIds.map f := by
  simp [relatedIds, mapIds, Function.comp_def]

/-- The property, for its own class only. -/
def Property.hidden (p : Property) : Property := { p with access := .owner }

/-- The names that the members of an entity mention: those of types, and of the tables that
are referred to. -/
def Entity.mentions (e : Entity) : List String :=
  e.propertyList.map (·.type) ++ e.propertyList.filterMap (·.constraints.foreignTarget)
    ++ e.methodList.flatMap Method.types

namespace Model

/-- The cells that stand in a model, as that of an entity or at the end of a link. -/
def ids (m : Model) : List String := m.entities.keys ++ m.entities.values.flatMap (·.links.ids)

/-- The names that the members of a model mention. -/
def mentions (m : Model) : List String := m.entities.values.flatMap Entity.mentions

variable {m m' : Model} {e : Entity}

theorem mem_values_of_get? {id : String} (h : m.get? id = some e) : e ∈ m.entities.values :=
  (OrderedMap.mem_values_iff _ _).2 ⟨id, h⟩

/-- A look-up by name goes through the entities in order. -/
theorem named?_eq (m : Model) (name : String) :
    m.named? name = m.entities.values.find? (·.name == name) := by
  rw [named?, find?, OrderedMap.values, List.find?_map]
  rfl

/-- A map that keeps the names finds the image of what was found by a name. -/
theorem named?_of_values {f : Entity → Entity} (hf : ∀ e, (f e).name = e.name)
    (hvalues : m'.entities.values = m.entities.values.map f) (name : String) :
    m'.named? name = (m.named? name).map f := by
  simp only [named?_eq, hvalues, List.find?_map, Function.comp_def, hf]

/-- The ids of a link are among those that occur in the model. -/
theorem mem_ids_of_mem_links (he : e ∈ m.entities.values) {id : String} (hid : id ∈ e.links.ids) :
    id ∈ m.ids :=
  List.mem_append_right _ (List.mem_flatMap.2 ⟨e, he, hid⟩)

theorem mem_ids_of_mem_interfaces (he : e ∈ m.entities.values) :
    ∀ id ∈ e.links.interfaces, id ∈ m.ids := fun _ h =>
  mem_ids_of_mem_links he (List.mem_append_left _ (List.mem_append_right _ h))

theorem mem_mentions (he : e ∈ m.entities.values) {name : String} (h : name ∈ e.mentions) :
    name ∈ m.mentions :=
  List.mem_flatMap.2 ⟨e, he, h⟩

/-- The types that an entity writes occur in the model. A demanded method is one of another entity,
which mentions its types. -/
theorem mem_mentions_of_mem_memberTypes (he : e ∈ m.entities.values) {type : String}
    (h : type ∈ m.memberTypes e) : type ∈ m.mentions := by
  rw [memberTypes, List.mem_append] at h
  rcases h with hproperty | hmethod
  · exact mem_mentions he (List.mem_append_left _ (List.mem_append_left _ hproperty))
  · obtain ⟨d, hd, htype⟩ := List.mem_flatMap.1 hmethod
    have hdeclared : ∃ i ∈ m.entities.values, d ∈ i.methodList := by
      rcases List.mem_append.1 hd with hown | hdemanded
      · exact ⟨e, he, hown⟩
      · obtain ⟨id, i, -, hget, hmem⟩ := mem_demanded.1 hdemanded
        exact ⟨i, mem_values_of_get? hget, hmem⟩
    obtain ⟨i, hi, hmem⟩ := hdeclared
    exact mem_mentions hi (List.mem_append_right _ (List.mem_flatMap.2 ⟨d, hmem, htype⟩))

/-! ## Embeddings -/

/-- A way to find a model within another. -/
structure Embedding (m m' : Model) where
  /-- The image of a cell. -/
  onId : String → String
  /-- The image of a property. -/
  onProperty : Property → Property
  /-- The image of an entity. -/
  onEntity : Entity → Entity
  hidden : ∀ p, (onProperty p).hidden = p.hidden
  kind : ∀ e, (onEntity e).kind = e.kind
  name : ∀ e, (onEntity e).name = e.name
  propertyList : ∀ e, (onEntity e).propertyList = e.propertyList.map onProperty
  methodList : ∀ e, (onEntity e).methodList = e.methodList
  links : ∀ e, (onEntity e).links = e.links.mapIds onId
  injOn : Set.InjOn onId {id | id ∈ m.ids}
  get? : ∀ id ∈ m.ids, m'.get? (onId id) = (m.get? id).map onEntity
  named? : ∀ name ∈ m.mentions, m'.named? name = (m.named? name).map onEntity

namespace Embedding

variable (φ : m.Embedding m')

theorem type (p : Property) : (φ.onProperty p).type = p.type := by
  have h := congrArg Property.type (φ.hidden p)
  exact h

theorem nameOf? {id : String} (hid : id ∈ m.ids) : m'.nameOf? (φ.onId id) = m.nameOf? id := by
  rw [Model.nameOf?, Model.nameOf?, φ.get? id hid, Option.map_map]
  exact congrArg (Option.map · _) (funext φ.name)

theorem names {ids : List String} (hids : ∀ id ∈ ids, id ∈ m.ids) :
    m'.names (ids.map φ.onId) = m.names ids := by
  rw [Model.names, Model.names, List.filterMap_map]
  exact List.filterMap_congr fun id hid => φ.nameOf? (hids id hid)

/-- The walk over interfaces goes through the images, if all its ids occur in the model. No two
cells have one image, so that an image is visited exactly when its cell is. -/
theorem walkAfter (visited ids : List String) (hvisited : ∀ id ∈ visited, id ∈ m.ids)
    (hids : ∀ id ∈ ids, id ∈ m.ids) : m'.walkAfter (visited.map φ.onId) (ids.map φ.onId) =
      (m.walkAfter visited ids).map fun p => (φ.onId p.1, φ.onEntity p.2) := by
  revert hvisited hids
  refine walk_induction (m := m) (P := fun visited ids => (∀ id ∈ visited, id ∈ m.ids) →
    (∀ id ∈ ids, id ∈ m.ids) → m'.walkAfter (visited.map φ.onId) (ids.map φ.onId) =
      (m.walkAfter visited ids).map fun p => (φ.onId p.1, φ.onEntity p.2)) ?_ ?_ ?_ visited ids
  · intro visited _ _
    rw [List.map_nil, walkAfter_nil, walkAfter_nil, List.map_nil]
  · intro visited id ids hskip ih hvisited hids
    have hid := List.forall_mem_cons.1 hids
    have himage : φ.onId id ∈ visited.map φ.onId ∨ m'.get? (φ.onId id) = none := by
      rcases hskip with hmem | hnone
      · exact Or.inl (List.mem_map_of_mem hmem)
      · exact Or.inr (by rw [φ.get? id hid.1, hnone, Option.map_none])
    rw [List.map_cons, walkAfter_skip himage, walkAfter_skip hskip, ih hvisited hid.2]
  · intro visited id ids e hnew hget ih hvisited hids
    have hid := List.forall_mem_cons.1 hids
    have himage : φ.onId id ∉ visited.map φ.onId := by
      intro hmem
      obtain ⟨other, hother, heq⟩ := List.mem_map.1 hmem
      exact hnew (φ.injOn (hvisited other hother) hid.1 heq ▸ hother)
    have hgetImage : m'.get? (φ.onId id) = some (φ.onEntity e) := by
      rw [φ.get? id hid.1, hget, Option.map_some]
    have hrealised := mem_ids_of_mem_interfaces (mem_values_of_get? hget)
    have hinterfaces : (φ.onEntity e).links.interfaces = e.links.interfaces.map φ.onId := by
      rw [φ.links e, Links.mapIds]
    rw [List.map_cons, walkAfter_visit himage hgetImage, walkAfter_visit hnew hget, List.map_cons,
      hinterfaces, ← List.map_append, ← List.map_cons,
      ih (List.forall_mem_cons.2 ⟨hid.1, hvisited⟩) (List.forall_mem_append.2 ⟨hrealised, hid.2⟩)]

theorem demanded {ids : List String} (hids : ∀ id ∈ ids, id ∈ m.ids) :
    m'.demanded (ids.map φ.onId) = m.demanded ids := by
  have hwalk : m'.walkAfter [] (ids.map φ.onId) =
      (m.walkAfter [] ids).map fun p => (φ.onId p.1, φ.onEntity p.2) :=
    φ.walkAfter [] ids nofun hids
  rw [Model.demanded, Model.demanded, interfacesFrom_eq_walkAfter, interfacesFrom_eq_walkAfter,
    hwalk, List.flatMap_map]
  simp only [φ.methodList]

variable (he : e ∈ m.entities.values)
include he

/-- An entity and its image are met with the same demands. -/
theorem demanded_interfaces :
    m'.demanded (φ.onEntity e).links.interfaces = m.demanded e.links.interfaces := by
  rw [φ.links e]
  exact φ.demanded (mem_ids_of_mem_interfaces he)

/-- An entity and its image owe the same methods. -/
theorem owed : m'.owed (φ.onEntity e) = m.owed e := by
  simp only [Model.owed, Entity.declares, φ.demanded_interfaces he, φ.methodList]

/-- The image of an entity writes the same types. -/
theorem memberTypes : m'.memberTypes (φ.onEntity e) = m.memberTypes e := by
  simp only [Model.memberTypes, φ.demanded_interfaces he, φ.methodList, φ.propertyList,
    List.map_map, Function.comp_def, φ.type]

/-- An entity and its image depend on the same names. -/
theorem dependenciesOf : m'.dependenciesOf (φ.onEntity e) = m.dependenciesOf e := by
  have hlinks : ∀ id ∈ e.links.ids, id ∈ m.ids := fun _ h => mem_ids_of_mem_links he h
  simp only [Links.ids, List.forall_mem_append] at hlinks
  have hbases : m'.names (φ.onEntity e).links.bases = m.names e.links.bases := by
    rw [φ.links e]
    exact φ.names hlinks.1.1
  have hinterfaces : m'.names (φ.onEntity e).links.interfaces = m.names e.links.interfaces := by
    rw [φ.links e]
    exact φ.names hlinks.1.2
  have hrelated : m'.names (φ.onEntity e).links.relatedIds = m.names e.links.relatedIds := by
    rw [φ.links e, Links.relatedIds_mapIds]
    exact φ.names hlinks.2
  have htypes : ((m.memberTypes e).filter (· != e.name)).filterMap
        (fun type => (m'.named? type).map (·.name)) =
      ((m.memberTypes e).filter (· != e.name)).filterMap
        fun type => (m.named? type).map (·.name) := by
    refine List.filterMap_congr fun type htype => ?_
    have hmention := mem_mentions_of_mem_memberTypes he (List.mem_of_mem_filter htype)
    rw [φ.named? type hmention, Option.map_map]
    exact congrArg (Option.map · _) (funext φ.name)
  rw [Model.dependenciesOf, Model.dependenciesOf, hbases, hinterfaces, hrelated, φ.memberTypes he,
    φ.name, htypes]

end Embedding

end Model

end ClassDiagram
