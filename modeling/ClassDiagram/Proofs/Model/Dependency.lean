import ClassDiagram.Proofs.Model.Embedding
import ClassDiagram.Proofs.Model.Link

/-!
# What an entity depends on

The bases and the interfaces of an entity are read off its links.  All other names
it depends on stand in one list, its references, and `mem_references` says which
they are without the walk over interfaces and without the order of the list.  A
related entity counts by its name.  A type counts if an entity has it for a name,
so the types that are known to every target, and those that nothing defines, are
left out.

The imports are the three lists in one, with every name where it comes first.
-/

namespace ClassDiagram

/-- The signature of a method has a type, for what it returns or for a parameter. -/
def Method.HasType (d : Method) (type : String) : Prop :=
  d.returns = type ∨ ∃ q ∈ d.parameters, q.type = type

/-- The types of a method are those of its parameters and of what it returns. -/
theorem Method.mem_types {d : Method} {type : String} : type ∈ d.types ↔ d.HasType type := by
  rw [types, List.mem_cons, List.mem_map, HasType, eq_comm]

/-- The cells that mutual relations lead to stand in the lists of the three relations. -/
theorem Links.mem_relatedIds {l : Links} {id : String} :
    id ∈ l.relatedIds ↔ ∃ relation, ∃ link ∈ l.directed relation, link.2 = id := by
  rw [relatedIds, List.mem_map]
  constructor
  · rintro ⟨link, hlink, rfl⟩
    rw [List.mem_append, List.mem_append] at hlink
    rcases hlink with (hassociated | haggregated) | hcomposed
    · exact ⟨.association, link, hassociated, rfl⟩
    · exact ⟨.aggregation, link, haggregated, rfl⟩
    · exact ⟨.composition, link, hcomposed, rfl⟩
  · rintro ⟨relation, link, hlink, rfl⟩
    refine ⟨link, ?_, rfl⟩
    rw [List.mem_append, List.mem_append]
    cases relation with
    | association => exact Or.inl (Or.inl hlink)
    | aggregation => exact Or.inl (Or.inr hlink)
    | composition => exact Or.inr hlink
    | generalization => cases hlink
    | realization => cases hlink

/-- The names of all three lists, as often as they come. -/
def Dependencies.listed (d : Dependencies) : List String := d.bases ++ d.interfaces ++ d.references

theorem Dependencies.imports_eq (d : Dependencies) : d.imports = firsts d.listed := rfl

namespace Model

variable {m : Model} {e : Entity} {id name type : String} {ids : List String}

/-- A member of an entity has a type.  The methods of the interfaces that the entity
realises, also through others, count as its own. -/
inductive UsesType (m : Model) (e : Entity) (type : String) : Prop
  | property {p : Property} (hp : p ∈ e.propertyList) (htype : p.type = type)
  | declared {d : Method} (hd : d ∈ e.methodList) (htype : d.HasType type)
  | demanded {id : String} {i : Entity} {d : Method} (hreach : m.Reaches e.links.interfaces id)
      (hget : m.get? id = some i) (hd : d ∈ i.methodList) (htype : d.HasType type)

/-- An entity is related to one with a name. -/
def RelatesTo (m : Model) (e : Entity) (name : String) : Prop :=
  ∃ relation, ∃ link ∈ e.links.directed relation, m.nameOf? link.2 = some name

/-- Some entity has a name. -/
def Names (m : Model) (name : String) : Prop := ∃ f ∈ m.entities.values, f.name = name

/-! ## References -/

/-- The member types of an entity are those that it uses, in what it declares or in what its
interfaces demand. -/
theorem mem_memberTypes : type ∈ m.memberTypes e ↔ m.UsesType e type := by
  rw [memberTypes, List.mem_append, List.mem_map, List.mem_flatMap]
  constructor
  · rintro (⟨p, hp, rfl⟩ | ⟨d, hd, htype⟩)
    · exact .property hp rfl
    · rw [Method.mem_types] at htype
      rcases List.mem_append.1 hd with hown | hdemanded
      · exact .declared hown htype
      · obtain ⟨id, i, hreach, hget, hmem⟩ := mem_demanded.1 hdemanded
        exact .demanded hreach hget hmem htype
  · intro h
    cases h with
    | property hp htype => exact Or.inl ⟨_, hp, htype⟩
    | declared hd htype =>
      exact Or.inr ⟨_, List.mem_append_left _ hd, Method.mem_types.2 htype⟩
    | demanded hreach hget hd htype =>
      have hdemanded := mem_demanded.2 ⟨_, _, hreach, hget, hd⟩
      exact Or.inr ⟨_, List.mem_append_right _ hdemanded, Method.mem_types.2 htype⟩

theorem mem_names : name ∈ m.names ids ↔ ∃ id ∈ ids, m.nameOf? id = some name := List.mem_filterMap

theorem mem_names_relatedIds : name ∈ m.names e.links.relatedIds ↔ m.RelatesTo e name := by
  rw [mem_names, RelatesTo]
  constructor
  · rintro ⟨id, hid, hname⟩
    obtain ⟨relation, link, hlink, rfl⟩ := Links.mem_relatedIds.1 hid
    exact ⟨relation, link, hlink, hname⟩
  · rintro ⟨relation, link, hlink, hname⟩
    exact ⟨link.2, Links.mem_relatedIds.2 ⟨relation, link, hlink, rfl⟩, hname⟩

/-- A look-up by name finds an entity exactly if some entity has the name. -/
theorem name_named?_eq_some_iff :
    (m.named? type).map (·.name) = some name ↔ type = name ∧ m.Names name := by
  rw [Option.map_eq_some_iff, named?_eq]
  constructor
  · rintro ⟨f, hf, rfl⟩
    have hname : f.name = type := by simpa using List.find?_some hf
    exact ⟨hname.symm, f, List.mem_of_find?_eq_some hf, rfl⟩
  · rintro ⟨rfl, f, hf, hname⟩
    have hsome : (m.entities.values.find? (·.name == type)).isSome = true :=
      List.find?_isSome.2 ⟨f, hf, by simp [hname]⟩
    obtain ⟨g, hg⟩ := Option.isSome_iff_exists.1 hsome
    exact ⟨g, hg, by simpa using List.find?_some hg⟩

/-- The references are the names of other entities that the entity is related to or that
its members have for a type. -/
theorem mem_references : name ∈ (m.dependenciesOf e).references ↔
    name ≠ e.name ∧ (m.RelatesTo e name ∨ m.Names name ∧ m.UsesType e name) := by
  have hrelated : name ∈ (m.names e.links.relatedIds).filter (· != e.name) ↔
      name ≠ e.name ∧ m.RelatesTo e name := by
    rw [List.mem_filter, mem_names_relatedIds, bne_iff_ne, and_comm]
  have hused : name ∈ ((m.memberTypes e).filter (· != e.name)).filterMap (fun type =>
      (m.named? type).map (·.name)) ↔ name ≠ e.name ∧ m.Names name ∧ m.UsesType e name := by
    rw [List.mem_filterMap]
    constructor
    · rintro ⟨type, htype, hname⟩
      obtain ⟨rfl, hnamed⟩ := name_named?_eq_some_iff.1 hname
      rw [List.mem_filter, mem_memberTypes, bne_iff_ne] at htype
      exact ⟨htype.2, hnamed, htype.1⟩
    · rintro ⟨hne, hnamed, huses⟩
      refine ⟨name, ?_, name_named?_eq_some_iff.2 ⟨rfl, hnamed⟩⟩
      rw [List.mem_filter, mem_memberTypes, bne_iff_ne]
      exact ⟨huses, hne⟩
  rw [dependenciesOf, List.mem_append, hrelated, hused, ← and_or_left]

/-! ## Bases, interfaces and imports -/

/-- Where every cell is that of an entity, every name is there, in order. -/
theorem map_some_names (h : ∀ id ∈ ids, m.contains id = true) :
    (m.names ids).map some = ids.map m.nameOf? := by
  induction ids with
  | nil => rfl
  | cons id ids ih =>
    obtain ⟨hid, hids⟩ := List.forall_mem_cons.1 h
    obtain ⟨e, hget⟩ := get?_of_contains hid
    have hname : m.nameOf? id = some e.name := by rw [nameOf?, hget, Option.map_some]
    rw [names, List.filterMap_cons_some hname, List.map_cons, List.map_cons, hname]
    exact congrArg _ (ih hids)

theorem dependencies_of_get? (hget : m.get? id = some e) :
    m.dependencies id = m.dependenciesOf e := by
  rw [dependencies, hget]

/-- An entity refers to the other entities that a mutual relation leads to, and to those whose
name is the type of a member, an inherited one included.  Its bases and its interfaces are the
names at its links, and its imports are all these names, each where it comes first. -/
theorem dependencies_exact (closed : m.LinksClosed) (hget : m.get? id = some e) :
    (∀ name, name ∈ (m.dependencies id).references ↔
      name ≠ e.name ∧ (m.RelatesTo e name ∨ m.Names name ∧ m.UsesType e name)) ∧
    (m.dependencies id).bases.map some = e.links.bases.map m.nameOf? ∧
    (m.dependencies id).interfaces.map some = e.links.interfaces.map m.nameOf? ∧
    (m.dependencies id).imports.Nodup ∧
    (∀ name, name ∈ (m.dependencies id).imports ↔ name ∈ (m.dependencies id).listed) ∧
    (m.dependencies id).imports.Pairwise fun a b =>
      (m.dependencies id).listed.idxOf a < (m.dependencies id).listed.idxOf b := by
  have hclosed : ∀ other ∈ e.links.ids, m.contains other = true := closed id e hget
  rw [dependencies_of_get? hget, Dependencies.imports_eq]
  refine ⟨fun _ => mem_references, map_some_names fun other hother => ?_,
    map_some_names fun other hother => ?_, nodup_firsts _, fun _ => mem_firsts, pairwise_firsts _⟩
  · exact hclosed other (List.mem_append_left _ (List.mem_append_left _ hother))
  · exact hclosed other (List.mem_append_left _ (List.mem_append_right _ hother))

/-- A purchase of a customer, which knows itself and the purchase before it. -/
def purchase : Entity where
  name := "Purchase"
  properties := .ofList [(0, { name := "earlier", type := "Purchase" }),
    (1, { name := "total", type := "decimal" })]
  links := { interfaces := ["i"], associations := [(.outgoing, "c"), (.incoming, "p")] }

/-- The purchase and its customer.  The two interfaces above the purchase realise each other,
and the farther one has a method that returns an entity. -/
def purchases : Model :=
  ⟨.ofList
    [("p", purchase), ("c", { name := "Customer" }),
     ("i", { kind := .interface, name := "Priced", links := { interfaces := ["j"] } }),
     ("j", { kind := .interface, name := "Taxed",
             methods := .ofList [(0, { name := "tax", returns := "Rate" })],
             links := { interfaces := ["i"] } }),
     ("r", { name := "Rate" })]⟩

/-- A purchase refers to its customer and to the rate of the method it owes, not to itself. -/
theorem dependencies_exact_purchases :
    "Customer" ∈ (purchases.dependencies "p").references ∧
      "Rate" ∈ (purchases.dependencies "p").references ∧
      "Purchase" ∉ (purchases.dependencies "p").references ∧
      (purchases.dependencies "p").interfaces.map some = [some "Priced"] := by
  have closed : purchases.LinksClosed := linksClosed_of_values (by decide)
  have hget : purchases.get? "p" = some purchase := rfl
  obtain ⟨hreferences, -, hinterfaces, -⟩ := dependencies_exact closed hget
  refine ⟨?_, ?_, ?_, hinterfaces⟩
  · rw [hreferences]
    exact ⟨by decide, Or.inl ⟨.association, (.outgoing, "c"), by decide, rfl⟩⟩
  · have hi : purchases.Reaches purchase.links.interfaces "i" := ⟨"i", by decide, .refl⟩
    have hj : purchases.Reaches purchase.links.interfaces "j" := hi.tail ⟨_, rfl, by decide⟩
    have hrate : ({ name := "Rate" } : Entity) ∈ purchases.entities.values := by decide
    have htax : ({ name := "tax", returns := "Rate" } : Method).HasType "Rate" := Or.inl rfl
    rw [hreferences]
    exact ⟨by decide, Or.inr ⟨⟨_, hrate, rfl⟩, .demanded hj rfl (by decide) htax⟩⟩
  · rw [hreferences]
    exact fun h => h.1 rfl

end Model

end ClassDiagram
