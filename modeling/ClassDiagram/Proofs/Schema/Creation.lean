import ClassDiagram.Proofs.Schema.Script
import ClassDiagram.Proofs.Schema.Settling
import ClassDiagram.Proofs.Schema.Similar

/-!
# Creation by longest walks

The parents that the order of creation goes by can be read off the properties
(`hasParent_iff_isParent`): what a reference names is the last table with that very
name, so the entities that are no tables have no say.  The order of creation is that
of the longest walks from parent to parent, and is reached by any way of finding the
levels.  A script has the texts that the tables have in files of their own.
-/

namespace ClassDiagram.Schema

variable {m : Model} {entities : List Entity} {i j : Nat}

/-! ## Parents -/

/-- An entity that is looked up by name has the name. -/
theorem parentName_eq (m : Model) (p : Property) :
    parentName m p = p.constraints.foreignTarget.getD p.type := by
  rw [parentName]
  cases hnamed : m.named? (p.constraints.foreignTarget.getD p.type) with
  | none => rfl
  | some e =>
    rw [Model.named?_eq] at hnamed
    simpa using List.find?_some hnamed

/-- A property of the entity at one place is marked as a foreign key and names the entity at
another one. -/
def IsParent (entities : List Entity) (i j : Nat) : Prop :=
  j ≠ i ∧ ∃ e, entities[i]? = some e ∧ ∃ p ∈ e.propertyList,
    p.constraints.foreign = true ∧ IsLast entities (p.constraints.foreignTarget.getD p.type) j

/-- The parents at a place are the tables that stand at the listed places. -/
theorem hasParent_iff_isParent :
    HasParent (parentPlaces m entities) i j ↔ IsParent entities i j := by
  simp only [HasParent, parentPlaces, List.getElem?_mapIdx, Option.map_eq_some_iff]
  constructor
  · rintro ⟨-, ⟨e, he, rfl⟩, hj⟩
    obtain ⟨hne, p, hp, hforeign, hplace⟩ := mem_parentsAt.1 hj
    rw [parentName_eq, lastPlace?_eq_some_iff_isLast] at hplace
    exact ⟨hne, e, he, p, hp, hforeign, hplace⟩
  · rintro ⟨hne, e, he, p, hp, hforeign, hlast⟩
    rw [← lastPlace?_eq_some_iff_isLast, ← parentName_eq m] at hlast
    exact ⟨_, ⟨e, he, rfl⟩, mem_parentsAt.2 ⟨hne, p, hp, hforeign, hlast⟩⟩

/-- The parents of each place are listed, in any order and perhaps more than once. -/
structure ListsParents (entities : List Entity) (parents : List (List Nat)) : Prop where
  length_eq : parents.length = entities.length
  mem_iff : ∀ i j, HasParent parents i j ↔ IsParent entities i j

theorem listsParents_parentPlaces (m : Model) (entities : List Entity) :
    ListsParents entities (parentPlaces m entities) :=
  ⟨List.length_mapIdx, fun _ _ => hasParent_iff_isParent⟩

namespace ListsParents

variable {parents : List (List Nat)} (h : ListsParents entities parents)
include h

theorem rel_eq : HasParent parents = IsParent entities := by
  funext i j
  exact propext (h.mem_iff i j)

theorem inside (i j : Nat) (hij : HasParent parents i j) : j < parents.length := by
  obtain ⟨-, -, -, p, -, -, hlast⟩ := (h.mem_iff i j).1 hij
  obtain ⟨e, he, -⟩ := hlast.named
  rw [h.length_eq]
  exact (List.getElem?_eq_some_iff.1 he).1

/-- The order of creation does not depend on how the parents are listed. -/
theorem creationOrder_eq (m : Model) :
    creationOrder m entities = placesByLevel (levelsAfter parents parents.length) := by
  have hplaces := listsParents_parentPlaces m entities
  have hsame := levelsAfter_congr h.inside (hplaces.length_eq.trans h.length_eq.symm)
    fun i j => (hplaces.mem_iff i j).trans (h.mem_iff i j).symm
  rw [← hsame, hplaces.length_eq]
  rfl

/-- Nor on the order in which the levels are found. -/
theorem placesByLevel_eq (m : Model) {levels : List (Option Nat)}
    (hlevels : Settled parents levels) : placesByLevel levels = creationOrder m entities := by
  rw [h.creationOrder_eq m, hlevels.eq_levelsAfter h.inside]

end ListsParents

/-- The order of creation is by the longest walks over parents. -/
theorem creationOrder_byWalks (m : Model) (entities : List Entity) :
    ByWalks (IsParent entities) entities.length (creationOrder m entities) := by
  have h := listsParents_parentPlaces m entities
  rw [h.creationOrder_eq m, ← h.rel_eq, ← h.length_eq]
  exact placesByLevel_byWalks h.inside

/-! ## The script -/

theorem forall₂_filterMap_getElem? {α : Type} {l : List α} {places : List Nat}
    (h : ∀ i ∈ places, i < l.length) :
    List.Forall₂ (fun i a => l[i]? = some a) places (places.filterMap (l[·]?)) := by
  induction places with
  | nil => exact .nil
  | cons i places ih =>
    have hi := List.getElem?_eq_getElem (h i List.mem_cons_self)
    rw [List.filterMap_cons_some hi]
    exact .cons hi (ih fun j hj => h j (List.mem_cons_of_mem i hj))

theorem files_of_scriptFile?_eq_none {d : Dialect} {o : Options} (h : scriptFile? o = none) :
    files d m o = (tableEntities m).map (tableFile d m) := by
  rw [files_eq, h]
  rfl

/-- A script has the texts that the tables have in files of their own, each once. -/
theorem exists_texts {d : Dialect} {o o' : Options} {name : String}
    (hscript : scriptFile? o = some name) (hfiles : scriptFile? o' = none) :
    ∃ texts, texts.Perm ((files d m o').map (·.2)) ∧
      List.Forall₂ (fun i text => ((files d m o').map (·.2))[i]? = some text)
        (creationOrder m (tableEntities m)) texts ∧
      files d m o = [(name, "\n".intercalate texts)] := by
  have hplaces := (creationOrder_byWalks m (tableEntities m)).perm
  rw [files_of_scriptFile?_eq_none hfiles]
  generalize hsingle : (tableEntities m).map (tableFile d m) = single
  have hlength : (tableEntities m).length = (single.map (·.2)).length := by simp [← hsingle]
  rw [hlength] at hplaces
  refine ⟨(creationOrder m (tableEntities m)).filterMap ((single.map (·.2))[·]?), ?_,
    forall₂_filterMap_getElem? fun i hi => List.mem_range.1 (hplaces.mem_iff.1 hi), ?_⟩
  · have htexts := hplaces.filterMap ((single.map (·.2))[·]?)
    rwa [filterMap_getElem?_range] at htexts
  · rw [files_eq, hscript, hsingle, Option.elim_some, script]
    simp only [List.getElem?_map]

/-- The order of creation is the order of the longest walks from parent to parent, and the
places from which one comes to a circle are last.  Levels that are given to the places one by
one, in whatever order, lead to it after no more steps than there are places.  A script has
the texts of the files for the tables in this order. -/
theorem creationOrder_longest_walks (m : Model) (entities : List Entity) :
    ByWalks (IsParent entities) entities.length (creationOrder m entities) ∧
      (∀ i < entities.length, ¬ Endless (IsParent entities) i →
        ∃ l, LongestWalk (IsParent entities) i l) ∧
      (∀ i, Endless (IsParent entities) i ↔ ¬ Grounded (IsParent entities) i) ∧
      (∀ parents, ListsParents entities parents →
        (∀ run, (unsettled parents :: run).IsChain (Settles parents) →
          run.length ≤ entities.length) ∧
        (∃ levels, Settled parents levels) ∧
        ∀ levels, Settled parents levels → placesByLevel levels = creationOrder m entities) ∧
      ∀ d o o' name, scriptFile? o = some name → scriptFile? o' = none →
        ∃ texts, texts.Perm ((files d m o').map (·.2)) ∧
          List.Forall₂ (fun i text => ((files d m o').map (·.2))[i]? = some text)
            (creationOrder m (tableEntities m)) texts ∧
          files d m o = [(name, "\n".intercalate texts)] := by
  have hplaces := listsParents_parentPlaces m entities
  refine ⟨creationOrder_byWalks m entities, ?_, ?_, ?_, fun d o o' name => exists_texts⟩
  · intro i hi hending
    rw [← hplaces.rel_eq] at hending ⊢
    exact exists_longestWalk hplaces.inside (hplaces.length_eq ▸ hi) hending
  · intro i
    rw [← hplaces.rel_eq]
    exact endless_iff hplaces.inside
  · intro parents h
    refine ⟨fun run hrun => ?_, exists_settled parents, fun levels => h.placesByLevel_eq m⟩
    rw [← h.length_eq]
    exact length_le_of_run hrun

/-- An entity with a foreign key to each of some others. -/
def withKeys (name : String) (targets : List String) : Entity :=
  { name,
    properties := .ofList (targets.mapIdx fun index target =>
      (index, { name := target, type := target, constraints := { foreign := true } })) }

/-- The circle of doctors and wards, and bills that refer to patients and to the addresses
that these refer to. -/
def hospital : Model := ⟨.ofList [("v", visit), ("d", doctor), ("w", ward),
  ("b", withKeys "Bill" ["Patient", "Address"]), ("p", withKeys "Patient" ["Address"]),
  ("a", withKeys "Address" [])]⟩

/-- A bill is created after the address, and settling the places in any order gives this one order.
-/
theorem creationOrder_longest_walks_hospital :
    (∃ l, LongestWalk (IsParent (tableEntities hospital)) 3 l) ∧
      [5, 3].Sublist (creationOrder hospital (tableEntities hospital)) ∧
      (∀ levels, Settled [[1], [2], [1], [5, 4, 5], [5], []] levels →
        placesByLevel levels = [5, 4, 3, 0, 1, 2]) ∧
      ∃ texts, texts.Perm ((files ansi hospital {}).map (·.2)) ∧
        files ansi hospital oneScript = [("schema.sql", "\n".intercalate texts)] := by
  obtain ⟨horder, hlongest, -, hruns, hscript⟩ :=
    creationOrder_longest_walks hospital (tableEntities hospital)
  have hplaces : parentPlaces hospital (tableEntities hospital) =
      [[1], [2], [1], [4, 5], [5], []] := by decide
  have hlisted := listsParents_parentPlaces hospital (tableEntities hospital)
  rw [hplaces] at hlisted
  have hending : ¬ Endless (IsParent (tableEntities hospital)) 3 := by
    rw [← hlisted.rel_eq]
    have hlevel : levelAfter [[1], [2], [1], [4, 5], [5], []] 6 3 = some 2 := by decide
    exact (longestWalk_of_levelAfter hlevel).not_endless
  have hrelisted : ListsParents (tableEntities hospital) [[1], [2], [1], [5, 4, 5], [5], []] := by
    refine ⟨rfl, fun i j => ?_⟩
    rw [← hlisted.mem_iff]
    rcases i with _ | _ | _ | _ | _ | _ | i <;> simp [HasParent]
    omega
  refine ⟨hlongest 3 (by decide) hending, horder.parents_first 3 5 ?_ hending, ?_, ?_⟩
  · exact (hlisted.mem_iff 3 5).1 ⟨[4, 5], rfl, by decide⟩
  · intro levels hlevels
    rw [(hruns _ hrelisted).2.2 levels hlevels]
    decide
  · obtain ⟨texts, hperm, -, hfiles⟩ := hscript ansi oneScript {} "schema.sql" rfl rfl
    exact ⟨texts, hperm, hfiles⟩

end ClassDiagram.Schema
