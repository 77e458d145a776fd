import ClassDiagram.Proofs.Schema.Order

/-!
# Scripts

A script creates each table once (`created_perm`), in the order of the levels.  A
table that a foreign key refers to is created before the table of the key if the
references from it do not lead into a circle.  If they do, it has no level, and
neither has the table of the key, which may be outside of the circle itself.  The
two then stay in the order of the model (`files_created_iff`).
-/

namespace ClassDiagram.Schema

/-! ## Tables in the order of creation -/

section

variable {d : Dialect} {m : Model} {o : Options} {a b : Entity}

/-- These entities in the order in which a script creates their tables. -/
def created (m : Model) : List Entity :=
  (creationOrder m (tableEntities m)).filterMap ((tableEntities m)[·]?)

/-- The table of one entity has a foreign key to that of another one. -/
def HasForeignKey (d : Dialect) (m : Model) (a b : Entity) : Prop :=
  a ∈ tableEntities m ∧ b ∈ tableEntities m ∧
    ∃ k ∈ (Table.ofEntity d m a).foreignKeys, k.table = b.name

instance : Decidable (HasForeignKey d m a b) :=
  inferInstanceAs (Decidable (_ ∧ _ ∧ ∃ k ∈ (Table.ofEntity d m a).foreignKeys, k.table = b.name))

/-- The places that the table at each place refers to. -/
def tableParents (m : Model) : List (List Nat) := parentPlaces m (tableEntities m)

/-- The levels that the order of creation goes by. -/
def tableLevels (m : Model) : List (Option Nat) :=
  levelsAfter (tableParents m) (tableParents m).length

theorem length_tableParents (m : Model) : (tableParents m).length = (tableEntities m).length :=
  List.length_mapIdx

theorem creationOrder_eq (m : Model) :
    creationOrder m (tableEntities m) = placesByLevel (tableLevels m) := by
  rw [tableLevels, length_tableParents]
  rfl

theorem tableLevels_below (m : Model) (i l : Nat) (h : (tableLevels m)[i]?.join = some l) :
    l < (tableLevels m).length :=
  levelsAfter_below (tableParents m) i l h

theorem filterMap_getElem?_range {α : Type} (l : List α) :
    (List.range l.length).filterMap (l[·]?) = l := by
  induction l with
  | nil => rfl
  | cons a l ih =>
    rw [List.length_cons, List.range_succ_eq_map, List.filterMap_cons, List.filterMap_map]
    simpa [Function.comp_def] using ih

/-- Every table is created exactly once. -/
theorem created_perm (m : Model) : (created m).Perm (tableEntities m) := by
  have hplaces := placesByLevel_perm (tableLevels_below m)
  rw [tableLevels, length_levelsAfter, length_tableParents] at hplaces
  have hcreated := hplaces.filterMap ((tableEntities m)[·]?)
  rw [filterMap_getElem?_range] at hcreated
  rwa [created, creationOrder_eq, tableLevels, length_tableParents]

/-- A table refers to every other one that it has a foreign key to. -/
theorem HasForeignKey.refers (h : HasForeignKey d m a b) (hne : a ≠ b) :
    Refers m (tableEntities m) a b := by
  obtain ⟨ha, hb, k, hk, htable⟩ := h
  obtain ⟨p, hp, hkey⟩ := List.mem_filterMap.1 hk
  obtain ⟨hforeign, hname⟩ := of_ofProperty? hkey
  exact ⟨ha, hb, hne, p, (List.mem_filter.1 hp).1, hforeign, hname ▸ htable⟩

variable (names : ((tableEntities m).map (·.name)).Nodup)
include names

/-- Tables are created in the order of their levels. -/
theorem pairwise_created : (created m).Pairwise fun a b =>
    Precedes (tableLevels m) ((tableEntities m).idxOf a) ((tableEntities m).idxOf b) := by
  rw [created, creationOrder_eq, List.pairwise_filterMap]
  refine (pairwise_placesByLevel (tableLevels_below m)).imp fun {i j} hij a ha b hb => ?_
  rwa [idxOf_of_getElem? names ha, idxOf_of_getElem? names hb]

theorem pairwise_tableEntities : (tableEntities m).Pairwise fun a b =>
    (tableEntities m).idxOf a < (tableEntities m).idxOf b := by
  rw [List.pairwise_iff_getElem]
  intro i j hi hj hij
  rwa [idxOf_of_getElem? names (List.getElem?_eq_getElem hi),
    idxOf_of_getElem? names (List.getElem?_eq_getElem hj)]

/-- The table of an entity that another one refers to is created first if no references lead
from it into a circle, and else only if it stands first in the model. -/
theorem sublist_created_iff (h : Refers m (tableEntities m) a b) :
    [b, a].Sublist (created m) ↔
      [b, a].Sublist (tableEntities m) ∨ Grounded (Refers m (tableEntities m)) b := by
  have hb := List.getElem?_idxOf h.2.1
  have hparent := (hasParent_iff names (List.getElem?_idxOf h.1) hb).2 h
  rw [pair_sublist_iff (pairwise_created names) (fun _ _ => Precedes.asymm)
      ((created_perm m).mem_iff.2 h.2.1) ((created_perm m).mem_iff.2 h.1),
    pair_sublist_iff (pairwise_tableEntities names) (fun _ _ => Nat.lt_asymm) h.2.1 h.1,
    grounded_iff names hb]
  exact precedes_iff (fun _ _ => lt_of_hasParent) hparent

end

/-- A single script is made of the tables in the order of creation. -/
theorem files_of_singleScript {d : Dialect} {m : Model} {o : Options} {t : TargetOptions}
    (htarget : o.target? "sql" = some t) (hsingle : t.singleScript = true) :
    files d m o = [(t.scriptName.getD defaultScriptName,
      "\n".intercalate ((created m).map fun e => (Table.ofEntity d m e).text d))] := by
  have hname : (emitter d).name = "sql" := rfl
  have hscript : script ((tableEntities m).map ((emitter d).fileFor (entityText d) m o))
      (creationOrder m (tableEntities m))
        = "\n".intercalate ((created m).map fun e => (Table.ofEntity d m e).text d) := by
    rw [fileFor_eq_tableFile, script, created, List.map_filterMap]
    simp only [List.getElem?_map, Option.map_map]
    rfl
  rw [← hscript]
  simp only [files, hname, htarget, hsingle, if_true]
  rfl

/-- A script has each table once.  Where the tables have names of their own, the table that a
foreign key refers to is created before the table of the key exactly when it stands before it
in the model or no references lead from it into a circle. -/
theorem files_created_iff {d : Dialect} {m : Model} {o : Options} {t : TargetOptions}
    (htarget : o.target? "sql" = some t) (hsingle : t.singleScript = true)
    (names : ((tableEntities m).map (·.name)).Nodup) :
    files d m o = [(t.scriptName.getD defaultScriptName,
        "\n".intercalate ((created m).map fun e => (Table.ofEntity d m e).text d))] ∧
      (created m).Perm (tableEntities m) ∧
      ∀ a b, a ≠ b → HasForeignKey d m a b →
        ([b, a].Sublist (created m) ↔
          [b, a].Sublist (tableEntities m) ∨ Grounded (Refers m (tableEntities m)) b) :=
  ⟨files_of_singleScript htarget hsingle, created_perm m, fun _ _ hne hkey =>
    sublist_created_iff names (hkey.refers hne)⟩

/-- A visit to a doctor. -/
def visit : Entity :=
  { name := "Visit",
    properties := .ofList [(0, { name := "doctor", type := "Doctor",
                                 constraints := { foreign := true } })] }

/-- A doctor of a ward. -/
def doctor : Entity :=
  { name := "Doctor",
    properties := .ofList [(0, { name := "ward", type := "Ward",
                                 constraints := { foreign := true } })] }

/-- A ward with a doctor at its head. -/
def ward : Entity :=
  { name := "Ward",
    properties := .ofList [(0, { name := "head", type := "Doctor",
                                 constraints := { foreign := true } })] }

/-- Visits refer to doctors, and doctors and wards refer to each other. -/
def clinic : Model := ⟨.ofList [("v", visit), ("d", doctor), ("w", ward)]⟩

/-- Options that ask for one script. -/
def oneScript : Options := { targets := .ofList [("sql", { singleScript := true })] }

/-- A visit is created before the doctor that it refers to, so that the doctor leads into a circle.
-/
theorem files_created_iff_clinic : ¬ Grounded (Refers clinic (tableEntities clinic)) doctor := by
  obtain ⟨-, -, hcreated⟩ := files_created_iff (d := ansi) (m := clinic) (o := oneScript) rfl rfl
    (by decide)
  have hkey : HasForeignKey ansi clinic visit doctor := by decide
  intro hgrounded
  have hfirst := (hcreated visit doctor (by decide) hkey).2 (Or.inr hgrounded)
  revert hfirst
  decide

/-- A table outside of every circle can be created before the table that it refers to. -/
theorem not_created_first : ¬ ∀ (d : Dialect) (m : Model) (o : Options) (t : TargetOptions),
    o.target? "sql" = some t → t.singleScript = true →
    ((tableEntities m).map (·.name)).Nodup → ∀ a b, a ≠ b → HasForeignKey d m a b →
    ¬ Relation.ReflTransGen (HasForeignKey d m) b a → [b, a].Sublist (created m) := by
  intro hall
  have hkey : HasForeignKey ansi clinic visit doctor := by decide
  have hunreached : ¬ Relation.ReflTransGen (HasForeignKey ansi clinic) doctor visit := by
    have hothers : ∀ e ∈ tableEntities clinic, e ≠ visit → ∀ f ∈ tableEntities clinic,
        HasForeignKey ansi clinic e f → f ≠ visit := by decide
    intro hpath
    have hnever : ∀ e, Relation.ReflTransGen (HasForeignKey ansi clinic) doctor e → e ≠ visit := by
      intro e he
      induction he with
      | refl => decide
      | tail _ hstep ih => exact hothers _ hstep.1 ih _ hstep.2.1 hstep
    exact hnever visit hpath rfl
  have hfirst := hall ansi clinic oneScript _ rfl rfl (by decide) visit doctor (by decide) hkey
    hunreached
  revert hfirst
  decide

end ClassDiagram.Schema
