import ClassDiagram.Proofs.Schema.Reference

/-!
# What a table keeps of the constraints

The constraints of a property are kept in two places.  The column has clauses of its
own (`Column.clauses`), and the columns of the primary key are listed after all
columns.  A column that is marked as required or as primary must have a value in any
case.

Whether a column keeps its values apart is shared between the two places.  A column
of the primary key has no clause for it, since the key says so.  But a key of
several columns keeps only their combinations apart.  `constraints_kept_iff` says
that nothing else is lost.
-/

namespace ClassDiagram.Schema

open Emit (margin commas words)

variable {d : Dialect} {m : Model} {e : Entity} {p : Property} {c : Column}

/-- The clauses of a column after its name and its type. -/
def Column.clauses (c : Column) : List String :=
  (if c.autoClause.isEmpty then [] else [c.autoClause])
    ++ (if c.notNull then ["NOT NULL"] else [])
    ++ c.initial.toList.map ("DEFAULT " ++ ·)
    ++ (if c.unique then ["UNIQUE"] else [])

/-- The names of the columns that are marked as primary, in order. -/
def primaryNames (e : Entity) : List String :=
  ((columnProperties e).filter (·.constraints.primary)).map (·.name)

/-- The item that lists the columns of the primary key, if there is one. -/
def primaryItems (d : Dialect) : List String → List String
  | [] => []
  | names => [margin 1 ++ "PRIMARY KEY (" ++ commas (names.map d.quote) ++ ")"]

/-- The item of the column for a property. -/
def columnItem (d : Dialect) (m : Model) (p : Property) : String :=
  margin 1 ++ words (d.quote p.name :: propertyType d m p :: (Column.ofProperty d m p).clauses)

/-- The items of the foreign keys of a table, numbered from one. -/
def foreignItems (d : Dialect) (m : Model) (e : Entity) : List String :=
  (Table.ofEntity d m e).foreignKeys.mapIdx fun index k => k.text d e.name (index + 1)

/-- The statement that creates a table from the items between its parentheses. -/
def creation (d : Dialect) (name : String) (items : List String) : String :=
  Table.header d name ++ ",\n".intercalate items ++ (if items.isEmpty then "" else "\n")
    ++ Table.footer

/-! ## Clauses of a column -/

theorem Column.text_eq (d : Dialect) (c : Column) :
    c.text d = margin 1 ++ words (d.quote c.name :: c.type :: c.clauses) := by
  simp only [text, clauses, List.cons_append, List.nil_append, List.append_assoc]

theorem default_clause_ne {clause : String} (h : clause.toList.head? ≠ some 'D') (value : String) :
    "DEFAULT " ++ value ≠ clause := by
  rintro rfl
  simp at h

/-- Of the clauses that are neither automatic nor defaults, a column has those that it is marked
for. -/
theorem Column.mem_clauses {clause : String} (hauto : c.autoClause ≠ clause)
    (hdefault : clause.toList.head? ≠ some 'D') : clause ∈ c.clauses ↔
      c.notNull = true ∧ clause = "NOT NULL" ∨ c.unique = true ∧ clause = "UNIQUE" := by
  have hautos : clause ∉ (if c.autoClause.isEmpty then [] else [c.autoClause]) := by
    split
    next => exact List.not_mem_nil
    next => simpa using hauto.symm
  have hdefaults : clause ∉ c.initial.toList.map ("DEFAULT " ++ ·) := by
    intro h
    obtain ⟨value, -, hvalue⟩ := List.mem_map.1 h
    exact default_clause_ne hdefault value hvalue
  rw [clauses, List.mem_append, List.mem_append, List.mem_append, or_iff_left hdefaults,
    or_iff_right hautos]
  cases c.notNull <;> cases c.unique <;> simp

theorem autoClause_ne {clause : String} (hempty : "" ≠ clause)
    (hidentity : d.identityClause ≠ clause) : (Column.ofProperty d m p).autoClause ≠ clause := by
  show (if p.constraints.isAutoValued then d.identityClause else "") ≠ clause
  split
  next => exact hidentity
  next => exact hempty

/-- A column is NOT NULL exactly when it is required or in the primary key. -/
theorem notNull_mem_clauses (hd : d ∈ dialects) (m : Model) (p : Property) :
    "NOT NULL" ∈ (Column.ofProperty d m p).clauses ↔
      p.constraints.required = true ∨ p.constraints.primary = true := by
  have hidentity : ∀ d ∈ dialects, d.identityClause ≠ "NOT NULL" := by decide
  rw [Column.mem_clauses (autoClause_ne (by decide) (hidentity d hd)) (by decide)]
  simp [Column.ofProperty]

/-- A column is UNIQUE exactly when it is marked so and not in the primary key. -/
theorem unique_mem_clauses (hd : d ∈ dialects) (m : Model) (p : Property) :
    "UNIQUE" ∈ (Column.ofProperty d m p).clauses ↔
      p.constraints.unique = true ∧ p.constraints.primary = false := by
  have hidentity : ∀ d ∈ dialects, d.identityClause ≠ "UNIQUE" := by decide
  rw [Column.mem_clauses (autoClause_ne (by decide) (hidentity d hd)) (by decide)]
  simp [Column.ofProperty]

/-! ## Items of a table -/

theorem primaryText_eq (d : Dialect) (t : Table) : t.primaryText d = primaryItems d t.primary := by
  rw [Table.primaryText]
  cases t.primary <;> rfl

/-- A table is created with its columns, its primary key and its foreign keys. -/
theorem entityText_eq_creation (d : Dialect) (m : Model) (e : Entity) (o : Options) :
    (backend d).entityText (.of m e o "sql") = creation d e.name
      ((columnProperties e).map (columnItem d m) ++ primaryItems d (primaryNames e)
        ++ foreignItems d m e) := by
  have hcolumns : (Table.ofEntity d m e).columns.map (Column.text d) =
      (columnProperties e).map (columnItem d m) := by
    rw [Table.ofEntity, Table.ofProperties, List.map_map]
    exact List.map_congr_left fun p _ => Column.text_eq d _
  have htext : (backend d).entityText (.of m e o "sql") = (Table.ofEntity d m e).text d :=
    entityText_of d m e o "sql"
  rw [htext, Table.text, Table.itemTexts, hcolumns, primaryText_eq]
  rfl

/-- The statement for an entity has an item for each property that is not static, in order, then
one with the columns that are marked as primary if there are any, and then the foreign keys.  A
column must have a value exactly if it is marked as required or as primary.  One that is marked as
unique is kept so, by a clause of its own or as the only column of the key, unless it is one of
several columns of the key. -/
theorem constraints_kept_iff (hd : d ∈ dialects) (m : Model) (e : Entity) (o : Options) :
    (backend d).entityText (.of m e o "sql") = creation d e.name
      ((columnProperties e).map (columnItem d m) ++ primaryItems d (primaryNames e)
        ++ foreignItems d m e) ∧
    ∀ p ∈ columnProperties e,
      ("NOT NULL" ∈ (Column.ofProperty d m p).clauses ↔
        p.constraints.required = true ∨ p.constraints.primary = true) ∧
      (p.constraints.unique = true →
        (("UNIQUE" ∈ (Column.ofProperty d m p).clauses ∨ primaryNames e = [p.name]) ↔
          (p.constraints.primary = true → primaryNames e = [p.name]))) := by
  refine ⟨entityText_eq_creation d m e o, fun p _ => ?_⟩
  refine ⟨notNull_mem_clauses hd m p, fun hunique => ?_⟩
  rw [unique_mem_clauses hd m p]
  cases hprimary : p.constraints.primary with
  | true => simp
  | false => simp [hunique]

/-- The student of an enrolment, of whom there is to be one only. -/
def student : Property :=
  { name := "student", type := "int64", constraints := { primary := true, unique := true } }

/-- An enrolment of a student in a course. -/
def enrolment : Entity where
  name := "Enrolment"
  properties := .ofList [(0, student),
    (1, { name := "course", type := "int64", constraints := { primary := true } }),
    (2, { name := "seat", type := "int32", constraints := { unique := true, required := true } })]

/-- The enrolment alone. -/
def enrolments : Model := ⟨.ofList [("e", enrolment)]⟩

/-- A unique column of a composite key is not UNIQUE, though it is NOT NULL. -/
theorem constraints_kept_iff_enrolment :
    ¬ ("UNIQUE" ∈ (Column.ofProperty mysql enrolments student).clauses ∨
        primaryNames enrolment = [student.name]) ∧
      "NOT NULL" ∈ (Column.ofProperty mysql enrolments student).clauses := by
  have hmysql : mysql ∈ dialects := by simp [dialects]
  obtain ⟨-, hcolumns⟩ := constraints_kept_iff hmysql enrolments enrolment {}
  obtain ⟨hvalue, hkept⟩ := hcolumns student (by decide)
  constructor
  · rw [hkept rfl]
    decide
  · rw [hvalue]
    exact Or.inr rfl

/-- A column that is marked as unique and is one of two columns of the key is not kept unique. -/
theorem not_constraints_kept : ¬ ∀ d ∈ dialects, ∀ m, ∀ e ∈ tableEntities m,
    ∀ p ∈ columnProperties e, p.constraints.unique = true →
      "UNIQUE" ∈ (Column.ofProperty d m p).clauses ∨ primaryNames e = [p.name] := by
  intro hall
  have hkept := hall mysql (by simp [dialects]) enrolments enrolment (by decide) student (by decide)
    rfl
  revert hkept
  decide

end ClassDiagram.Schema
