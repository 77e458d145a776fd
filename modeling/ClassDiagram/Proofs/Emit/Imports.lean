import ClassDiagram.Emit.Python
import ClassDiagram.Proofs.Emit.Stubs
import ClassDiagram.Proofs.Model.Dependency

/-!
# Types that are imported

The members that are written for an entity are annotated with types, and some of
these are other entities.  What the file imports is not read off the members.  It
comes from the lists of names the entity depends on, and it is enough since every type
of a member is a type that the entity uses (`Annotates.usesType`).

An enumeration leaves its bases and its interfaces out.  It leaves them out also where a
member has one of them for a type, and this is the only type that is missing
(`needed_imports_iff`).
-/

namespace ClassDiagram

/-- An entity is linked to one with a name as a base or as an interface. -/
def Model.HasParent (m : Model) (e : Entity) (name : String) : Prop :=
  ∃ id ∈ e.links.bases ++ e.links.interfaces, m.nameOf? id = some name

/-- The names of the bases and the interfaces are those of the parents. -/
theorem Model.mem_parents {m : Model} {e : Entity} {name : String} :
    name ∈ (m.dependenciesOf e).bases ∨ name ∈ (m.dependenciesOf e).interfaces ↔
      m.HasParent e name := by
  show name ∈ m.names e.links.bases ∨ name ∈ m.names e.links.interfaces ↔ _
  simp only [mem_names, HasParent, List.mem_append, or_and_right, exists_or]

namespace Emit

variable {x : Context} {m : Model} {e : Entity} {o : Options} {target type name : String}

/-! ## The types of the members -/

/-- A type stands at a property or in the signature of a method that is written for an entity.  The
constants of an enumeration have no types. -/
inductive Context.Annotates (x : Context) (type : String) : Prop
  | property {p : Property} (hkind : x.kind ≠ .enumeration) (hp : p ∈ x.properties)
      (htype : p.type = type)
  | method {d : Method} {form : BodyForm} (hcall : (d, form) ∈ Emitter.methodCalls x)
      (htype : d.HasType type)

/-- A type in an annotation is one that the entity uses. -/
theorem Context.Annotates.usesType (h : (Context.of m e o target).Annotates type) :
    m.UsesType e type := by
  cases h with
  | property _ hp htype =>
    obtain ⟨p, hmem, rfl⟩ := List.mem_map.1 hp
    rw [type_encapsulated] at htype
    exact .property hmem htype
  | @method d form hcall htype =>
    rcases List.mem_append.1 hcall with hdeclared | hstub
    · obtain ⟨d, hd, heq⟩ := List.mem_map.1 hdeclared
      cases heq
      exact .declared hd htype
    · obtain ⟨d, hd, heq⟩ := List.mem_map.1 hstub
      cases heq
      have howed : d ∈ if e.kind.isClass then m.owed e else [] := hd
      split at howed
      next =>
        have hdemanded := (m.owes_owed e).sublist.subset howed
        obtain ⟨id, i, hreach, hget, hmem⟩ := Model.mem_demanded.1 hdemanded
        exact .demanded hreach hget hmem htype
      next => cases howed

/-! ## The names that are imported -/

/-- What a file needs are parents and references, but an enumeration drops the parents. -/
theorem mem_entityImports : name ∈ (Context.of m e o target).entityImports ↔
    (m.HasParent e name ∨ name ∈ (m.dependenciesOf e).references) ∧
      ¬ (e.kind = .enumeration ∧ m.HasParent e name) := by
  have himports : name ∈ (m.dependenciesOf e).imports ↔
      m.HasParent e name ∨ name ∈ (m.dependenciesOf e).references := by
    rw [Dependencies.imports_eq, mem_firsts, Dependencies.listed, List.mem_append,
      List.mem_append, Model.mem_parents]
  rw [← himports, ← Model.mem_parents]
  show name ∈ (if e.kind = .enumeration then (m.dependenciesOf e).imports.filter fun name =>
      !(m.dependenciesOf e).bases.contains name && !(m.dependenciesOf e).interfaces.contains name
    else (m.dependenciesOf e).imports) ↔ _
  split
  next hkind => simp [hkind]
  next hkind => simp [hkind]

/-! ## Lines of a text -/

/-- A text is made of whole lines. -/
def WholeLines (text : String) : Prop := text = "" ∨ ∃ before, text = before ++ "\n"

/-- Some lines stand in a text, the first of them where a line starts. -/
def HasLines (text lines : String) : Prop :=
  ∃ before after, WholeLines before ∧ text = before ++ lines ++ after

theorem wholeLines_line (depth : Nat) (text : String) : WholeLines (line depth text) :=
  Or.inr ⟨_, rfl⟩

/-- Whole lines after whole lines are whole lines. -/
theorem WholeLines.append {a b : String} (ha : WholeLines a) (hb : WholeLines b) :
    WholeLines (a ++ b) := by
  rcases hb with rfl | ⟨before, rfl⟩
  · rwa [String.append_empty]
  · exact Or.inr ⟨a ++ before, by rw [String.append_assoc]⟩

theorem wholeLines_join_map {α : Type} {f : α → String} (h : ∀ a, WholeLines (f a)) (l : List α) :
    WholeLines (String.join (l.map f)) := by
  induction l with
  | nil => exact Or.inl rfl
  | cons a l ih =>
    rw [List.map_cons, String.join_cons]
    exact (h a).append ih

/-- The empty line between two groups, if there are two. -/
theorem wholeLines_gap {c : Prop} [Decidable c] : WholeLines (if c then "" else "\n") := by
  split
  next => exact Or.inl rfl
  next => exact Or.inr ⟨"", rfl⟩

/-- Lines stay lines behind others. -/
theorem HasLines.append_left {text lines before : String} (h : HasLines text lines)
    (hbefore : WholeLines before) : HasLines (before ++ text) lines := by
  obtain ⟨start, after, hstart, rfl⟩ := h
  exact ⟨before ++ start, after, hbefore.append hstart, by simp only [String.append_assoc]⟩

theorem HasLines.append_right {text lines : String} (h : HasLines text lines) (after : String) :
    HasLines (text ++ after) lines := by
  obtain ⟨start, rest, hstart, rfl⟩ := h
  exact ⟨start, rest ++ after, hstart, by simp only [String.append_assoc]⟩

namespace Python

/-! ## The imports of a module -/

/-- The module of an entity has an import of a name, in effect or for type checking. -/
inductive Imports (x : Context) (name : String) : Prop
  | plain (h : HasLines (header x) (entityImport x 0 name))
  | deferred (earlier : List String) (h : HasLines (header x) (line 0 "if TYPE_CHECKING:"
      ++ String.join (earlier.map (entityImport x 1)) ++ entityImport x 1 name))

/-- Imports from the library are whole lines. -/
theorem wholeLines_importLines (names : List (String × String)) :
    WholeLines (String.join (importLines names)) :=
  wholeLines_join_map (fun _ => wholeLines_line _ _) _

theorem wholeLines_entityImports (x : Context) (depth : Nat) (names : List String) :
    WholeLines (String.join (names.map (entityImport x depth))) :=
  wholeLines_join_map (fun _ => wholeLines_line _ _) _

/-- The imports that the options ask for. -/
theorem wholeLines_configured (imports : List (String × Option (List String))) :
    WholeLines (String.join (imports.map fun (module, symbols) =>
      match symbols with
      | some symbols => importFrom 0 module symbols
      | none => line 0 ("import " ++ module))) := by
  refine wholeLines_join_map (fun ⟨module, symbols⟩ => ?_) _
  cases symbols with
  | some symbols => exact wholeLines_line _ _
  | none => exact wholeLines_line _ _

/-- So are those that the options ask for and those of the parents. -/
theorem wholeLines_plainImports (x : Context) : WholeLines (plainImports x) :=
  (wholeLines_configured _).append (wholeLines_entityImports x 0 _)

/-- The header has the imports of other entities as lines of its own. -/
theorem hasLines_header {lines : String} (h : HasLines (localImports x) lines) :
    HasLines (header x) lines := by
  have hlibrary : WholeLines (String.join (importLines (libraryNames x))
      ++ if (localImports x).isEmpty || (importLines (libraryNames x)).isEmpty then "" else "\n") :=
    (wholeLines_importLines _).append wholeLines_gap
  have hfuture : WholeLines (spaced (line 0 "from __future__ import annotations")) :=
    Or.inr ⟨_, rfl⟩
  have himports : HasLines (imports x) lines := h.append_left hlibrary
  exact ((himports.append_left hfuture).append_right _).append_right _

/-- A parent is imported on a line at the margin. -/
theorem imports_of_mem_parents (hname : name ∈ x.parents) : Imports x name := by
  obtain ⟨before, after, hparents⟩ := List.append_of_mem hname
  have hline : HasLines (String.join (x.parents.map (entityImport x 0)))
      (entityImport x 0 name) := by
    refine ⟨_, String.join (after.map (entityImport x 0)), wholeLines_entityImports x 0 before, ?_⟩
    rw [hparents, List.map_append, List.map_cons, String.join_append, String.join_cons,
      String.append_assoc]
  have hplain : HasLines (plainImports x) (entityImport x 0 name) :=
    hline.append_left (wholeLines_configured _)
  exact .plain (hasLines_header ((hplain.append_right _).append_right _))

theorem imports_of_mem_annotationOnly (hname : name ∈ annotationOnly x) : Imports x name := by
  obtain ⟨earlier, later, hnames⟩ := List.append_of_mem hname
  have hdeferred : HasLines (deferredImports x) (line 0 "if TYPE_CHECKING:"
      ++ String.join (earlier.map (entityImport x 1)) ++ entityImport x 1 name) := by
    refine ⟨"", String.join (later.map (entityImport x 1)), Or.inl rfl, ?_⟩
    rw [deferredImports, if_neg (by simp [hnames]), hnames, List.map_append, List.map_cons,
      String.join_append, String.join_cons]
    simp only [String.empty_append, String.append_assoc]
  have hlead := (wholeLines_plainImports x).append
    (wholeLines_gap (c := (plainImports x).isEmpty || (deferredImports x).isEmpty))
  exact .deferred earlier (hasLines_header (hdeferred.append_left hlead))

/-- All names that the entity is to import are imported. -/
theorem imports_of_mem (hname : name ∈ x.entityImports) : Imports x name := by
  by_cases hparent : name ∈ x.parents
  case pos => exact imports_of_mem_parents hparent
  case neg =>
    have honly : name ∈ annotationOnly x := List.mem_filter.2 ⟨hname, by simpa using hparent⟩
    exact imports_of_mem_annotationOnly honly

end Python

/-- A type of a member that is another entity is imported, and the module of the entity has the
import.  A base or an interface of an enumeration is not, and this is the only exception. -/
theorem needed_imports_iff (hannotates : (Context.of m e o "python").Annotates type)
    (hnames : m.Names type) (hother : type ≠ e.name) :
    (type ∈ (Context.of m e o "python").entityImports ↔
      ¬ (e.kind = .enumeration ∧ m.HasParent e type)) ∧
    (type ∈ (Context.of m e o "python").entityImports →
      Python.Imports (.of m e o "python") type) := by
  have hreference : type ∈ (m.dependenciesOf e).references :=
    Model.mem_references.2 ⟨hother, Or.inr ⟨hnames, hannotates.usesType⟩⟩
  refine ⟨?_, Python.imports_of_mem⟩
  rw [mem_entityImports]
  exact and_iff_right (Or.inr hreference)

/-- The scale that a grade is on. -/
def scale : Method := { access := .everyone, name := "scale", returns := "Scale" }

/-- The mark for a grade. -/
def mark : Method := { access := .everyone, name := "mark", returns := "Mark" }

/-- A grade, which is drawn as a special case of its scale. -/
def grade : Entity where
  kind := .enumeration
  name := "Grade"
  methods := .ofList [(0, scale), (1, mark)]
  links := { bases := ["s"] }

/-- The grade, its scale and the mark that it gives. -/
def grades : Model :=
  ⟨.ofList [("g", grade), ("s", { name := "Scale" }), ("m", { name := "Mark" })]⟩

/-- Every return type of the grade is in an annotation. -/
theorem annotates_grade {d : Method} (hd : d ∈ grade.methodList) :
    (Context.of grades grade {} "python").Annotates d.returns := by
  have hdeclared : (d, BodyForm.implemented) ∈
      grade.methodList.map fun d => (d, BodyForm.of grade.kind d) := List.mem_map.2 ⟨d, hd, rfl⟩
  exact .method (List.mem_append_left _ hdeclared) (Or.inl rfl)

theorem names_grades : grades.Names "Mark" ∧ grades.Names "Scale" :=
  ⟨⟨{ name := "Mark" }, by decide, rfl⟩, ⟨{ name := "Scale" }, by decide, rfl⟩⟩

theorem hasParent_grade : grades.HasParent grade name ↔ name = "Scale" := by
  have hscale : grades.nameOf? "s" = some "Scale" := rfl
  simp [Model.HasParent, grade, hscale, eq_comm]

/-- The mark is imported, and the scale is not even asked for. -/
theorem needed_imports_iff_grades :
    Python.Imports (.of grades grade {} "python") "Mark" ∧
      "Scale" ∉ (Context.of grades grade {} "python").entityImports := by
  have hmark : mark ∈ grade.methodList := by decide
  have hscale : scale ∈ grade.methodList := by decide
  obtain ⟨hneeded, himports⟩ :=
    needed_imports_iff (annotates_grade hmark) names_grades.1 (by decide)
  obtain ⟨hmissing, -⟩ := needed_imports_iff (annotates_grade hscale) names_grades.2 (by decide)
  rw [hasParent_grade] at hneeded hmissing
  exact ⟨himports (hneeded.2 (by decide)), fun h => hmissing.1 h ⟨rfl, rfl⟩⟩

/-- An enumeration does not import its base, also when a method returns it. -/
theorem not_needed_imports : ¬ ∀ m : Model, m.LinksClosed → ∀ e ∈ m.entities.values, ∀ o type,
    (Context.of m e o "python").Annotates type → m.Names type → type ≠ e.name →
      type ∈ (Context.of m e o "python").entityImports := by
  intro hall
  have closed : grades.LinksClosed := Model.linksClosed_of_values (by decide)
  have hscale : scale ∈ grade.methodList := by decide
  have himport := hall grades closed grade (by decide) {} _ (annotates_grade hscale) names_grades.2
    (by decide)
  exact (mem_entityImports.1 himport).2 ⟨rfl, hasParent_grade.2 rfl⟩

end Emit

end ClassDiagram
