import ClassDiagram.Proofs.Emit.CSharp
import ClassDiagram.Proofs.Emit.Cpp
import ClassDiagram.Proofs.Emit.Java
import ClassDiagram.Proofs.Emit.Php
import ClassDiagram.Proofs.Emit.Python
import ClassDiagram.Proofs.Emit.TypeScript
import ClassDiagram.Target

/-!
# The backends of targets

A target *serves* the backends that it has under some options.  They are those of the
six languages, whose emitters balance and are extensional, and one for each dialect of
a schema (`Target.Serves.cases`).

From balanced models and options the files of a language are balanced
(`balanced_files`).
-/

namespace ClassDiagram

/-! ## Languages -/

namespace Emit

/-- The emitters for the languages. -/
def languages : List Emitter := [java, csharp, cpp, python, typescript, php]

theorem forall_mem_languages {P : Emitter → Prop} : (∀ em ∈ languages, P em) ↔
    P java ∧ P csharp ∧ P cpp ∧ P python ∧ P typescript ∧ P php := by
  simp [languages]

theorem languages_accept : ∀ em ∈ languages, ∀ e, em.accepts e = true :=
  forall_mem_languages.2
    ⟨fun _ => rfl, fun _ => rfl, fun _ => rfl, fun _ => rfl, fun _ => rfl, fun _ => rfl⟩

/-- Every language puts its braces in pairs. -/
theorem languages_balance : ∀ em ∈ languages, em.Balances :=
  forall_mem_languages.2 ⟨java_balances, csharp_balances, cpp_balances, python_balances,
    typescript_balances, php_balances⟩

theorem languages_extensional : ∀ em ∈ languages, em.Extensional :=
  forall_mem_languages.2 ⟨java_extensional, csharp_extensional, cpp_extensional,
    python_extensional, typescript_extensional, php_extensional⟩

end Emit

/-! ## Targets -/

namespace Target

/-- Under some options the target has the backend. -/
def Serves (t : Target) (b : Emit.Backend) : Prop := ∃ o, t.backend o = .ok b

variable {t : Target} {b : Emit.Backend}

/-- Every target but the schema is served by one of the languages. -/
theorem Serves.language (h : t.Serves b) (ht : t ≠ .sql) :
    ∃ em ∈ Emit.languages, b = em.backend := by
  obtain ⟨o, ho⟩ := h
  have hlanguage (em : Emit.Emitter) (hem : em ∈ Emit.languages)
      (hb : Except.ok em.backend = (Except.ok b : Except SelectionError Emit.Backend)) :
      ∃ em ∈ Emit.languages, b = em.backend :=
    ⟨em, hem, (Except.ok.inj hb).symm⟩
  cases t with
  | java => exact hlanguage Emit.java (by simp [Emit.languages]) ho
  | csharp => exact hlanguage Emit.csharp (by simp [Emit.languages]) ho
  | cpp => exact hlanguage Emit.cpp (by simp [Emit.languages]) ho
  | python => exact hlanguage Emit.python (by simp [Emit.languages]) ho
  | typescript => exact hlanguage Emit.typescript (by simp [Emit.languages]) ho
  | php => exact hlanguage Emit.php (by simp [Emit.languages]) ho
  | sql => exact absurd rfl ht

/-- The schema is served in one of the dialects. -/
theorem Serves.schema (h : Target.sql.Serves b) : ∃ d, b = Schema.backend d := by
  obtain ⟨o, ho⟩ := h
  change schemaBackend o = .ok b at ho
  rw [schemaBackend] at ho
  split at ho
  next d _ => exact ⟨d, (Except.ok.inj ho).symm⟩
  next => cases ho

/-- What a target serves is the backend of a language or one for schemas. -/
theorem Serves.cases (h : t.Serves b) :
    (∃ em ∈ Emit.languages, b = em.backend) ∨ ∃ d, b = Schema.backend d := by
  by_cases ht : t = .sql
  · exact Or.inr (Serves.schema (ht ▸ h))
  · exact Or.inl (h.language ht)

end Target

/-! ## Balance -/

/-- From a balanced model and balanced options, every file of a language is balanced. -/
theorem balanced_files {t : Target} (ht : t ≠ .sql) {b : Emit.Backend} (hb : t.Serves b) {m : Model}
    (hm : m.Balanced) {o : Options} (ho : o.Balanced) :
    ∀ file ∈ b.files m o, Text.Balanced file.2 := by
  obtain ⟨em, hem, rfl⟩ := hb.language ht
  intro file hfile
  obtain ⟨e, he, rfl⟩ := List.mem_map.1 hfile
  have hentity : e.Balanced := hm e (List.mem_of_mem_filter he)
  have hcontext := Emit.Context.balanced_of hm hentity ho em.name
  exact Text.balanced_iff.2 ((Emit.languages_balance em hem).entityText hcontext)

/-- A class whose members have braces in their types and values. -/
def registry : Entity :=
  { kind := .abstract, name := "Registry",
    properties := .ofList
      [(0, { access := .everyone, name := "entries", type := "Map\x7bKey, \x7bItem\x7d\x7d",
             initial := "new Map\x7b\x7d" }),
       (1, { name := "limit", type := "int", constraints := { isStatic := true } })],
    methods := .ofList
      [(0, { name := "find", returns := "Item\x7b\x7d", parameters := [⟨"key", "\x7bKey\x7d"⟩] })],
    links := { interfaces := ["s"] } }

/-- The registry with an interface whose method it owes. -/
def store : Model :=
  ⟨.ofList
    [("r", registry),
     ("s", { kind := .interface, name := "Store",
             methods := .ofList [(0, { name := "clear", access := .everyone })] })]⟩

/-- Options with all that puts braces into a file. -/
def everything : Options :=
  { package := "acme.stock", members := ⟨true, true, true, true⟩, encapsulate := true,
    targets := .ofList [("cpp", { imports := .ofList [("map", some ["Map\x7b\x7d"])] })] }

/-- The store has files for C++, all with their braces in pairs. -/
theorem balanced_files_store :
    Emit.cpp.backend.files store everything ≠ [] ∧
      ∀ file ∈ Emit.cpp.backend.files store everything, Text.Balanced file.2 :=
  ⟨by decide, balanced_files (t := .cpp) (by decide) ⟨everything, rfl⟩ (by decide) (by decide)⟩

end ClassDiagram
