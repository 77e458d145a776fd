import ClassDiagram.Emit.CSharp
import ClassDiagram.Proofs.Emit.Phrases

/-!
# C# code

The emitter for C# balances (`csharp_balances`).  Braces within a line are those of an
accessor property, and in the text for an instance those around each property.  The
emitter is extensional (`csharp_extensional`).
-/

namespace ClassDiagram.Emit

open Text
open Text.Unmatched (opened closed)

variable {x y : Context} {p : Property} {ps : List Property} {d : Method}

namespace CSharp

/-! ## Parts of declarations -/

theorem balanced_types : types.Balanced := by decide

theorem unmatched_defaultValue (type : String) : unmatched (defaultValue type) = 1 := by
  rw [defaultValue]
  decide

/-! ## Before the members -/

theorem unmatched_usings (hx : x.Balanced) : ∀ name ∈ usings x, unmatched name = 1 := by
  intro name hname
  rw [usings, mem_firsts, List.mem_cons] at hname
  rcases hname with rfl | hmodule
  · decide
  · obtain ⟨i, hi, rfl⟩ := List.mem_map.1 hmodule
    exact (hx.modules i hi).unmatched

/-- The names after the colon are those of other entities. -/
theorem unmatched_parents (hx : x.Balanced) : ∀ name ∈ parents x, unmatched name = 1 := by
  intro name hname
  rw [parents, List.mem_append] at hname
  rcases hname with hbase | hinterface
  · split at hbase
    next => exact (hx.of_mem_bases hbase).unmatched
    next => exact (hx.of_mem_bases (List.mem_of_mem_take hbase)).unmatched
  · exact (hx.of_mem_interfaces hinterface).unmatched

/-- The header opens the brace of the type. -/
theorem unmatched_header (hx : x.Balanced) : unmatched (header x) = opened := by
  have husings := unmatched_importClauses (by decide : unmatched "using " = 1)
    (unmatched_usings hx)
  have hpackage := unmatched_packageClause (by decide : unmatched "namespace " = 1)
    fun package h => (hx.package package h).unmatched
  have hparents := unmatched_commas (unmatched_parents hx)
  have hopen : unmatched "\x7b" = opened := rfl
  simp (disch := decide) [header, unmatched_plain, husings, hpackage, hparents, hopen,
    hx.name.unmatched]

/-! ## Members -/

/-- Raising a character does not make a brace or take one away. -/
theorem unmatched_accessorName (hp : p.Balanced) : unmatched (accessorName p) = 1 :=
  (unmatched_capitalize p.name).trans hp.name.unmatched

theorem unmatched_fieldName (hp : p.Balanced) : unmatched (fieldName p) = 1 := hp.name.unmatched

/-- In an interface a property has its braces on one line. -/
theorem unmatched_property (x : Context) (hp : p.Balanced) : unmatched (property x p) = 1 := by
  have haccessors : unmatched " \x7b get; set; \x7d" = 1 := by decide
  simp (disch := decide) [property, unmatched_plain, unmatched_accessorName hp,
    unmatched_fieldName hp, balanced_types.nameFor hp.type, unmatched_initial hp, haccessors]

theorem unmatched_fullConstructor (hx : x.Balanced) (hps : ∀ p ∈ ps, p.Balanced) :
    unmatched (fullConstructor x ps) = 1 := by
  have hparameters : unmatched (parameters (ps.map parameterFor)) = 1 :=
    unmatched_typedParameters balanced_types rfl (balanced_parametersFor hps)
  have hassignments : unmatched (assignments "this." (·.name) "" ps) = 1 :=
    unmatched_assignments rfl rfl (unmatched_name hps) hps
  simp (disch := decide) [fullConstructor, unmatched_plain, hx.name.unmatched, hparameters,
    hassignments]

theorem unmatched_getter (x : Context) (hp : p.Balanced) : unmatched (getter x p) = 1 := by
  simp (disch := decide) [getter, unmatched_plain, unmatched_accessorName hp,
    unmatched_fieldName hp, balanced_types.nameFor hp.type]

/-- Equality and the hash have blocks of their own. -/
theorem unmatched_equality (hx : x.Balanced) (hps : ∀ p ∈ ps, p.Balanced) :
    unmatched (equality x ps) = 1 := by
  have hcomparisons : unmatched (String.join (ps.map fun p =>
      "\n" ++ margin 3 ++ "&& Equals(this." ++ p.name ++ ", other." ++ p.name ++ ")")) = 1 := by
    refine unmatched_join_map fun p hp => ?_
    simp (disch := decide) [unmatched_plain, (hps p hp).name.unmatched]
  have hhash : unmatched (String.join (ps.map fun p =>
      line 2 ("hash.Add(this." ++ p.name ++ ");"))) = 1 := by
    refine unmatched_join_map fun p hp => ?_
    simp (disch := decide) [unmatched_plain, (hps p hp).name.unmatched]
  simp (disch := decide) [equality, unmatched_plain, hx.name.unmatched, hcomparisons, hhash]

/-- The name of each property stands in braces. -/
theorem unmatched_stringForm (hx : x.Balanced) (hps : ∀ p ∈ ps, p.Balanced) :
    unmatched (stringForm x ps) = 1 := by
  have hopen : unmatched "=\x7bthis." = opened := rfl
  have hclose : unmatched "\x7d" = closed := rfl
  have hfields : unmatched (commas (ps.map fun p =>
      p.name ++ "=\x7bthis." ++ p.name ++ "\x7d")) = 1 := by
    refine unmatched_commas_map fun p hp => ?_
    simp [(hps p hp).name.unmatched, hopen, hclose]
  simp (disch := decide) [stringForm, unmatched_plain, hx.name.unmatched, hfields]

/-- A method is a signature, or one with a block. -/
theorem unmatched_method (x : Context) (hd : d.Balanced) (form : BodyForm) :
    unmatched (method x d form) = 1 := by
  cases form <;>
    simp (disch := decide) [method, signature, statements, unmatched_plain,
      unmatched_typedSignature balanced_types hd, unmatched_returnStatement unmatched_defaultValue]

end CSharp

/-- Every part of a type in C# but its first and its last line is balanced, and these two meet. -/
theorem csharp_balances : csharp.Balances where
  ends := fun _ hx => unmatched_ends (CSharp.unmatched_header hx)
  property := fun x _ _ hp => CSharp.unmatched_property x hp
  constant := fun _ _ _ _ hp => unmatched_enumerator hp
  defaultConstructor := by
    intro x hx
    simp (disch := decide) [csharp, CSharp.defaultConstructor, unmatched_plain, hx.name.unmatched]
  fullConstructor := fun _ _ hx hps => CSharp.unmatched_fullConstructor hx hps
  getter := fun x _ _ hp => CSharp.unmatched_getter x hp
  setter := fun _ _ _ _ => rfl
  equality := fun _ _ hx hps => CSharp.unmatched_equality hx hps
  stringForm := fun _ _ hx hps => CSharp.unmatched_stringForm hx hps
  method := fun x _ form _ hd => CSharp.unmatched_method x hd form

/-! ## Contexts that are alike -/

namespace CSharp

theorem parents_congr (h : x.Alike y) : parents x = parents y := by
  rw [parents, parents, h.kind, h.bases, h.interfaces]

/-- The header goes by the name, the kind, the package and what the type depends on. -/
theorem header_congr (h : x.Alike y) : header x = header y := by
  simp only [header, usings, parents_congr h, h.configuredImports, h.package, h.name, h.kind]

end CSharp

/-- The emitter looks at the kind and the name of an entity only. -/
theorem csharp_extensional : csharp.Extensional where
  header h := CSharp.header_congr h
  property h := by
    funext p
    simp only [csharp, CSharp.property, h.kind]
  constant _ := rfl
  defaultConstructor h := by simp only [csharp, CSharp.defaultConstructor, h.name]
  fullConstructor h := by
    funext ps
    simp only [csharp, CSharp.fullConstructor, h.name]
  getter _ := rfl
  setter _ := rfl
  equality h := by
    funext ps
    simp only [csharp, CSharp.equality, h.name]
  stringForm h := by
    funext ps
    simp only [csharp, CSharp.stringForm, h.name]
  method h := by
    funext d form
    simp only [csharp, CSharp.method, h.kind]
  footer _ := rfl

end ClassDiagram.Emit
