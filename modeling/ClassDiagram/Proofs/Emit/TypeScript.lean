import ClassDiagram.Emit.TypeScript
import ClassDiagram.Proofs.Emit.Phrases

/-!
# TypeScript code

The emitter for TypeScript balances (`typescript_balances`).  Apart from those of blocks
there are braces around the names of an import, and around the fields in the text for an
instance.  The emitter is extensional (`typescript_extensional`).
-/

namespace ClassDiagram.Emit

open Text
open Text.Unmatched (opened closed)

variable {x y : Context} {p : Property} {ps : List Property} {d : Method}

namespace TypeScript

/-! ## Parts of declarations -/

theorem balanced_types : types.Balanced := by decide

theorem unmatched_defaultValue (type : String) : unmatched (defaultValue type) = 1 := by
  rw [defaultValue]
  cases TypeCategory.of type <;> rfl

/-- The name of a field may have an underscore before it. -/
theorem unmatched_field (hp : p.Balanced) : unmatched (field p) = 1 := by
  simp (disch := decide) [field, unmatched_plain, hp.name.unmatched]

theorem unmatched_parameters {l : List Parameter} (h : ∀ q ∈ l, q.Balanced) :
    unmatched (parameters l) = 1 :=
  unmatched_commas_map fun q hq => unmatched_annotatedParameter balanced_types (h q hq)

/-- A class with a base calls its constructor. -/
theorem unmatched_superCall (x : Context) : unmatched (superCall x) = 1 :=
  unmatched_baseCall (by decide) x

/-! ## Before the members -/

/-- The names that are imported stand in braces. -/
theorem unmatched_imports (hx : x.Balanced) : ∀ text ∈ imports x, unmatched text = 1 := by
  have hopen : unmatched "import \x7b " = opened := rfl
  have hclose : unmatched " \x7d from \"" = closed := rfl
  have hcloseLocal : unmatched " \x7d from \"./" = closed := rfl
  rw [imports, List.forall_mem_append]
  constructor
  · refine List.forall_mem_map.2 fun i hi => ?_
    obtain ⟨module, symbols?⟩ := i
    have hmodule : unmatched module = 1 := (hx.modules _ hi).unmatched
    cases symbols? with
    | none => simp (disch := decide) [unmatched_plain, hmodule]
    | some symbols =>
      have hsymbols := unmatched_commas fun symbol h => (hx.symbols _ hi _ rfl symbol h).unmatched
      simp (disch := decide) [unmatched_plain, hmodule, hsymbols, hopen, hclose]
  · refine List.forall_mem_map.2 fun name hname => ?_
    simp (disch := decide) [unmatched_plain, (hx.of_mem_entityImports hname).unmatched, hopen,
      hcloseLocal]

/-- The header opens the brace of the type. -/
theorem unmatched_header (hx : x.Balanced) : unmatched (header x) = opened := by
  have himports : unmatched (paragraph (imports x)) = 1 :=
    unmatched_paragraph (unmatched_imports hx)
  have hopen : unmatched " \x7b" = opened := rfl
  simp (disch := decide) [header, declaration, unmatched_plain, himports, hopen,
    hx.name.unmatched, unmatched_supertypes hx]

/-! ## Members -/

/-- In an interface a property has its own name, and elsewhere that of its field. -/
theorem unmatched_property (x : Context) (hp : p.Balanced) : unmatched (property x p) = 1 := by
  simp (disch := decide) [property, unmatched_plain, hp.name.unmatched, unmatched_field hp,
    balanced_types.nameFor hp.type, unmatched_initial hp]

theorem unmatched_fullConstructor (x : Context) (hps : ∀ p ∈ ps, p.Balanced) :
    unmatched (fullConstructor x ps) = 1 := by
  have hparameters : unmatched (parameters (ps.map parameterFor)) = 1 :=
    unmatched_parameters (balanced_parametersFor hps)
  have hassignments : unmatched (assignments "this." field "" ps) = 1 :=
    unmatched_assignments rfl rfl (fun p hp => unmatched_field (hps p hp)) hps
  simp (disch := decide) [fullConstructor, unmatched_plain, unmatched_superCall, hparameters,
    hassignments]

theorem unmatched_getter (x : Context) (hp : p.Balanced) : unmatched (getter x p) = 1 := by
  simp (disch := decide) [getter, unmatched_plain, hp.name.unmatched,
    balanced_types.nameFor hp.type, unmatched_field hp]

theorem unmatched_setter (x : Context) (hp : p.Balanced) : unmatched (setter x p) = 1 := by
  simp (disch := decide) [setter, unmatched_plain, hp.name.unmatched,
    balanced_types.nameFor hp.type, unmatched_field hp]

/-- Equality compares the fields one by one. -/
theorem unmatched_equality (hx : x.Balanced) (hps : ∀ p ∈ ps, p.Balanced) :
    unmatched (equality x ps) = 1 := by
  have hcomparisons : unmatched (returnAll (ps.map fun p =>
      "this." ++ field p ++ " === other." ++ field p)) = 1 := by
    refine unmatched_returnAll (List.forall_mem_map.2 fun p hp => ?_)
    simp (disch := decide) [unmatched_plain, unmatched_field (hps p hp)]
  simp (disch := decide) [equality, unmatched_plain, hcomparisons, hx.name.unmatched]

/-- Every field stands in braces of its own. -/
theorem unmatched_stringForm (hx : x.Balanced) (hps : ∀ p ∈ ps, p.Balanced) :
    unmatched (stringForm x ps) = 1 := by
  have hopen : unmatched "=$\x7bthis." = opened := rfl
  have hclose : unmatched "\x7d" = closed := rfl
  have hfields : unmatched (commas (ps.map fun p =>
      p.name ++ "=$\x7bthis." ++ field p ++ "\x7d")) = 1 := by
    refine unmatched_commas_map fun p hp => ?_
    simp [(hps p hp).name.unmatched, unmatched_field (hps p hp), hopen, hclose]
  simp (disch := decide) [stringForm, unmatched_plain, hx.name.unmatched, hfields]

theorem unmatched_method (x : Context) (hd : d.Balanced) (form : BodyForm) :
    unmatched (method x d form) = 1 := by
  have hsignature := unmatched_annotatedSignature balanced_types
    (unmatched_parameters hd.parameters) hd
  cases form <;>
    simp (disch := decide) [method, signature, statements, unmatched_plain, hsignature,
      unmatched_returnStatement unmatched_defaultValue]

end TypeScript

/-- Every part of a type in TypeScript but its first and its last line is balanced, and these two
meet. -/
theorem typescript_balances : typescript.Balances where
  ends := fun _ hx => unmatched_ends (TypeScript.unmatched_header hx)
  property := fun x _ _ hp => TypeScript.unmatched_property x hp
  constant := fun _ _ _ _ hp => unmatched_enumerator hp
  defaultConstructor := by
    intro x hx
    simp (disch := decide) [typescript, TypeScript.defaultConstructor, unmatched_plain,
      TypeScript.unmatched_superCall]
  fullConstructor := fun x _ _ hps => TypeScript.unmatched_fullConstructor x hps
  getter := fun x _ _ hp => TypeScript.unmatched_getter x hp
  setter := fun x _ _ hp => TypeScript.unmatched_setter x hp
  equality := fun _ _ hx hps => TypeScript.unmatched_equality hx hps
  stringForm := fun _ _ hx hps => TypeScript.unmatched_stringForm hx hps
  method := fun x _ form _ hd => TypeScript.unmatched_method x hd form

/-! ## Contexts that are alike -/

namespace TypeScript

/-- The header goes by the imports, the name, the kind and what the type is derived from. -/
theorem header_congr (h : x.Alike y) : header x = header y := by
  simp only [header, imports, declaration, h.configuredImports, h.entityImports, h.name, h.kind,
    h.supertypes]

end TypeScript

/-- The emitter looks at the bases of a class and nothing else of the model. -/
theorem typescript_extensional : typescript.Extensional where
  header h := TypeScript.header_congr h
  property h := by
    funext p
    simp only [typescript, TypeScript.property, h.kind]
  constant _ := rfl
  defaultConstructor h := by
    simp only [typescript, TypeScript.defaultConstructor, TypeScript.superCall, h.baseCall]
  fullConstructor h := by
    funext ps
    simp only [typescript, TypeScript.fullConstructor, TypeScript.superCall, h.baseCall]
  getter _ := rfl
  setter _ := rfl
  equality h := by
    funext ps
    simp only [typescript, TypeScript.equality, h.name]
  stringForm h := by
    funext ps
    simp only [typescript, TypeScript.stringForm, h.name]
  method h := by
    funext d form
    simp only [typescript, TypeScript.method, h.kind]
  footer _ := rfl

end ClassDiagram.Emit
