import ClassDiagram.Emit.Java
import ClassDiagram.Proofs.Emit.Phrases

/-!
# Java code

The emitter for Java balances (`java_balances`).  The brace of the type is closed by
the footer, and those around the properties of an instance meet although they stand in
two pieces of text.  The emitter is extensional (`java_extensional`).
-/

namespace ClassDiagram.Emit

open Text
open Text.Unmatched (opened closed)

variable {x y : Context} {p : Property} {ps : List Property} {d : Method}

namespace Java

/-! ## Parts of declarations -/

theorem balanced_types : types.Balanced := by decide

theorem unmatched_defaultValue (type : String) : unmatched (defaultValue type) = 1 :=
  TypeTable.Balanced.lookup_getD (by decide) (by decide)

theorem unmatched_modifiers (access : Access) (isStatic isFinal : Bool) :
    unmatched (modifiers access isStatic isFinal) = 1 := by
  simp (disch := decide) [modifiers, unmatched_plain]

/-! ## Before the members -/

/-- What is imported is named by the options, belongs to the library or is for equality. -/
theorem unmatched_imports (hx : x.Balanced) : ∀ name ∈ imports x, unmatched name = 1 := by
  intro name hname
  rw [imports, mem_firsts, List.mem_append, List.mem_append] at hname
  rcases hname with (hconfigured | hlibrary) | hobjects
  · refine unmatched_configuredNames hx (fun module symbol hmodule hsymbol => ?_)
      (fun module hmodule => ?_) name hconfigured
    · simp (disch := decide) [unmatched_plain, hmodule.unmatched, hsymbol.unmatched]
    · simp (disch := decide) [unmatched_plain, hmodule.unmatched]
  · obtain ⟨type, -, hname⟩ := List.mem_filterMap.1 hlibrary
    exact TypeTable.Balanced.of_lookup (by decide) hname
  · split at hobjects
    next =>
      rw [List.mem_singleton.1 hobjects]
      decide
    next => cases hobjects

/-- The header opens the brace of the type. -/
theorem unmatched_header (hx : x.Balanced) : unmatched (header x) = opened := by
  have hpackage := unmatched_packageClause (by decide : unmatched "package " = 1)
    fun package h => (hx.package package h).unmatched
  have himports := unmatched_importClauses (by decide : unmatched "import " = 1)
    (unmatched_imports hx)
  have hopen : unmatched " \x7b" = opened := rfl
  simp (disch := decide) [header, declaration, unmatched_plain, hpackage, himports, hopen,
    hx.name.unmatched, unmatched_supertypes hx]

/-! ## Members -/

/-- In an interface a property without a value gets one of its type. -/
theorem unmatched_property (hp : p.Balanced) : unmatched (property x p) = 1 := by
  have hgiven := unmatched_initial_getD hp (unmatched_defaultValue p.type)
  simp (disch := decide) [property, unmatched_plain, hp.name.unmatched,
    balanced_types.nameFor hp.type, unmatched_initial hp, hgiven, unmatched_modifiers]

theorem unmatched_constant (hp : p.Balanced) (index : Nat) :
    unmatched (constant x p index) = 1 := by
  simp (disch := decide) [constant, unmatched_plain, hp.name.unmatched, unmatched_initial hp]

theorem unmatched_fullConstructor (hx : x.Balanced) (hps : ∀ p ∈ ps, p.Balanced) :
    unmatched (fullConstructor x ps) = 1 := by
  have hparameters : unmatched (parameters (ps.map parameterFor)) = 1 :=
    unmatched_typedParameters balanced_types rfl (balanced_parametersFor hps)
  have hassignments : unmatched (assignments "this." (·.name) "" ps) = 1 :=
    unmatched_assignments rfl rfl (unmatched_name hps) hps
  simp (disch := decide) [fullConstructor, unmatched_plain, hx.name.unmatched, hparameters,
    hassignments]

/-- Equality has two blocks within its own. -/
theorem unmatched_equality (hx : x.Balanced) (hps : ∀ p ∈ ps, p.Balanced) :
    unmatched (equality x ps) = 1 := by
  have hcomparisons : unmatched (returnAll (ps.map fun p =>
      "Objects.equals(" ++ p.name ++ ", other." ++ p.name ++ ")")) = 1 := by
    refine unmatched_returnAll (List.forall_mem_map.2 fun p hp => ?_)
    simp (disch := decide) [unmatched_plain, (hps p hp).name.unmatched]
  have hnames : unmatched (commas (ps.map (·.name))) = 1 :=
    unmatched_commas_map fun p hp => (hps p hp).name.unmatched
  simp only [equality, unmatched_append, unmatched_spaced, unmatched_block, unmatched_line,
    hcomparisons, hnames, hx.name.unmatched]
  simp (disch := decide) [unmatched_plain]

/-- The braces around the properties of an instance stand in two pieces of text. -/
theorem unmatched_stringForm (hx : x.Balanced) (hps : ∀ p ∈ ps, p.Balanced) :
    unmatched (stringForm x ps) = 1 := by
  have hfields : unmatched (String.join (ps.mapIdx fun index p => line 3
      ("\"" ++ (if index = 0 then "" else ", ") ++ p.name ++ "=\" + " ++ p.name ++ " +"))) = 1 := by
    refine unmatched_join_mapIdx fun index p hp => ?_
    simp (disch := decide) [unmatched_plain, (hps p hp).name.unmatched]
  have hopen : unmatched "\x7b\" +" = opened := rfl
  have hclose : unmatched "\"\x7d\";" = closed := rfl
  simp (disch := decide) [stringForm, unmatched_plain, hx.name.unmatched, hfields, hopen, hclose]

/-- A method is a signature, or one with a block. -/
theorem unmatched_method (x : Context) (hd : d.Balanced) (form : BodyForm) :
    unmatched (method x d form) = 1 := by
  cases form <;>
    simp (disch := decide) [method, signature, statements, unmatched_plain, unmatched_modifiers,
      unmatched_typedSignature balanced_types hd, unmatched_returnStatement unmatched_defaultValue]

end Java

/-- Every part of a type in Java but its first and its last line is balanced, and these two meet. -/
theorem java_balances : java.Balances where
  ends := fun _ hx => unmatched_ends (Java.unmatched_header hx)
  property := fun _ _ _ hp => Java.unmatched_property hp
  constant := fun _ _ index _ hp => Java.unmatched_constant hp index
  defaultConstructor := by
    intro x hx
    simp (disch := decide) [java, Java.defaultConstructor, unmatched_plain, hx.name.unmatched]
  fullConstructor := fun _ _ hx hps => Java.unmatched_fullConstructor hx hps
  getter := by
    intro x p _ hp
    simp (disch := decide) [java, Java.getter, unmatched_plain, hp.name.unmatched,
      Java.balanced_types.nameFor hp.type]
  setter := by
    intro x p _ hp
    simp (disch := decide) [java, Java.setter, unmatched_plain, hp.name.unmatched,
      Java.balanced_types.nameFor hp.type]
  equality := fun _ _ hx hps => Java.unmatched_equality hx hps
  stringForm := fun _ _ hx hps => Java.unmatched_stringForm hx hps
  method := fun x _ form _ hd => Java.unmatched_method x hd form

/-! ## Contexts that are alike -/

namespace Java

/-- The header goes by what the context shows, down to the types in use. -/
theorem header_congr (h : x.Alike y) : header x = header y := by
  simp only [header, imports, declaration, h.package, h.configuredNames, h.usedTypes,
    h.emitsValueMembers, h.members, h.name, h.kind, h.supertypes]

end Java

/-- The emitter looks at the properties only to find the last constant. -/
theorem java_extensional : java.Extensional where
  header h := Java.header_congr h
  property h := by
    funext p
    simp only [java, Java.property, h.kind]
  constant h := by
    funext p index
    simp only [java, Java.constant, h.properties]
  defaultConstructor h := by simp only [java, Java.defaultConstructor, h.name]
  fullConstructor h := by
    funext ps
    simp only [java, Java.fullConstructor, h.name]
  getter _ := rfl
  setter _ := rfl
  equality h := by
    funext ps
    simp only [java, Java.equality, h.name]
  stringForm h := by
    funext ps
    simp only [java, Java.stringForm, h.name]
  method _ := rfl
  footer _ := rfl

end ClassDiagram.Emit
