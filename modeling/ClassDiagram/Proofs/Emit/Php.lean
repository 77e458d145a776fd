import ClassDiagram.Emit.Php
import ClassDiagram.Proofs.Emit.Phrases

/-!
# PHP code

The emitter for PHP balances (`php_balances`): all its braces are those of blocks.  A
value made up for a constant is a numeral or the name of the constant.  The emitter is
extensional (`php_extensional`).
-/

namespace ClassDiagram.Emit

open Text
open Text.Unmatched (opened)

variable {x y : Context} {p : Property} {ps : List Property} {d : Method}

namespace Php

/-! ## Parts of declarations -/

theorem balanced_types : types.Balanced := by decide

theorem unmatched_defaultValue (type : String) : unmatched (defaultValue type) = 1 := by
  rw [defaultValue]
  cases TypeCategory.of type <;> rfl

/-- A value of a constant is given, a numeral or the name of the constant. -/
theorem unmatched_backingValue (hp : p.Balanced) {index : Nat} {value : String}
    (h : backingValue? ps p index = some value) : unmatched value = 1 := by
  rw [backingValue?] at h
  split at h
  next => cases h
  next given hinitial _ => exact Option.some.inj h ▸ (hp.initial given hinitial).unmatched
  next => exact Option.some.inj h ▸ unmatched_toString _
  next =>
    rw [← Option.some.inj h]
    simp (disch := decide) [unmatched_plain, hp.name.unmatched]

theorem unmatched_parentCall (x : Context) : unmatched (parentCall x) = 1 :=
  unmatched_baseCall (by decide) x

/-! ## Before the members -/

/-- Backslashes for dots do nothing to braces. -/
theorem unmatched_path {dotted : String} (h : Balanced dotted) : unmatched (path dotted) = 1 :=
  (unmatched_replaceChar (by decide) (by decide) dotted).trans h.unmatched

/-- What is used is a module or one of its symbols. -/
theorem unmatched_uses (hx : x.Balanced) : ∀ name ∈ uses x, unmatched name = 1 := by
  intro name hname
  rw [uses, mem_firsts] at hname
  refine unmatched_configuredNames hx (fun module symbol hmodule hsymbol => ?_)
    (fun _ hmodule => unmatched_path hmodule) name hname
  simp (disch := decide) [unmatched_plain, unmatched_path hmodule, hsymbol.unmatched]

/-- What backs an enumeration is said by a word. -/
theorem unmatched_declaration (hx : x.Balanced) : unmatched (declaration x) = 1 := by
  rw [declaration]
  cases x.kind with
  | enumeration =>
    cases Backing.of x.properties <;>
      simp (disch := decide) [unmatched_plain, hx.name.unmatched]
  | interface | concrete | abstract =>
    simp (disch := decide) [unmatched_plain, hx.name.unmatched, unmatched_supertypes hx]

/-- The header opens the brace of the type, on a line of its own. -/
theorem unmatched_header (hx : x.Balanced) : unmatched (header x) = opened := by
  have hpackage : unmatched (packageClause "namespace " (x.package?.map path)) = 1 := by
    refine unmatched_packageClause (by decide) fun name hname => ?_
    obtain ⟨package, hpackage, rfl⟩ := Option.map_eq_some_iff.1 hname
    exact unmatched_path (hx.package package hpackage)
  have huses := unmatched_importClauses (by decide : unmatched "use " = 1) (unmatched_uses hx)
  have hopen : unmatched "\x7b" = opened := rfl
  simp (disch := decide) [header, unmatched_plain, hpackage, huses, hopen,
    unmatched_declaration hx]

/-! ## Members -/

theorem unmatched_property (x : Context) (hp : p.Balanced) : unmatched (property x p) = 1 := by
  simp (disch := decide) [property, unmatched_plain, hp.name.unmatched,
    balanced_types.nameFor hp.type, unmatched_initial hp]

/-- A case has a value only if the enumeration is backed. -/
theorem unmatched_constant (x : Context) (hp : p.Balanced) (index : Nat) :
    unmatched (constant x p index) = 1 := by
  have hvalue := unmatched_assigned fun value
    (h : backingValue? x.properties p index = some value) => unmatched_backingValue hp h
  simp (disch := decide) [constant, unmatched_plain, hp.name.unmatched, hvalue]

theorem unmatched_fullConstructor (x : Context) (hps : ∀ p ∈ ps, p.Balanced) :
    unmatched (fullConstructor x ps) = 1 := by
  have hparameters : unmatched (parameters (ps.map parameterFor)) = 1 :=
    unmatched_typedParameters balanced_types rfl (balanced_parametersFor hps)
  have hassignments : unmatched (assignments "$this->" (·.name) "$" ps) = 1 :=
    unmatched_assignments rfl rfl (unmatched_name hps) hps
  simp (disch := decide) [fullConstructor, unmatched_plain, unmatched_parentCall, hparameters,
    hassignments]

theorem unmatched_getter (x : Context) (hp : p.Balanced) : unmatched (getter x p) = 1 := by
  simp (disch := decide) [getter, unmatched_plain, hp.name.unmatched,
    balanced_types.nameFor hp.type]

theorem unmatched_setter (x : Context) (hp : p.Balanced) : unmatched (setter x p) = 1 := by
  simp (disch := decide) [setter, unmatched_plain, hp.name.unmatched,
    balanced_types.nameFor hp.type]

theorem unmatched_equality (x : Context) (hps : ∀ p ∈ ps, p.Balanced) :
    unmatched (equality x ps) = 1 := by
  have hcomparisons : unmatched (returnAll (ps.map fun p =>
      "$this->" ++ p.name ++ " === $other->" ++ p.name)) = 1 := by
    refine unmatched_returnAll (List.forall_mem_map.2 fun p hp => ?_)
    simp (disch := decide) [unmatched_plain, (hps p hp).name.unmatched]
  simp (disch := decide) [equality, unmatched_plain, hcomparisons]

theorem unmatched_stringForm (hx : x.Balanced) (hps : ∀ p ∈ ps, p.Balanced) :
    unmatched (stringForm x ps) = 1 := by
  have hshown : unmatched (commas (ps.map fun p => p.name ++ "=%s")) = 1 := by
    refine unmatched_commas_map fun p hp => ?_
    simp (disch := decide) [unmatched_plain, (hps p hp).name.unmatched]
  have hvalues : unmatched (commas (ps.map fun p =>
      "var_export($this->" ++ p.name ++ ", true)")) = 1 := by
    refine unmatched_commas_map fun p hp => ?_
    simp (disch := decide) [unmatched_plain, (hps p hp).name.unmatched]
  simp (disch := decide) [stringForm, unmatched_plain, hx.name.unmatched, hshown, hvalues]

theorem unmatched_method (x : Context) (hd : d.Balanced) (form : BodyForm) :
    unmatched (method x d form) = 1 := by
  have hparameters : unmatched (parameters d.parameters) = 1 :=
    unmatched_typedParameters balanced_types rfl hd.parameters
  have hsignature := unmatched_annotatedSignature balanced_types hparameters hd
  cases form <;>
    simp (disch := decide) [method, signature, statements, unmatched_plain, hsignature,
      unmatched_returnStatement unmatched_defaultValue]

end Php

/-- Every part of a type in PHP but its first and its last line is balanced, and these two meet. -/
theorem php_balances : php.Balances where
  ends := fun _ hx => unmatched_ends (Php.unmatched_header hx)
  property := fun x _ _ hp => Php.unmatched_property x hp
  constant := fun x _ index _ hp => Php.unmatched_constant x hp index
  defaultConstructor := by
    intro x hx
    simp (disch := decide) [php, Php.defaultConstructor, unmatched_plain, Php.unmatched_parentCall]
  fullConstructor := fun x _ _ hps => Php.unmatched_fullConstructor x hps
  getter := fun x _ _ hp => Php.unmatched_getter x hp
  setter := fun x _ _ hp => Php.unmatched_setter x hp
  equality := fun x _ _ hps => Php.unmatched_equality x hps
  stringForm := fun _ _ hx hps => Php.unmatched_stringForm hx hps
  method := fun x _ form _ hd => Php.unmatched_method x hd form

/-! ## Contexts that are alike -/

namespace Php

/-- The header goes by what the context shows, and for an enumeration by its constants. -/
theorem header_congr (h : x.Alike y) : header x = header y := by
  simp only [header, uses, declaration, h.package, h.configuredNames, h.properties, h.name,
    h.kind, h.supertypes]

end Php

/-- The emitter looks at the properties to find the values of constants. -/
theorem php_extensional : php.Extensional where
  header h := Php.header_congr h
  property h := by
    funext p
    simp only [php, Php.property, h.kind]
  constant h := by
    funext p index
    simp only [php, Php.constant, h.properties]
  defaultConstructor h := by
    simp only [php, Php.defaultConstructor, Php.parentCall, h.baseCall]
  fullConstructor h := by
    funext ps
    simp only [php, Php.fullConstructor, Php.parentCall, h.baseCall]
  getter _ := rfl
  setter _ := rfl
  equality _ := rfl
  stringForm h := by
    funext ps
    simp only [php, Php.stringForm, h.name]
  method _ := rfl
  footer _ := rfl

end ClassDiagram.Emit
