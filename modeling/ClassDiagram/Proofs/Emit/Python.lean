import ClassDiagram.Emit.Python
import ClassDiagram.Proofs.Emit.Phrases

/-!
# Python code

The emitter for Python balances (`python_balances`): it writes braces only around the
attributes in the text for an instance.  It is extensional (`python_extensional`).
-/

namespace ClassDiagram.Emit

open Text
open Text.Unmatched (opened closed)

variable {x y : Context} {p : Property} {ps : List Property} {d : Method}

namespace Python

/-! ## Parts of declarations -/

theorem balanced_types : types.Balanced := by decide

theorem unmatched_defaultValue (type : String) : unmatched (defaultValue type) = 1 := by
  rw [defaultValue]
  split
  next => rfl
  next => cases TypeCategory.of type <;> rfl

/-- An underscore is no brace. -/
theorem unmatched_attributeName (hp : p.Balanced) : unmatched (attributeName p) = 1 := by
  have hunderscore : unmatched "_" = 1 := rfl
  rw [attributeName]
  cases p.access <;> simp [hunderscore, hp.name.unmatched]

theorem unmatched_parameter {q : Parameter} (h : q.Balanced) : unmatched (parameter q) = 1 :=
  unmatched_annotatedParameter balanced_types h

/-- Before the parameters of a method there may be one for the instance. -/
theorem unmatched_parameters (hd : d.Balanced) : unmatched (parameters d) = 1 := by
  refine unmatched_commas fun s hs => ?_
  rcases List.mem_append.1 hs with hself | hparameter
  · rw [wordWhen] at hself
    split at hself
    next =>
      rw [List.mem_singleton.1 hself]
      decide
    next => cases hself
  · obtain ⟨q, hq, rfl⟩ := List.mem_map.1 hparameter
    exact unmatched_parameter (hd.parameters q hq)

theorem unmatched_tuple {l : List String} (h : ∀ s ∈ l, unmatched s = 1) :
    unmatched (tuple l) = 1 := by
  rw [tuple.eq_def]
  split
  next item => simp (disch := decide) [unmatched_plain, h item List.mem_cons_self]
  next => simp (disch := decide) [unmatched_plain, unmatched_commas h]

theorem unmatched_superCall (x : Context) : unmatched (superCall x) = 1 :=
  unmatched_baseCall (by decide) x

/-! ## Imports -/

/-- An import is balanced if its module and its names are. -/
theorem unmatched_importFrom (depth : Nat) {module : String} (hmodule : unmatched module = 1)
    {names : List String} (hnames : ∀ name ∈ names, unmatched name = 1) :
    unmatched (importFrom depth module names) = 1 := by
  simp (disch := decide) [importFrom, unmatched_plain, hmodule, unmatched_commas hnames]

/-- The module of an entity is named after the package and the entity. -/
theorem unmatched_modulePath (hx : x.Balanced) {entity : String} (h : unmatched entity = 1) :
    unmatched (modulePath x entity) = 1 := by
  rw [modulePath]
  split
  next package hpackage =>
    simp (disch := decide) [unmatched_plain, (hx.package package hpackage).unmatched, h]
  next => exact h

theorem unmatched_entityImport (hx : x.Balanced) (depth : Nat) {entity : String}
    (h : unmatched entity = 1) : unmatched (entityImport x depth entity) = 1 :=
  unmatched_importFrom depth (unmatched_modulePath hx h) (List.forall_mem_singleton.2 h)

/-- The modules and names of the standard library come from fixed lists. -/
theorem unmatched_libraryNames {entry : String × String} (h : entry ∈ libraryNames x) :
    unmatched entry.1 = 1 ∧ unmatched entry.2 = 1 := by
  have hfixed : ∀ entry ∈ [("abc", "ABC"), ("abc", "abstractmethod"), ("enum", "Enum"),
      ("enum", "auto"), ("typing", "ClassVar"), ("typing", "TYPE_CHECKING")],
      unmatched entry.1 = 1 ∧ unmatched entry.2 = 1 := by decide
  have htypes : ∀ entry ∈ libraryTypes, unmatched entry.2 = 1 ∧ unmatched entry.1 = 1 := by decide
  simp only [libraryNames, List.mem_append] at h
  rcases h with ((hkind | htype) | hstatic) | hchecking
  · refine hfixed entry ?_
    cases hkindOf : x.kind with
    | concrete => simp [hkindOf] at hkind
    | interface | abstract => aesop
    | enumeration => aesop
  · obtain ⟨type, -, hentry⟩ := List.mem_filterMap.1 htype
    obtain ⟨module, hmodule, rfl⟩ := Option.map_eq_some_iff.1 hentry
    exact htypes _ (mem_of_lookup hmodule)
  · split at hstatic
    next => exact hfixed entry (by simp [List.mem_singleton.1 hstatic])
    next => cases hstatic
  · split at hchecking
    next => cases hchecking
    next => exact hfixed entry (by simp [List.mem_singleton.1 hchecking])

/-- Names from the library are imported by their modules. -/
theorem unmatched_importLines {names : List (String × String)}
    (h : ∀ entry ∈ names, unmatched entry.1 = 1 ∧ unmatched entry.2 = 1) :
    unmatched (String.join (importLines names)) = 1 := by
  refine unmatched_join_map fun module hmodule => ?_
  obtain ⟨entry, hentry, rfl⟩ := List.mem_map.1 (mem_firsts.1 hmodule)
  refine unmatched_importFrom 0 (h entry hentry).1 fun name hname => ?_
  obtain ⟨other, hother, rfl⟩ := List.mem_map.1 (mem_firsts.1 hname)
  exact (h other (List.mem_of_mem_filter hother)).2

/-- What a class is derived from is imported, and what the options ask for. -/
theorem unmatched_plainImports (hx : x.Balanced) : unmatched (plainImports x) = 1 := by
  have hparents : unmatched (String.join (x.parents.map (entityImport x 0))) = 1 :=
    unmatched_join_map fun name h => unmatched_entityImport hx 0 (hx.of_mem_parents h).unmatched
  rw [plainImports, unmatched_append, hparents, mul_one]
  refine unmatched_join_map fun i hi => ?_
  obtain ⟨module, symbols?⟩ := i
  have hmodule : unmatched module = 1 := (hx.modules _ hi).unmatched
  cases symbols? with
  | none => simp (disch := decide) [unmatched_plain, hmodule]
  | some symbols =>
    exact unmatched_importFrom 0 hmodule fun symbol h => (hx.symbols _ hi _ rfl symbol h).unmatched

/-- What is needed in annotations is imported for type checking. -/
theorem unmatched_deferredImports (hx : x.Balanced) : unmatched (deferredImports x) = 1 := by
  have hentities : unmatched (String.join ((annotationOnly x).map (entityImport x 1))) = 1 :=
    unmatched_join_map fun name h => unmatched_entityImport hx 1
      (hx.of_mem_entityImports (List.mem_of_mem_filter h)).unmatched
  simp (disch := decide) [deferredImports, unmatched_plain, hentities]

/-- All imports together leave nothing. -/
theorem unmatched_imports (hx : x.Balanced) : unmatched (imports x) = 1 := by
  have hlibrary := unmatched_importLines fun _ h => unmatched_libraryNames (x := x) h
  simp (disch := decide) [imports, localImports, unmatched_plain, hlibrary,
    unmatched_plainImports hx, unmatched_deferredImports hx]

/-! ## Before and after the members -/

/-- A class that is derived from nothing may get a base from the library. -/
theorem unmatched_parents (hx : x.Balanced) : ∀ name ∈ parents x, unmatched name = 1 := by
  have hparents : ∀ name ∈ x.parents, unmatched name = 1 :=
    fun _ h => (hx.of_mem_parents h).unmatched
  have hbase : ∀ name ∈ ["ABC"], unmatched name = 1 := by decide
  have henum : unmatched "Enum" = 1 := rfl
  rw [parents]
  cases x.kind with
  | concrete => exact hparents
  | enumeration =>
    exact List.forall_mem_append.2 ⟨hparents, List.forall_mem_singleton.2 henum⟩
  | interface | abstract =>
    simp only
    split
    next => exact hbase
    next => exact hparents

/-- The header ends in a colon and opens no brace. -/
theorem unmatched_header (hx : x.Balanced) : unmatched (header x) = 1 := by
  simp (disch := decide) [header, unmatched_plain, unmatched_imports hx, hx.name.unmatched,
    unmatched_commas (unmatched_parents hx)]

theorem unmatched_footer (x : Context) : unmatched (footer x) = 1 := by
  simp (disch := decide) [footer, unmatched_plain]

/-! ## Members -/

/-- A static attribute gets a value, and others may have one. -/
theorem unmatched_property (x : Context) (hp : p.Balanced) : unmatched (property x p) = 1 := by
  simp (disch := decide) [property, unmatched_plain, unmatched_attributeName hp,
    balanced_types.nameFor hp.type, unmatched_initial hp, unmatched_initial_getD hp]

theorem unmatched_constant (x : Context) (hp : p.Balanced) (index : Nat) :
    unmatched (constant x p index) = 1 := by
  simp (disch := decide) [constant, unmatched_plain, hp.name.unmatched, unmatched_initial_getD hp]

/-- The constructor gives every attribute its first value. -/
theorem unmatched_defaultConstructor (hx : x.Balanced) : unmatched (defaultConstructor x) = 1 := by
  have hassignments : unmatched (String.join (x.instanceProperties.map fun p =>
      line 2 ("self." ++ attributeName p ++ " = " ++ p.initial.getD "None"))) = 1 := by
    refine unmatched_join_map fun p hp => ?_
    have hbalanced := hx.property_of_instance hp
    simp (disch := decide) [unmatched_plain, unmatched_attributeName hbalanced,
      unmatched_initial_getD hbalanced]
  simp (disch := decide) [defaultConstructor, unmatched_plain, unmatched_superCall, hassignments]

/-- Every attribute is set to its parameter. -/
theorem unmatched_fullConstructor (x : Context) (hps : ∀ p ∈ ps, p.Balanced) :
    unmatched (fullConstructor x ps) = 1 := by
  have hparameters :
      unmatched (commas ("self" :: ps.map fun p => parameter (parameterFor p))) = 1 :=
    unmatched_commas (List.forall_mem_cons.2 ⟨rfl, List.forall_mem_map.2 fun p hp =>
      unmatched_parameter (balanced_parameterFor (hps p hp))⟩)
  have hassignments : unmatched (String.join (ps.map fun p =>
      line 2 ("self." ++ attributeName p ++ " = " ++ p.name))) = 1 := by
    refine unmatched_join_map fun p hp => ?_
    simp (disch := decide) [unmatched_plain, unmatched_attributeName (hps p hp),
      (hps p hp).name.unmatched]
  simp (disch := decide) [fullConstructor, unmatched_plain, unmatched_superCall, hparameters,
    hassignments]

theorem unmatched_getter (x : Context) (hp : p.Balanced) : unmatched (getter x p) = 1 := by
  simp (disch := decide) [getter, unmatched_plain, hp.name.unmatched,
    balanced_types.nameFor hp.type, unmatched_attributeName hp]

theorem unmatched_setter (x : Context) (hp : p.Balanced) : unmatched (setter x p) = 1 := by
  simp (disch := decide) [setter, unmatched_plain, hp.name.unmatched,
    balanced_types.nameFor hp.type, unmatched_attributeName hp]

/-- Both sides of the comparison are tuples of the attributes. -/
theorem unmatched_equality (hx : x.Balanced) (hps : ∀ p ∈ ps, p.Balanced) :
    unmatched (equality x ps) = 1 := by
  have hattributes (owner : String) (howner : unmatched owner = 1) :
      unmatched (tuple (ps.map fun p => owner ++ attributeName p)) = 1 := by
    refine unmatched_tuple (List.forall_mem_map.2 fun p hp => ?_)
    rw [unmatched_append, howner, unmatched_attributeName (hps p hp), one_mul]
  simp (disch := decide) [equality, unmatched_plain, hx.name.unmatched, hattributes]

/-- Every attribute stands in braces of its own. -/
theorem unmatched_stringForm (hx : x.Balanced) (hps : ∀ p ∈ ps, p.Balanced) :
    unmatched (stringForm x ps) = 1 := by
  have hopen : unmatched "=\x7bself." = opened := rfl
  have hclose : unmatched "!r\x7d" = closed := rfl
  have hfields : unmatched (commas (ps.map fun p =>
      p.name ++ "=\x7bself." ++ attributeName p ++ "!r\x7d")) = 1 := by
    refine unmatched_commas_map fun p hp => ?_
    simp [(hps p hp).name.unmatched, unmatched_attributeName (hps p hp), hopen, hclose]
  simp (disch := decide) [stringForm, unmatched_plain, hx.name.unmatched, hfields]

theorem unmatched_statement (d : Method) (form : BodyForm) : unmatched (statement d form) = 1 := by
  cases form <;> simp (disch := decide) [statement, unmatched_plain, unmatched_defaultValue]

/-- Marks, a first line and one statement leave nothing. -/
theorem unmatched_method (x : Context) (hd : d.Balanced) (form : BodyForm) :
    unmatched (method x d form) = 1 := by
  simp (disch := decide) [method, unmatched_plain, hd.name.unmatched, unmatched_parameters hd,
    balanced_types.nameFor hd.returns, unmatched_statement]

end Python

/-- No part of a class in Python leaves a brace. -/
theorem python_balances : python.Balances where
  ends := by
    intro x hx
    show unmatched (Python.header x) * unmatched (Python.footer x) = 1
    rw [Python.unmatched_header hx, Python.unmatched_footer, mul_one]
  property := fun x _ _ hp => Python.unmatched_property x hp
  constant := fun x _ index _ hp => Python.unmatched_constant x hp index
  defaultConstructor := fun _ hx => Python.unmatched_defaultConstructor hx
  fullConstructor := fun x _ _ hps => Python.unmatched_fullConstructor x hps
  getter := fun x _ _ hp => Python.unmatched_getter x hp
  setter := fun x _ _ hp => Python.unmatched_setter x hp
  equality := fun _ _ hx hps => Python.unmatched_equality hx hps
  stringForm := fun _ _ hx hps => Python.unmatched_stringForm hx hps
  method := fun x _ form _ hd => Python.unmatched_method x hd form

/-! ## Contexts that are alike -/

namespace Python

theorem entityImport_congr (h : x.Alike y) : entityImport x = entityImport y := by
  funext depth entity
  simp only [entityImport, modulePath, h.package]

theorem annotationOnly_congr (h : x.Alike y) : annotationOnly x = annotationOnly y := by
  rw [annotationOnly, annotationOnly, h.entityImports, h.parents]

/-- What is needed of the library goes by the kind, the properties and the types in use. -/
theorem libraryNames_congr (h : x.Alike y) : libraryNames x = libraryNames y := by
  rw [libraryNames, libraryNames, h.kind, h.properties, h.usedTypes, annotationOnly_congr h]

/-- What is imported of other entities goes by the package and the dependencies. -/
theorem localImports_congr (h : x.Alike y) : localImports x = localImports y := by
  have hplain : plainImports x = plainImports y := by
    rw [plainImports, plainImports, h.configuredImports, h.parents, entityImport_congr h]
  have hdeferred : deferredImports x = deferredImports y := by
    rw [deferredImports, deferredImports, annotationOnly_congr h, entityImport_congr h]
  rw [localImports, localImports, hplain, hdeferred]

theorem imports_congr (h : x.Alike y) : imports x = imports y := by
  rw [imports, imports, libraryNames_congr h, localImports_congr h]

theorem parents_congr (h : x.Alike y) : parents x = parents y := by
  rw [parents, parents, h.kind, h.parents]

theorem header_congr (h : x.Alike y) : header x = header y := by
  rw [header, header, imports_congr h, parents_congr h, h.name]

/-- Whether there is a body is told by the members and the options. -/
theorem hasBody_congr (h : x.Alike y) : hasBody x = hasBody y := by
  rw [hasBody, hasBody, h.properties, h.methods, h.kind, h.members, h.writesFullConstructor,
    h.owesStubs]

end Python

/-- The emitter looks at nothing but what the context shows. -/
theorem python_extensional : python.Extensional where
  header h := Python.header_congr h
  property _ := rfl
  constant _ := rfl
  defaultConstructor {x y} h := by
    show Python.defaultConstructor x = Python.defaultConstructor y
    rw [Python.defaultConstructor, Python.defaultConstructor, Python.superCall, Python.superCall,
      h.baseCall, h.instanceProperties]
  fullConstructor h := by
    funext ps
    simp only [python, Python.fullConstructor, Python.superCall, h.baseCall]
  getter _ := rfl
  setter _ := rfl
  equality h := by
    funext ps
    simp only [python, Python.equality, h.name]
  stringForm h := by
    funext ps
    simp only [python, Python.stringForm, h.name]
  method _ := rfl
  footer h := by simp only [python, Python.footer, Python.hasBody_congr h]

end ClassDiagram.Emit
