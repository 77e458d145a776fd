import ClassDiagram.Emit.Php
import ClassDiagram.Emit.Python
import ClassDiagram.Emit.TypeScript
import ClassDiagram.Proofs.Emit.Stubs

/-!
# Constructors and the constructor of the base

Python, TypeScript and PHP allow a class one constructor.  It is the one with a
parameter for every property if that one is asked for and there are properties,
and else the one without parameters.  `constructor?` says which one a class gets,
and `Constructor.text` is its text (`ConstructorForm.Faithful.constructors_eq`).

A class with a base calls the constructor of the base without arguments.  What
the base has been given does not matter for the call, so the call fits only a
base without properties of its own, or a run without full constructors
(`parameters_eq_nil_iff`).
-/

namespace ClassDiagram

/-- The first of the bases of an entity that the model has. -/
def Model.firstBase? (m : Model) (e : Entity) : Option Entity := e.links.bases.findSome? m.get?

namespace Emit

/-! ## The constructor of a class -/

/-- The constructor of a class in a language that allows one. -/
structure Constructor where
  /-- The properties that it takes. -/
  parameters : List Property
  /-- It calls the constructor of the base, without arguments. -/
  callsBase : Bool
deriving DecidableEq

/-- The constructor that a class gets, if it gets one. -/
def constructor? (x : Context) : Option Constructor :=
  if Emitter.writesFullConstructor x then some ⟨x.instanceProperties, !x.bases.isEmpty⟩
  else if x.options.members.defaultConstructor then some ⟨[], !x.bases.isEmpty⟩
  else none

/-- How a language writes the one constructor of a class. -/
structure ConstructorForm where
  emitter : Emitter
  /-- What comes before the statements. -/
  opening : List Property → String
  /-- The call of the constructor of the base. -/
  baseCall : String
  /-- What comes after the call. -/
  rest : Context → List Property → String

/-- The text of a constructor. -/
def Constructor.text (f : ConstructorForm) (x : Context) (c : Constructor) : String :=
  f.opening c.parameters ++ (if c.callsBase then f.baseCall else "") ++ f.rest x c.parameters

/-- A constructor that takes nothing sets each property to its initial value. -/
def Python.constructorForm : ConstructorForm where
  emitter := python
  opening := fun ps =>
    line 1 ("def __init__(" ++ commas ("self" :: ps.map fun p => parameter (parameterFor p))
      ++ ") -> None:")
  baseCall := line 2 "super().__init__()"
  rest := fun x ps =>
    let initials := String.join (x.instanceProperties.map fun p =>
      line 2 ("self." ++ attributeName p ++ " = " ++ p.initial.getD "None"))
    let given := String.join (ps.map fun p =>
      line 2 ("self." ++ attributeName p ++ " = " ++ p.name))
    spaced (if !ps.isEmpty then given
      else if x.bases.isEmpty && initials.isEmpty then line 2 "pass" else initials)

/-- The constructor in TypeScript, a block of statements. -/
def TypeScript.constructorForm : ConstructorForm where
  emitter := typescript
  opening := fun ps =>
    line 1 ("constructor(" ++ parameters (ps.map parameterFor) ++ ")" ++ " \x7b")
  baseCall := line 2 "super();"
  rest := fun _ ps => spaced
    (assignments "this." field "" ps ++ line 1 "\x7d")

/-- The constructor in PHP, a block with its brace on a line of its own. -/
def Php.constructorForm : ConstructorForm where
  emitter := php
  opening := fun ps =>
    line 1 ("public function __construct(" ++ parameters (ps.map parameterFor) ++ ")")
      ++ line 1 "\x7b"
  baseCall := line 2 "parent::__construct();"
  rest := fun _ ps => spaced
    (assignments "$this->" (·.name) "$" ps ++ line 1 "\x7d")

/-- The languages that allow a class one constructor. -/
def constructorForms : List ConstructorForm :=
  [Python.constructorForm, TypeScript.constructorForm, Php.constructorForm]

/-! ## Its text -/

variable {f : ConstructorForm} {x : Context} {m : Model} {o : Options} {e base : Entity}

/-- A form writes what its emitter writes for either constructor. -/
structure ConstructorForm.Faithful (f : ConstructorForm) : Prop where
  single : f.emitter.singleConstructor = true
  default : ∀ x, f.emitter.defaultConstructor x = Constructor.text f x ⟨[], !x.bases.isEmpty⟩
  full : ∀ x ps, ps ≠ [] →
    f.emitter.fullConstructor x ps = Constructor.text f x ⟨ps, !x.bases.isEmpty⟩

theorem baseCall_eq (call : String) (x : Context) :
    baseCall call x = if !x.bases.isEmpty then line 2 call else "" := by
  rw [baseCall]
  cases x.bases.isEmpty <;> rfl

theorem isEmpty_append_of_ne {a : String} (h : a ≠ "") (b : String) : (a ++ b).isEmpty = false := by
  rw [Bool.eq_false_iff, ne_eq, String.isEmpty_iff, String.append_eq_empty_iff]
  exact fun hboth => h hboth.1

/-- A constructor in Python that would be empty passes. -/
theorem Python.faithful : Python.constructorForm.Faithful where
  single := rfl
  default := by
    intro x
    show spaced (line 1 "def __init__(self) -> None:"
      ++ if (superCall x ++ _).isEmpty then line 2 "pass" else superCall x ++ _) = _
    rw [superCall, baseCall, Constructor.text]
    cases hbases : x.bases.isEmpty with
    | true =>
      simp only [constructorForm, hbases, spaced, if_true, String.append_assoc,
        String.empty_append]
      rfl
    | false =>
      have hcall : line 2 "super().__init__()" ≠ "" := by decide
      simp only [constructorForm, hbases, spaced, Bool.false_eq_true, if_false,
        isEmpty_append_of_ne hcall, String.append_assoc]
      rfl
  full := by
    intro x ps hps
    have hparameters : ps.isEmpty = false := by simpa using hps
    show spaced (_ ++ superCall x ++ _) = _
    rw [superCall, baseCall_eq, Constructor.text]
    simp only [constructorForm, hparameters, spaced, String.append_assoc]
    rfl

/-- In TypeScript either constructor is a block with the call of the base first. -/
theorem TypeScript.faithful : TypeScript.constructorForm.Faithful where
  single := rfl
  default := by
    intro x
    show spaced (block 1 "constructor()" (superCall x)) = _
    rw [superCall, baseCall_eq, Constructor.text]
    simp only [constructorForm, spaced, block, String.append_assoc]
    rfl
  full := by
    intro x ps _
    show spaced (block 1 _ (superCall x ++ _)) = _
    rw [superCall, baseCall_eq, Constructor.text]
    simp only [constructorForm, spaced, block, String.append_assoc]

/-- So it is in PHP, with other words. -/
theorem Php.faithful : Php.constructorForm.Faithful where
  single := rfl
  default := by
    intro x
    show spaced (blockBelow 1 "public function __construct()" (parentCall x)) = _
    rw [parentCall, baseCall_eq, Constructor.text]
    simp only [constructorForm, spaced, blockBelow, String.append_assoc]
    rfl
  full := by
    intro x ps _
    show spaced (blockBelow 1 _ (parentCall x ++ _)) = _
    rw [parentCall, baseCall_eq, Constructor.text]
    simp only [constructorForm, spaced, blockBelow, String.append_assoc]

/-- The emitter writes the one constructor that a class gets, or none. -/
theorem ConstructorForm.Faithful.constructors_eq (hf : f.Faithful) (x : Context) :
    f.emitter.constructors x = (constructor? x).elim "" (Constructor.text f x) := by
  rw [Emitter.constructors, Emitter.writesDefaultConstructor, constructor?, hf.single]
  cases hfull : Emitter.writesFullConstructor x with
  | true =>
    have hparameters : x.instanceProperties ≠ [] := by
      rw [Emitter.writesFullConstructor, Bool.and_eq_true] at hfull
      simpa using hfull.2
    simp [hf.full x _ hparameters]
  | false =>
    cases x.options.members.defaultConstructor <;> simp [hf.default]

theorem faithful_of_mem (hf : f ∈ constructorForms) : f.Faithful := by
  simp only [constructorForms, List.mem_cons, List.not_mem_nil, or_false] at hf
  rcases hf with rfl | rfl | rfl
  · exact Python.faithful
  · exact TypeScript.faithful
  · exact Php.faithful

/-! ## The constructor of the base -/

/-- The first base that is named is the first that the model has. -/
theorem head?_bases (he : e.kind.isClass = true) (target : String) :
    (Context.of m e o target).bases.head? = (m.firstBase? e).map (·.name) := by
  have hkind : e.kind ≠ .enumeration := EntityKind.ne_enumeration_of_isClass he
  have hbases : (Context.of m e o target).bases = e.links.bases.filterMap m.nameOf? := if_neg hkind
  rw [hbases, List.head?_filterMap, Model.firstBase?]
  induction e.links.bases with
  | nil => rfl
  | cons id ids ih =>
    rw [List.findSome?_cons, List.findSome?_cons, Model.nameOf?]
    cases m.get? id with
    | none => exact ih
    | some base => rfl

/-- A constructor takes all properties of an instance or none, and calls the base if there is one.
-/
theorem of_constructor? {c : Constructor} (hc : constructor? x = some c) :
    c.callsBase = !x.bases.isEmpty ∧
      c.parameters = if Emitter.writesFullConstructor x then x.instanceProperties else [] := by
  rw [constructor?] at hc
  split at hc
  next hfull =>
    cases hc
    exact ⟨rfl, (if_pos hfull).symm⟩
  next hfull =>
    split at hc
    next =>
      cases hc
      exact ⟨rfl, (if_neg hfull).symm⟩
    next => cases hc

/-- A constructor calls another one exactly if the model has a base of the class. -/
theorem callsBase_iff (he : e.kind.isClass = true) {target : String} {c : Constructor}
    (hc : constructor? (.of m e o target) = some c) :
    c.callsBase = true ↔ (m.firstBase? e).isSome = true := by
  have hhead := head?_bases (m := m) (o := o) he target
  rw [(of_constructor? hc).1]
  cases hbases : (Context.of m e o target).bases with
  | nil =>
    rw [hbases, List.head?_nil, eq_comm, Option.map_eq_none_iff] at hhead
    rw [hhead]
    decide
  | cons name names =>
    rw [hbases, List.head?_cons, eq_comm, Option.map_eq_some_iff] at hhead
    obtain ⟨base, hbase, -⟩ := hhead
    rw [hbase]
    simp

theorem instanceProperties_eq_nil_iff (m : Model) (o : Options) (e : Entity) (target : String) :
    (Context.of m e o target).instanceProperties = [] ↔
      ∀ p ∈ e.propertyList, p.isStatic = true := by
  have hproperties : (Context.of m e o target).instanceProperties
      = (e.propertyList.map (encapsulated o)).filter (!·.isStatic) := rfl
  simp [hproperties]

/-- A constructor takes nothing exactly when none with parameters is asked for or the class
has no properties of its instances. -/
theorem parameters_eq_nil_iff {target : String} {c : Constructor}
    (hc : constructor? (.of m e o target) = some c) :
    c.parameters = [] ↔
      o.members.fullConstructor = false ∨ ∀ p ∈ e.propertyList, p.isStatic = true := by
  have hfull : Emitter.writesFullConstructor (.of m e o target)
      = (o.members.fullConstructor && !(Context.of m e o target).instanceProperties.isEmpty) := rfl
  rw [(of_constructor? hc).2, hfull, ← instanceProperties_eq_nil_iff m o e target]
  cases o.members.fullConstructor with
  | false => simp
  | true =>
    cases (Context.of m e o target).instanceProperties with
    | nil => simp
    | cons p ps => simp

/-- The text of a class has a constructor after its properties. -/
def ConstructorForm.Writes (f : ConstructorForm) (x : Context) (c : Constructor) : Prop :=
  ∃ after, f.emitter.backend.entityText x = f.emitter.header x
    ++ String.join (f.emitter.propertyTexts x) ++ "\n" ++ c.text f x ++ after

/-- The text of the constructor stands where the members made up for a class begin. -/
theorem ConstructorForm.Faithful.writes (hf : f.Faithful) {c : Constructor}
    (hx : x.kind.isClass = true) (hc : constructor? x = some c) : f.Writes x c := by
  have htext : f.emitter.constructors x = c.text f x := by
    rw [hf.constructors_eq, hc]
    rfl
  show ∃ after, f.emitter.entityText x = _
  rw [Emitter.entityText_eq, if_pos hx, Emitter.classMembers, htext]
  simp only [String.append_assoc]
  exact ⟨_, rfl⟩

/-- In each language with one constructor to a class, a class with a base calls the constructor
of its first base without arguments.  That constructor takes none exactly when no constructor
with parameters is asked for or the base has no properties of its instances. -/
theorem base_call_fits_iff (hf : f ∈ constructorForms) (m : Model) (o : Options) {e : Entity}
    (he : e.kind.isClass = true) {c : Constructor}
    (hc : constructor? (.of m e o f.emitter.name) = some c) :
    f.Writes (.of m e o f.emitter.name) c ∧
      (c.callsBase = true ↔ (m.firstBase? e).isSome = true) ∧
      ∀ base, m.firstBase? e = some base → base.kind.isClass = true →
        ∀ c', constructor? (.of m base o f.emitter.name) = some c' →
          f.Writes (.of m base o f.emitter.name) c' ∧
            (c'.parameters = [] ↔
              o.members.fullConstructor = false ∨ ∀ p ∈ base.propertyList, p.isStatic = true) := by
  have hfaithful := faithful_of_mem hf
  refine ⟨hfaithful.writes he hc, callsBase_iff he hc, fun base _ hbase c' hc' => ?_⟩
  exact ⟨hfaithful.writes hbase hc', parameters_eq_nil_iff hc'⟩

/-- A class with a property. -/
def shape : Entity :=
  { name := "Shape",
    properties := .ofList [(0, { access := .everyone, name := "x", type := "int32" })] }

/-- A class derived from it. -/
def square : Entity := { name := "Square", links := { bases := ["b"] } }

/-- The model of the two. -/
def shapes : Model := ⟨.ofList [("b", shape), ("d", square)]⟩

/-- The square calls without arguments a constructor that takes one. -/
theorem base_call_fits_iff_shapes :
    ∃ c c', constructor? (.of shapes square {} "python") = some c ∧
      constructor? (.of shapes shape {} "python") = some c' ∧
      c.callsBase = true ∧ c'.parameters ≠ [] := by
  have hsquare : constructor? (.of shapes square {} "python") = some ⟨[], true⟩ := rfl
  have hshape : constructor? (.of shapes shape {} "python")
      = some ⟨shape.propertyList, false⟩ := rfl
  have hpython : Python.constructorForm ∈ constructorForms := by simp [constructorForms]
  obtain ⟨-, hcalls, hbase⟩ := base_call_fits_iff hpython shapes {} (e := square) rfl hsquare
  have hfits := (hbase shape rfl rfl _ hshape).2
  refine ⟨_, _, hsquare, hshape, hcalls.2 rfl, fun hnone => ?_⟩
  revert hnone
  rw [hfits]
  decide

/-- A class calls the constructor of its base without arguments also when the base has only
one with parameters. -/
theorem not_base_call_fits : ¬ ∀ f ∈ constructorForms, ∀ m o e c,
    e.kind.isClass = true → constructor? (.of m e o f.emitter.name) = some c → c.callsBase = true →
    ∀ base c', m.firstBase? e = some base → base.kind.isClass = true →
      constructor? (.of m base o f.emitter.name) = some c' → c'.parameters = [] := by
  intro hall
  have hnone := hall Python.constructorForm (by simp [constructorForms]) shapes {} square
    ⟨[], true⟩ rfl rfl rfl shape ⟨shape.propertyList, false⟩ rfl rfl rfl
  revert hnone
  decide

end Emit

end ClassDiagram
