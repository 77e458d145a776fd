import ClassDiagram.Model.Dependency
import ClassDiagram.Options.Basic

/-!
# What an emitter sees

A `Context` is one entity of a model together with all that an emitter may look
at while it writes the entity: the names the entity depends on, and its
properties with the access they are to have.
-/

namespace ClassDiagram.Emit

/-- One entity with all that an emitter may look at. -/
structure Context where
  /-- The model of the entity. -/
  model : Model
  /-- The entity. -/
  entity : Entity
  /-- The options of the run. -/
  options : Options
  /-- The name of the target, under which it has options of its own. -/
  target : String
  /-- The names that the entity depends on. -/
  dependencies : Dependencies
  /-- Its properties, with the access they are to have. -/
  properties : List Property

/-- A property with the access that the options give it. -/
def encapsulated (o : Options) (p : Property) : Property :=
  if o.encapsulate then { p with access := .owner } else p

/-- The access is all that changes. -/
@[simp] theorem type_encapsulated (o : Options) (p : Property) :
    (encapsulated o p).type = p.type := by
  rw [encapsulated]
  split <;> rfl

@[simp] theorem isStatic_encapsulated (o : Options) (p : Property) :
    (encapsulated o p).isStatic = p.isStatic := by
  rw [encapsulated]
  split <;> rfl

/-- The parameter by which a constructor takes a property. -/
def parameterFor (p : Property) : Parameter := ⟨p.name, p.type⟩

namespace Context

/-- The context of an entity. -/
def of (m : Model) (e : Entity) (o : Options) (target : String) : Context where
  model := m
  entity := e
  options := o
  target := target
  dependencies := m.dependenciesOf e
  properties := e.propertyList.map (encapsulated o)

/-- The name of the entity. -/
def name (x : Context) : String := x.entity.name

/-- The kind of the entity. -/
def kind (x : Context) : EntityKind := x.entity.kind

/-- The properties that instances have. -/
def instanceProperties (x : Context) : List Property := x.properties.filter (!·.isStatic)

/-- The package of the file, if there is one. -/
def package? (x : Context) : Option String := x.options.packageName?

/-- The names of the bases.  An enumeration has none. -/
def bases (x : Context) : List String :=
  if x.kind = .enumeration then [] else x.dependencies.bases

/-- The names of the interfaces realised.  An enumeration realises none. -/
def interfaces (x : Context) : List String :=
  if x.kind = .enumeration then [] else x.dependencies.interfaces

/-- The names of the bases and then of the interfaces. -/
def parents (x : Context) : List String := x.bases ++ x.interfaces

/-- The names of other entities that the file needs.  What an enumeration depends on only
as a base or an interface it does not need. -/
def entityImports (x : Context) : List String :=
  if x.kind = .enumeration then
    x.dependencies.imports.filter fun name =>
      !x.dependencies.bases.contains name && !x.dependencies.interfaces.contains name
  else x.dependencies.imports

/-- The methods that are written as stubs, which only classes have. -/
def stubs (x : Context) : List Method := if x.kind.isClass then x.model.owed x.entity else []

/-- The entity gets stubs. -/
def owesStubs (x : Context) : Bool := !x.stubs.isEmpty

/-- What the options have every file of the target import. -/
def configuredImports (x : Context) : List (String × Option (List String)) :=
  x.options.importsFor x.target

/-- The types that the members of the entity use.  The constants of an enumeration have none. -/
def usedTypes (x : Context) : List String :=
  firsts ((if x.kind = .enumeration then [] else x.properties.map (·.type))
    ++ (x.entity.methodList ++ x.stubs).flatMap Method.types)

/-- Members that look at every property of an instance are written, if they are switched on. -/
def emitsValueMembers (x : Context) (switch : Bool) : Bool :=
  switch && x.kind.isClass && !x.instanceProperties.isEmpty

end Context

end ClassDiagram.Emit
