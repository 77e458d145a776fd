import ClassDiagram.Proofs.Emit.Stubs

/-!
# What an emitter goes by

Two contexts are *alike* when they show an emitter the same: the name, the kind and
the methods of an entity, its properties with the access they are to have, what it
depends on and owes, and the options that concern every file.  They may still differ
in the model, in the cells that the links lead to, and in the access that the
properties of the entity itself have.

An emitter is *extensional* when it writes the same for contexts that are alike.
Then all it knows of a model is what the contexts say, and a whole entity is written
the same (`Emitter.Extensional.entityText`).
-/

namespace ClassDiagram.Emit

/-- Two contexts that show the same. -/
structure Context.Alike (x y : Context) : Prop where
  name : x.name = y.name
  kind : x.kind = y.kind
  members : x.options.members = y.options.members
  package : x.package? = y.package?
  configuredImports : x.configuredImports = y.configuredImports
  dependencies : x.dependencies = y.dependencies
  properties : x.properties = y.properties
  methods : x.entity.methodList = y.entity.methodList
  stubs : x.stubs = y.stubs

variable {x y : Context}

/-! ## What else the contexts say -/

namespace Context.Alike

variable (h : x.Alike y)
include h

/-- The properties of the instances are some of those shown. -/
theorem instanceProperties : x.instanceProperties = y.instanceProperties := by
  rw [Context.instanceProperties, Context.instanceProperties, h.properties]

theorem bases : x.bases = y.bases := by
  rw [Context.bases, Context.bases, h.kind, h.dependencies]

theorem interfaces : x.interfaces = y.interfaces := by
  rw [Context.interfaces, Context.interfaces, h.kind, h.dependencies]

/-- What an entity is derived from is shown by its dependencies and its kind. -/
theorem parents : x.parents = y.parents := by
  rw [Context.parents, Context.parents, h.bases, h.interfaces]

/-- So are the names that its file needs. -/
theorem entityImports : x.entityImports = y.entityImports := by
  rw [Context.entityImports, Context.entityImports, h.kind, h.dependencies]

theorem owesStubs : x.owesStubs = y.owesStubs := by
  rw [Context.owesStubs, Context.owesStubs, h.stubs]

/-- The types in use are those of the properties, the methods and the stubs. -/
theorem usedTypes : x.usedTypes = y.usedTypes := by
  rw [Context.usedTypes, Context.usedTypes, h.kind, h.properties, h.methods, h.stubs]

/-- Whether members look at all properties does not depend on more than the switch. -/
theorem emitsValueMembers (switch : Bool) :
    x.emitsValueMembers switch = y.emitsValueMembers switch := by
  rw [Context.emitsValueMembers, Context.emitsValueMembers, h.kind, h.instanceProperties]

/-- Whether there is a constructor with parameters is told by the options and the properties. -/
theorem writesFullConstructor :
    Emitter.writesFullConstructor x = Emitter.writesFullConstructor y := by
  rw [Emitter.writesFullConstructor, Emitter.writesFullConstructor, h.members,
    h.instanceProperties]

end Context.Alike

/-! ## Emitters -/

/-- An emitter writes the same for contexts that are alike. -/
structure Emitter.Extensional (em : Emitter) : Prop where
  header : ∀ {x y}, x.Alike y → em.header x = em.header y
  property : ∀ {x y}, x.Alike y → em.property x = em.property y
  constant : ∀ {x y}, x.Alike y → em.constant x = em.constant y
  defaultConstructor : ∀ {x y}, x.Alike y → em.defaultConstructor x = em.defaultConstructor y
  fullConstructor : ∀ {x y}, x.Alike y → em.fullConstructor x = em.fullConstructor y
  getter : ∀ {x y}, x.Alike y → em.getter x = em.getter y
  setter : ∀ {x y}, x.Alike y → em.setter x = em.setter y
  equality : ∀ {x y}, x.Alike y → em.equality x = em.equality y
  stringForm : ∀ {x y}, x.Alike y → em.stringForm x = em.stringForm y
  method : ∀ {x y}, x.Alike y → em.method x = em.method y
  footer : ∀ {x y}, x.Alike y → em.footer x = em.footer y

namespace Emitter.Extensional

variable {em : Emitter} (hem : em.Extensional) (h : x.Alike y)
include hem h

/-- Both constructors are decided on and written from what is shown. -/
theorem constructors : em.constructors x = em.constructors y := by
  rw [Emitter.constructors, Emitter.constructors, writesDefaultConstructor,
    writesDefaultConstructor, h.writesFullConstructor, h.members, h.instanceProperties,
    hem.defaultConstructor h, hem.fullConstructor h]

/-- So are the methods that read and change a property. -/
theorem accessors : em.accessors x = em.accessors y := by
  funext p
  rw [Emitter.accessors, Emitter.accessors, hem.getter h, hem.setter h]

/-- All that is made up for a class is the same. -/
theorem classMembers : em.classMembers x = em.classMembers y := by
  simp only [Emitter.classMembers, hiddenProperties, hem.constructors h, hem.accessors h,
    hem.equality h, hem.stringForm h, h.members, h.instanceProperties]

theorem propertyTexts : em.propertyTexts x = em.propertyTexts y := by
  simp only [Emitter.propertyTexts, hem.constant h, hem.property h, h.kind, h.properties]

/-- An extensional emitter writes the same entity for contexts that are alike. -/
theorem entityText : em.entityText x = em.entityText y := by
  simp only [Emitter.entityText_eq, hem.header h, hem.propertyTexts h, hem.classMembers h,
    hem.method h, hem.footer h, h.kind, h.methods, h.stubs]

end Emitter.Extensional

end ClassDiagram.Emit
