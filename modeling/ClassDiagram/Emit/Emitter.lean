import ClassDiagram.Emit.Context
import ClassDiagram.LogicalType

/-!
# Emitters

An emitter knows how one language writes each part of an entity.  The order of
the parts is the same in every language and is fixed by `Emitter.entityText`:

1. what comes before the members,
2. the properties, or the constants of an enumeration,
3. the members made up for a class: constructors, accessors, equality and the
   text for an instance,
4. the declared methods, and for a class the stubs of the methods it owes,
5. what comes after the members.

A part that a language does not have is the empty text.
-/

namespace ClassDiagram.Emit

/-- The forms of a method. -/
inductive BodyForm where
  /-- A signature in an interface. -/
  | declaration
  /-- A signature that classes below implement. -/
  | abstract
  /-- A declared method with a body. -/
  | implemented
  /-- A method that is owed and not declared. -/
  | stub
deriving DecidableEq, Repr

/-- A method of this form has statements. -/
def BodyForm.hasBody : BodyForm → Bool
  | .implemented | .stub => true
  | .declaration | .abstract => false

/-- The form of a declared method.  An abstract class implements its static and its final
methods. -/
def BodyForm.of (kind : EntityKind) (m : Method) : BodyForm :=
  match kind with
  | .interface => .declaration
  | .abstract =>
      if m.constraints.isStatic || m.constraints.isFinal then .implemented else .abstract
  | .concrete | .enumeration => .implemented

/-- How one language writes the parts of an entity. -/
structure Emitter where
  /-- The name of the target. -/
  name : String
  /-- The ending of its file names. -/
  extension : String
  /-- The types it knows. -/
  types : TypeTable
  /-- The name of a type in the language. -/
  typeName : String → String := types.nameFor
  /-- A value of a type. -/
  defaultValue : String → String
  /-- It writes a file for the entity. -/
  accepts : Entity → Bool := fun _ => true
  /-- A class has at most one constructor. -/
  singleConstructor : Bool := false
  /-- What comes before the members. -/
  header : Context → String
  /-- The declaration of a property. -/
  property : Context → Property → String
  /-- A constant of an enumeration, with its place among them. -/
  constant : Context → Property → Nat → String
  /-- The constructor without parameters. -/
  defaultConstructor : Context → String := fun _ => ""
  /-- The constructor with a parameter for every property. -/
  fullConstructor : Context → List Property → String := fun _ _ => ""
  /-- The method that reads a property. -/
  getter : Context → Property → String := fun _ _ => ""
  /-- The method that changes a property. -/
  setter : Context → Property → String := fun _ _ => ""
  /-- Equality by the values of the properties. -/
  equality : Context → List Property → String := fun _ _ => ""
  /-- The text for an instance. -/
  stringForm : Context → List Property → String := fun _ _ => ""
  /-- A method. -/
  method : Context → Method → BodyForm → String := fun _ _ _ => ""
  /-- What comes after the members. -/
  footer : Context → String

namespace Emitter

/-- The name of the file for an entity. -/
def fileName (em : Emitter) (e : Entity) : String := e.name ++ "." ++ em.extension

/-- The full constructor is written. -/
def writesFullConstructor (x : Context) : Bool :=
  x.options.members.fullConstructor && !x.instanceProperties.isEmpty

/-- The default constructor is written. -/
def writesDefaultConstructor (em : Emitter) (x : Context) : Bool :=
  x.options.members.defaultConstructor && !(writesFullConstructor x && em.singleConstructor)

/-- The constructors of a class. -/
def constructors (em : Emitter) (x : Context) : String :=
  (if em.writesDefaultConstructor x then em.defaultConstructor x else "")
    ++ (if writesFullConstructor x then em.fullConstructor x x.instanceProperties else "")

/-- The methods that read and change a property.  A final one does not change. -/
def accessors (em : Emitter) (x : Context) (p : Property) : String :=
  em.getter x p ++ (if p.constraints.isFinal then "" else em.setter x p)

/-- The properties that get accessors. -/
def hiddenProperties (x : Context) : List Property :=
  x.instanceProperties.filter (·.access == .owner)

/-- The members made up for a class. -/
def classMembers (em : Emitter) (x : Context) : String :=
  em.constructors x
    ++ String.join ((hiddenProperties x).map (em.accessors x))
    ++ (if !x.instanceProperties.isEmpty && x.options.members.equality then
          em.equality x x.instanceProperties else "")
    ++ (if !x.instanceProperties.isEmpty && x.options.members.stringForm then
          em.stringForm x x.instanceProperties else "")

/-- The properties, or the constants of an enumeration. -/
def propertyTexts (em : Emitter) (x : Context) : List String :=
  if x.kind = .enumeration then x.properties.mapIdx fun index p => em.constant x p index
  else x.properties.map (em.property x)

/-- The methods that are written, each with its form. -/
def methodCalls (x : Context) : List (Method × BodyForm) :=
  x.entity.methodList.map (fun m => (m, BodyForm.of x.kind m)) ++ x.stubs.map (·, .stub)

/-- What is written between the header and the footer. -/
def bodyText (em : Emitter) (x : Context) : String :=
  String.join (em.propertyTexts x) ++ "\n"
    ++ (if x.kind.isClass then em.classMembers x else "")
    ++ String.join ((methodCalls x).map fun (m, form) => em.method x m form)

/-- An entity in the order common to all languages. -/
def entityText (em : Emitter) (x : Context) : String :=
  em.header x ++ em.bodyText x ++ em.footer x

end Emitter

end ClassDiagram.Emit
