import ClassDiagram.Member.Access
import ClassDiagram.Member.Constraints

/-!
# Properties and methods

The members of a class, and the line that stands for each in a diagram.  A type
or a return type that a line leaves out has a name of its own, `unspecified` or
`void`, and is left out again when the line is written.
-/

namespace ClassDiagram

/-- The type of a property or parameter without one. -/
def unspecifiedType : String := "unspecified"

/-- The return type of a method without one. -/
def voidType : String := "void"

/-! ## Properties -/

/-- A property of a class. -/
structure Property where
  /-- Who may use it. -/
  access : Access := .owner
  /-- Its name. -/
  name : String
  /-- The name of its type. -/
  type : String := unspecifiedType
  /-- The text of its initial value. -/
  initial : Option String := none
  /-- What its constraint block says. -/
  constraints : Constraints := {}
deriving DecidableEq

namespace Property

/-- The property belongs to the class and not to its instances. -/
def isStatic (p : Property) : Bool := p.constraints.isStatic

/-- The line that stands for a property. -/
def text (p : Property) : String :=
  p.access.mark.toString ++ p.name
    ++ (if p.type = unspecifiedType then "" else ": " ++ p.type)
    ++ (match p.initial with
        | some value => " = " ++ value
        | none => "")
    ++ (if p.constraints.isEmpty then "" else " " ++ p.constraints.text)

end Property

/-! ## Methods -/

/-- A parameter of a method. -/
structure Parameter where
  /-- Its name. -/
  name : String
  /-- The name of its type. -/
  type : String
deriving DecidableEq, Repr

namespace Parameter

/-- The name of a parameter that has only a type, told by its place. -/
def positionalName (index : Nat) : String := "arg" ++ toString index

/-- A parameter as it stands in a list. -/
def text (p : Parameter) : String := p.name ++ ": " ++ p.type

end Parameter

/-- A method of a class. -/
structure Method where
  /-- Who may use it. -/
  access : Access := .owner
  /-- Its name. -/
  name : String
  /-- Its parameters, in order. -/
  parameters : List Parameter := []
  /-- The name of its return type. -/
  returns : String := voidType
  /-- What its constraint block says. -/
  constraints : Constraints := {}
deriving DecidableEq

namespace Method

/-- The method returns nothing, by the name of its return type. -/
def returnsVoid (m : Method) : Bool := m.returns == voidType

/-- The names of the types in its signature, the return type first. -/
def types (m : Method) : List String := m.returns :: m.parameters.map (·.type)

/-- The line that stands for a method. -/
def text (m : Method) : String :=
  m.access.mark.toString ++ m.name ++ "(" ++ ", ".intercalate (m.parameters.map (·.text)) ++ ")"
    ++ (if m.returnsVoid then "" else ": " ++ m.returns)
    ++ (if m.constraints.isEmpty then "" else " " ++ m.constraints.text)

end Method

/-! ## Members -/

/-- The two sorts of members. -/
inductive MemberKind where
  | property
  | method
deriving DecidableEq, Repr

/-- A property or a method. -/
inductive Member where
  | property (p : Property)
  | method (m : Method)
deriving DecidableEq

end ClassDiagram
