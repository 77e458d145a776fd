import ClassDiagram.Emit.Emitter
import ClassDiagram.Emit.Phrases

/-!
# Python

An attribute that is not for everyone has an underscore before its name, and a
private one is read and changed through a property.  What a file needs only in
annotations is imported for type checking alone, so two classes may know each
other without a circle of imports.

A class without members has `pass` for a body.
-/

namespace ClassDiagram.Emit

namespace Python

open Text

/-! ## Types -/

/-- The Python names of the known types. -/
def types : TypeTable :=
  [("string", "str"), ("wstring", "str"), ("text", "str"), ("char", "str"), ("bool", "bool"),
   ("boolean", "bool"), ("int8", "int"), ("int16", "int"), ("int32", "int"), ("int64", "int"),
   ("uint8", "int"), ("uint16", "int"), ("uint32", "int"), ("uint64", "int"), ("int", "int"),
   ("long", "int"), ("short", "int"), ("byte", "int"), ("float", "float"),
   ("float32", "float"), ("double", "float"), ("float64", "float"), ("decimal", "Decimal"),
   ("date", "date"), ("time", "time"), ("datetime", "datetime"), ("uuid", "UUID"),
   ("bytes", "bytes"), ("void", "None"), ("unspecified", "Any")]

/-- The types that must be imported, each with its module. -/
def libraryTypes : TypeTable :=
  [("Decimal", "decimal"), ("date", "datetime"), ("time", "datetime"),
   ("datetime", "datetime"), ("UUID", "uuid"), ("Any", "typing")]

/-- A value of a type. -/
def defaultValue (type : String) : String :=
  if folded type = "decimal" then "Decimal(0)"
  else
    match TypeCategory.of type with
    | .truth => "False"
    | .integer => "0"
    | .decimal => "0.0"
    | .text => "\"\""
    | .void | .other => "None"

/-! ## Parts of declarations -/

/-- The name of the attribute that holds a property. -/
def attributeName (p : Property) : String :=
  match p.access with
  | .everyone => p.name
  | .heirs | .owner => "_" ++ p.name

/-- A parameter with its type. -/
def parameter (p : Parameter) : String := annotatedParameter types p

/-- The parameters of a method. -/
def parameters (m : Method) : String :=
  commas (wordWhen (!m.constraints.isStatic) "self" ++ m.parameters.map parameter)

/-- A tuple.  One item needs a comma after it. -/
def tuple : List String → String
  | [item] => "(" ++ item ++ ",)"
  | items => "(" ++ commas items ++ ")"

/-- The call of the constructor of the base. -/
def superCall (x : Context) : String := baseCall "super().__init__()" x

/-! ## Imports -/

/-- The module of an entity. -/
def modulePath (x : Context) (entity : String) : String :=
  match x.package? with
  | some package => package ++ "." ++ entity
  | none => entity

/-- The entities that the file needs in annotations alone. -/
def annotationOnly (x : Context) : List String :=
  x.entityImports.filter fun name => !x.parents.contains name

/-- What the file needs from the standard library, as pairs of a module and a name. -/
def libraryNames (x : Context) : List (String × String) :=
  (match x.kind with
    | .interface | .abstract => [("abc", "ABC"), ("abc", "abstractmethod")]
    | .enumeration =>
        ("enum", "Enum")
          :: (if x.properties.any (·.initial.isNone) then [("enum", "auto")] else [])
    | .concrete => [])
    ++ x.usedTypes.filterMap (fun type =>
      let name := types.nameFor type
      (libraryTypes.lookup name).map (·, name))
    ++ (if x.kind ≠ .enumeration && x.properties.any (·.isStatic) then [("typing", "ClassVar")]
        else [])
    ++ (if (annotationOnly x).isEmpty then [] else [("typing", "TYPE_CHECKING")])

/-- An import of some names from a module. -/
def importFrom (depth : Nat) (module : String) (names : List String) : String :=
  line depth ("from " ++ module ++ " import " ++ commas names)

/-- The imports of names, one line to a module. -/
def importLines (names : List (String × String)) : List String :=
  (firsts (names.map (·.1))).map fun module =>
    importFrom 0 module (firsts ((names.filter (·.1 == module)).map (·.2)))

/-- The import of one entity. -/
def entityImport (x : Context) (depth : Nat) (entity : String) : String :=
  importFrom depth (modulePath x entity) [entity]

/-- The imports that the options ask for, and those of the bases and interfaces. -/
def plainImports (x : Context) : String :=
  String.join (x.configuredImports.map fun (module, symbols) =>
      match symbols with
      | some symbols => importFrom 0 module symbols
      | none => line 0 ("import " ++ module))
    ++ String.join (x.parents.map (entityImport x 0))

/-- The imports for type checking. -/
def deferredImports (x : Context) : String :=
  if (annotationOnly x).isEmpty then ""
  else
    line 0 "if TYPE_CHECKING:" ++ String.join ((annotationOnly x).map (entityImport x 1))

/-- The imports from outside the standard library. -/
def localImports (x : Context) : String :=
  let plain := plainImports x
  let deferred := deferredImports x
  plain ++ (if plain.isEmpty || deferred.isEmpty then "" else "\n") ++ deferred

/-- All imports. -/
def imports (x : Context) : String :=
  let library := importLines (libraryNames x)
  String.join library
    ++ (if (localImports x).isEmpty || library.isEmpty then "" else "\n") ++ localImports x

/-! ## Before and after the members -/

/-- The classes that the class is derived from. -/
def parents (x : Context) : List String :=
  match x.kind with
  | .enumeration => x.parents ++ ["Enum"]
  | .interface | .abstract => if x.parents.isEmpty then ["ABC"] else x.parents
  | .concrete => x.parents

/-- The imports and the first line of the class. -/
def header (x : Context) : String :=
  spaced (line 0 "from __future__ import annotations")
    ++ imports x ++ "\n\n"
    ++ line 0 ("class " ++ x.name
      ++ (if (parents x).isEmpty then "" else "(" ++ commas (parents x) ++ ")") ++ ":")

/-- The class has a member. -/
def hasBody (x : Context) : Bool :=
  !x.properties.isEmpty || !x.entity.methodList.isEmpty
    || (x.kind.isClass
      && (x.options.members.defaultConstructor || Emitter.writesFullConstructor x || x.owesStubs))

/-- The body of a class without members. -/
def footer (x : Context) : String := if hasBody x then "" else line 1 "pass"

/-! ## Members -/

/-- The annotation of an attribute. -/
def property (_ : Context) (p : Property) : String :=
  let type := types.nameFor p.type
  if p.isStatic then
    line 1 (attributeName p ++ ": ClassVar[" ++ type ++ "] = " ++ p.initial.getD "None")
  else
    line 1 (attributeName p ++ ": " ++ type ++ assigned p.initial)

/-- A constant. -/
def constant (_ : Context) (p : Property) (_ : Nat) : String :=
  line 1 (p.name ++ " = " ++ p.initial.getD "auto()")

/-- The constructor without parameters. -/
def defaultConstructor (x : Context) : String :=
  let body := superCall x ++ String.join (x.instanceProperties.map fun p =>
    line 2 ("self." ++ attributeName p ++ " = " ++ p.initial.getD "None"))
  spaced (line 1 "def __init__(self) -> None:"
    ++ (if body.isEmpty then line 2 "pass" else body))

/-- The constructor with a parameter for every property. -/
def fullConstructor (x : Context) (ps : List Property) : String :=
  let parameters := "self" :: ps.map fun p => parameter (parameterFor p)
  spaced (line 1 ("def __init__(" ++ commas parameters ++ ") -> None:")
    ++ superCall x
    ++ String.join (ps.map fun p => line 2 ("self." ++ attributeName p ++ " = " ++ p.name)))

/-- The property that reads an attribute. -/
def getter (_ : Context) (p : Property) : String :=
  spaced (line 1 "@property"
    ++ line 1 ("def " ++ p.name ++ "(self) -> " ++ types.nameFor p.type ++ ":")
    ++ line 2 ("return self." ++ attributeName p))

/-- The property that changes an attribute. -/
def setter (_ : Context) (p : Property) : String :=
  spaced (line 1 ("@" ++ p.name ++ ".setter")
    ++ line 1 ("def " ++ p.name ++ "(self, value: " ++ types.nameFor p.type ++ ") -> None:")
    ++ line 2 ("self." ++ attributeName p ++ " = value"))

/-- Equality by the values of the properties, and a hash that agrees with it. -/
def equality (x : Context) (ps : List Property) : String :=
  let mine := tuple (ps.map fun p => "self." ++ attributeName p)
  let theirs := tuple (ps.map fun p => "other." ++ attributeName p)
  spaced (line 1 "def __eq__(self, other: object) -> bool:"
      ++ line 2 ("if not isinstance(other, " ++ x.name ++ "):")
      ++ line 3 "return NotImplemented"
      ++ line 2 ("return " ++ mine ++ " == " ++ theirs))
    ++ spaced (line 1 "def __hash__(self) -> int:" ++ line 2 ("return hash(" ++ mine ++ ")"))

/-- The name of the class with its properties in parentheses. -/
def stringForm (x : Context) (ps : List Property) : String :=
  let field (p : Property) : String := p.name ++ "=\x7bself." ++ attributeName p ++ "!r\x7d"
  spaced (line 1 "def __repr__(self) -> str:"
    ++ line 2 ("return f\"" ++ x.name ++ "(" ++ commas (ps.map field) ++ ")\""))

/-- The one statement of a method. -/
def statement (m : Method) : BodyForm → String
  | .declaration | .abstract => "..."
  | .stub => "raise NotImplementedError"
  | .implemented => if m.returnsVoid then "pass" else "return " ++ defaultValue m.returns

/-- A method. -/
def method (_ : Context) (m : Method) (form : BodyForm) : String :=
  spaced ((if m.constraints.isStatic then line 1 "@staticmethod" else "")
    ++ (if form.hasBody then "" else line 1 "@abstractmethod")
    ++ line 1 ("def " ++ m.name ++ "(" ++ parameters m ++ ") -> " ++ types.nameFor m.returns
      ++ ":")
    ++ line 2 (statement m form))

end Python

/-- The emitter for Python. -/
def python : Emitter where
  name := "python"
  extension := "py"
  types := Python.types
  defaultValue := Python.defaultValue
  singleConstructor := true
  header := Python.header
  property := Python.property
  constant := Python.constant
  defaultConstructor := Python.defaultConstructor
  fullConstructor := Python.fullConstructor
  getter := Python.getter
  setter := Python.setter
  equality := Python.equality
  stringForm := Python.stringForm
  method := Python.method
  footer := Python.footer

end ClassDiagram.Emit
