import ClassDiagram.Emit.Emitter
import ClassDiagram.Emit.Phrases

/-!
# Java

One public type to a file.  A class extends its first base only.
-/

namespace ClassDiagram.Emit

namespace Java

open Text

/-! ## Types -/

/-- The Java names of the known types. -/
def types : TypeTable :=
  [("string", "String"), ("wstring", "String"), ("text", "String"), ("char", "char"),
   ("bool", "boolean"), ("boolean", "boolean"), ("int8", "byte"), ("byte", "byte"),
   ("int16", "short"), ("short", "short"), ("int32", "int"), ("int", "int"),
   ("int64", "long"), ("long", "long"), ("uint8", "short"), ("uint16", "int"),
   ("uint32", "long"), ("uint64", "long"), ("float", "float"), ("float32", "float"),
   ("double", "double"), ("float64", "double"), ("decimal", "BigDecimal"),
   ("date", "LocalDate"), ("time", "LocalTime"), ("datetime", "LocalDateTime"),
   ("uuid", "UUID"), ("bytes", "byte[]"), ("void", "void"), ("unspecified", "Object")]

/-- The types that must be imported, with their full names. -/
def libraryTypes : TypeTable :=
  [("BigDecimal", "java.math.BigDecimal"), ("LocalDate", "java.time.LocalDate"),
   ("LocalTime", "java.time.LocalTime"), ("LocalDateTime", "java.time.LocalDateTime"),
   ("UUID", "java.util.UUID")]

/-- Values of the primitive types and of numbers. -/
def values : TypeTable :=
  [("bool", "false"), ("boolean", "false"), ("char", "'\\0'"),
   ("int8", "0"), ("byte", "0"), ("int16", "0"), ("short", "0"), ("int32", "0"), ("int", "0"),
   ("uint8", "0"), ("uint16", "0"), ("int64", "0L"), ("long", "0L"), ("uint32", "0L"),
   ("uint64", "0L"), ("float", "0.0f"), ("float32", "0.0f"), ("double", "0.0"),
   ("float64", "0.0"), ("decimal", "BigDecimal.ZERO")]

/-- A value of a type. -/
def defaultValue (type : String) : String := (values.lookup (folded type)).getD "null"

/-! ## Parts of declarations -/

/-- The access of a member and whether it is static and final. -/
def modifiers (access : Access) (isStatic isFinal : Bool) : String :=
  words ([access.keyword] ++ wordWhen isStatic "static" ++ wordWhen isFinal "final")

/-- A list of parameters. -/
def parameters (l : List Parameter) : String := typedParameters types " " l

/-- The return type, the name and the parameters of a method. -/
def signature (m : Method) : String := typedSignature types m

/-- The statements of a method. -/
def statements (m : Method) : String := returnStatement defaultValue m

/-! ## Before the members -/

/-- What the file imports. -/
def imports (x : Context) : List String :=
  firsts (configuredNames (fun module symbol => module ++ "." ++ symbol) (· ++ ".*") x
    ++ x.usedTypes.filterMap (fun type => libraryTypes.lookup (types.nameFor type))
    ++ (if x.emitsValueMembers x.options.members.equality then ["java.util.Objects"] else []))

/-- The words before the brace of a type. -/
def declaration (x : Context) : String :=
  "public " ++ x.kind.keyword ++ " " ++ x.name ++ supertypes x

/-- The package, the imports and the first line of the type. -/
def header (x : Context) : String :=
  packageClause "package " x.package? ++ importClauses "import " (imports x)
    ++ line 0 (declaration x ++ " \x7b")

/-! ## Members -/

/-- A field.  Those of an interface are constants and need a value.  A field of an instance
is set by a constructor, and is not final. -/
def property (x : Context) (p : Property) : String :=
  let type := types.nameFor p.type
  if x.kind = .interface then
    line 1 (type ++ " " ++ p.name ++ " = " ++ p.initial.getD (defaultValue p.type) ++ ";")
  else
    let isFinal := p.constraints.isFinal && p.isStatic && p.initial.isSome
    line 1 (modifiers p.access p.isStatic isFinal ++ " " ++ type ++ " " ++ p.name
      ++ assigned p.initial ++ ";")

/-- A constant, with its value in a comment. -/
def constant (x : Context) (p : Property) (index : Nat) : String :=
  let separator := if index + 1 = x.properties.length then ";" else ","
  line 1 (p.name ++ separator ++ (if p.initial.isSome then " //" else "") ++ assigned p.initial)

/-- The constructor without parameters. -/
def defaultConstructor (x : Context) : String :=
  spaced (block 1 ("public " ++ x.name ++ "()") "")

/-- The constructor with a parameter for every property. -/
def fullConstructor (x : Context) (ps : List Property) : String :=
  spaced (block 1 ("public " ++ x.name ++ "(" ++ parameters (ps.map parameterFor) ++ ")")
    (assignments "this." (·.name) "" ps))

/-- The method that reads a property. -/
def getter (_ : Context) (p : Property) : String :=
  spaced (block 1 ("public " ++ types.nameFor p.type ++ " get" ++ capitalize p.name ++ "()")
    (line 2 ("return this." ++ p.name ++ ";")))

/-- The method that changes a property. -/
def setter (_ : Context) (p : Property) : String :=
  spaced (block 1
    ("public void set" ++ capitalize p.name ++ "(" ++ types.nameFor p.type ++ " " ++ p.name
      ++ ")")
    (line 2 ("this." ++ p.name ++ " = " ++ p.name ++ ";")))

/-- Equality by the values of the properties, and a hash that agrees with it. -/
def equality (x : Context) (ps : List Property) : String :=
  let comparisons := ps.map fun p => "Objects.equals(" ++ p.name ++ ", other." ++ p.name ++ ")"
  spaced (line 1 "@Override"
    ++ block 1 "public boolean equals(Object o)"
      (block 2 "if (this == o)" (line 3 "return true;")
        ++ block 2 "if (o == null || getClass() != o.getClass())" (line 3 "return false;")
        ++ line 2 (x.name ++ " other = (" ++ x.name ++ ") o;")
        ++ returnAll comparisons))
    ++ spaced (line 1 "@Override"
      ++ block 1 "public int hashCode()"
        (line 2 ("return Objects.hash(" ++ commas (ps.map (·.name)) ++ ");")))

/-- The name of the class with its properties in braces. -/
def stringForm (x : Context) (ps : List Property) : String :=
  let field (index : Nat) (p : Property) : String :=
    line 3 ("\"" ++ (if index = 0 then "" else ", ") ++ p.name ++ "=\" + " ++ p.name ++ " +")
  spaced (line 1 "@Override"
    ++ block 1 "public String toString()"
      (line 2 ("return \"" ++ x.name ++ "\x7b\" +") ++ String.join (ps.mapIdx field)
        ++ line 3 "\"\x7d\";"))

/-- A method. -/
def method (_ : Context) (m : Method) : BodyForm → String
  | .declaration =>
      if m.constraints.isStatic then
        spaced (block 1 ("static " ++ signature m) (statements m))
      else spaced (line 1 (signature m ++ ";"))
  | .abstract =>
      spaced (line 1 (m.access.overridable.keyword ++ " abstract " ++ signature m ++ ";"))
  | .implemented =>
      spaced (block 1
        (modifiers m.access m.constraints.isStatic m.constraints.isFinal ++ " " ++ signature m)
        (statements m))
  | .stub =>
      spaced (line 1 "@Override"
        ++ block 1 ("public " ++ signature m)
          (line 2 "throw new UnsupportedOperationException(\"Not implemented\");"))

end Java

/-- The emitter for Java. -/
def java : Emitter where
  name := "java"
  extension := "java"
  types := Java.types
  defaultValue := Java.defaultValue
  header := Java.header
  property := Java.property
  constant := Java.constant
  defaultConstructor := Java.defaultConstructor
  fullConstructor := Java.fullConstructor
  getter := Java.getter
  setter := Java.setter
  equality := Java.equality
  stringForm := Java.stringForm
  method := Java.method
  footer := fun _ => line 0 "\x7d"

end ClassDiagram.Emit
