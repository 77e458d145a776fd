import ClassDiagram.Emit.Emitter
import ClassDiagram.Emit.Phrases

/-!
# C#

A private field is read and changed through one accessor property, so the setter
has nothing left to write.  Fields keep the names of the diagram, and accessors
are capitalised.
-/

namespace ClassDiagram.Emit

namespace CSharp

open Text

/-! ## Types -/

/-- The C# names of the known types. -/
def types : TypeTable :=
  [("string", "string"), ("wstring", "string"), ("text", "string"), ("char", "char"),
   ("bool", "bool"), ("boolean", "bool"), ("int8", "sbyte"), ("int16", "short"),
   ("short", "short"), ("int32", "int"), ("int", "int"), ("int64", "long"), ("long", "long"),
   ("uint8", "byte"), ("byte", "byte"), ("uint16", "ushort"), ("uint32", "uint"),
   ("uint64", "ulong"), ("float", "float"), ("float32", "float"), ("double", "double"),
   ("float64", "double"), ("decimal", "decimal"), ("date", "DateOnly"), ("time", "TimeOnly"),
   ("datetime", "DateTime"), ("uuid", "Guid"), ("bytes", "byte[]"), ("void", "void"),
   ("unspecified", "object")]

/-- The value that every type has. -/
def defaultValue (_ : String) : String := "default"

/-! ## Parts of declarations -/

/-- A list of parameters. -/
def parameters (l : List Parameter) : String := typedParameters types " " l

/-- The return type, the name and the parameters of a method. -/
def signature (m : Method) : String := typedSignature types m

/-- The statements of a method. -/
def statements (m : Method) : String := returnStatement defaultValue m

/-! ## Before the members -/

/-- The name spaces that the file uses. -/
def usings (x : Context) : List String := firsts ("System" :: x.configuredImports.map (·.1))

/-- The types that the type derives from.  Only an interface has more than one base. -/
def parents (x : Context) : List String :=
  (if x.kind = .interface then x.bases else x.bases.take 1) ++ x.interfaces

/-- The name spaces, and the first line of the type. -/
def header (x : Context) : String :=
  importClauses "using " (usings x) ++ packageClause "namespace " x.package?
    ++ line 0 ("public " ++ x.kind.keyword ++ " " ++ x.name
      ++ (if (parents x).isEmpty then "" else " : " ++ commas (parents x)))
    ++ line 0 "\x7b"

/-! ## Members -/

/-- The name of a field. -/
def fieldName (p : Property) : String := p.name

/-- The name of an accessor property. -/
def accessorName (p : Property) : String := capitalize p.name

/-- A field, or in an interface an accessor property without a body. -/
def property (x : Context) (p : Property) : String :=
  let type := types.nameFor p.type
  if x.kind = .interface then
    line 1 (type ++ " " ++ accessorName p ++ " \x7b get; set; \x7d")
  else
    line 1 (words ([p.access.keyword] ++ wordWhen p.isStatic "static"
        ++ wordWhen p.constraints.isFinal "readonly")
      ++ " " ++ type ++ " " ++ fieldName p ++ assigned p.initial ++ ";")

/-- A constant. -/
def constant (_ : Context) (p : Property) (_ : Nat) : String := enumerator p

/-- The constructor without parameters. -/
def defaultConstructor (x : Context) : String :=
  spaced (blockBelow 1 ("public " ++ x.name ++ "()") "")

/-- The constructor with a parameter for every property. -/
def fullConstructor (x : Context) (ps : List Property) : String :=
  spaced (blockBelow 1 ("public " ++ x.name ++ "(" ++ parameters (ps.map parameterFor) ++ ")")
    (assignments "this." (·.name) "" ps))

/-- The accessor property.  That of a final field only reads it. -/
def getter (_ : Context) (p : Property) : String :=
  let head := "public " ++ types.nameFor p.type ++ " " ++ accessorName p
  if p.constraints.isFinal then spaced (line 1 (head ++ " => this." ++ fieldName p ++ ";"))
  else
    spaced (blockBelow 1 head
      (line 2 ("get => this." ++ fieldName p ++ ";")
        ++ line 2 ("set => this." ++ fieldName p ++ " = value;")))

/-- Equality by the values of the properties, and a hash that agrees with it. -/
def equality (x : Context) (ps : List Property) : String :=
  let compare (p : Property) : String :=
    "\n" ++ margin 3 ++ "&& Equals(this." ++ p.name ++ ", other." ++ p.name ++ ")"
  spaced (blockBelow 1 "public override bool Equals(object? obj)"
      (line 2 ("return obj is " ++ x.name ++ " other" ++ String.join (ps.map compare) ++ ";")))
    ++ spaced (blockBelow 1 "public override int GetHashCode()"
      (line 2 "var hash = new HashCode();"
        ++ String.join (ps.map fun p => line 2 ("hash.Add(this." ++ p.name ++ ");"))
        ++ line 2 "return hash.ToHashCode();"))

/-- The name of the class with its properties in parentheses. -/
def stringForm (x : Context) (ps : List Property) : String :=
  let field (p : Property) : String := p.name ++ "=\x7bthis." ++ p.name ++ "\x7d"
  spaced (blockBelow 1 "public override string ToString()"
    (line 2 ("return $\"" ++ x.name ++ "(" ++ commas (ps.map field) ++ ")\";")))

/-- A method.  An enumeration has none. -/
def method (x : Context) (m : Method) (form : BodyForm) : String :=
  if x.kind = .enumeration then ""
  else
    match form with
    | .declaration => spaced (line 1 (signature m ++ ";"))
    | .abstract =>
        spaced (line 1 (m.access.overridable.keyword ++ " abstract " ++ signature m ++ ";"))
    | .implemented =>
        let isVirtual := !m.constraints.isStatic && m.constraints.isVirtual
        spaced (blockBelow 1
          (words ([m.access.keyword] ++ wordWhen m.constraints.isStatic "static"
            ++ wordWhen isVirtual "virtual") ++ " " ++ signature m)
          (statements m))
    | .stub =>
        spaced (blockBelow 1 ("public " ++ signature m)
          (line 2 "throw new NotImplementedException();"))

end CSharp

/-- The emitter for C#. -/
def csharp : Emitter where
  name := "csharp"
  extension := "cs"
  types := CSharp.types
  defaultValue := CSharp.defaultValue
  header := CSharp.header
  property := CSharp.property
  constant := CSharp.constant
  defaultConstructor := CSharp.defaultConstructor
  fullConstructor := CSharp.fullConstructor
  getter := CSharp.getter
  equality := CSharp.equality
  stringForm := CSharp.stringForm
  method := CSharp.method
  footer := fun _ => line 0 "\x7d"

end ClassDiagram.Emit
