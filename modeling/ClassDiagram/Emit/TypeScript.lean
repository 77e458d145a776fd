import ClassDiagram.Emit.Emitter
import ClassDiagram.Emit.Phrases

/-!
# TypeScript

A private property of an instance is kept in a field with an underscore before
its name, and read and changed through accessors.  An enumeration has constants
only.
-/

namespace ClassDiagram.Emit

namespace TypeScript

open Text

/-! ## Types -/

/-- The TypeScript names of the known types. -/
def types : TypeTable :=
  [("string", "string"), ("wstring", "string"), ("text", "string"), ("char", "string"),
   ("uuid", "string"), ("bool", "boolean"), ("boolean", "boolean"), ("int8", "number"),
   ("int16", "number"), ("int32", "number"), ("int64", "number"), ("uint8", "number"),
   ("uint16", "number"), ("uint32", "number"), ("uint64", "number"), ("int", "number"),
   ("long", "number"), ("short", "number"), ("byte", "number"), ("float", "number"),
   ("float32", "number"), ("double", "number"), ("float64", "number"), ("decimal", "number"),
   ("date", "Date"), ("time", "Date"), ("datetime", "Date"), ("bytes", "Uint8Array"),
   ("void", "void"), ("unspecified", "unknown")]

/-- A value of a type. -/
def defaultValue (type : String) : String :=
  match TypeCategory.of type with
  | .truth => "false"
  | .integer | .decimal => "0"
  | .text => "\"\""
  | .void | .other => "undefined as never"

/-! ## Parts of declarations -/

/-- The name of the field that holds a property. -/
def field (p : Property) : String :=
  if p.access = .owner && !p.isStatic then "_" ++ p.name else p.name

/-- A list of parameters. -/
def parameters (l : List Parameter) : String := commas (l.map (annotatedParameter types))

/-- The name, the parameters and the return type of a method. -/
def signature (m : Method) : String :=
  annotatedSignature types (parameters m.parameters) m

/-- The statements of a method. -/
def statements (m : Method) : String := returnStatement defaultValue m

/-- The call of the constructor of the base. -/
def superCall (x : Context) : String := baseCall "super();" x

/-! ## Before the members -/

/-- What the file imports. -/
def imports (x : Context) : List String :=
  x.configuredImports.map (fun (module, symbols) =>
      match symbols with
      | some symbols =>
          line 0 ("import \x7b " ++ commas symbols ++ " \x7d from \"" ++ module ++ "\";")
      | none => line 0 ("import \"" ++ module ++ "\";"))
    ++ x.entityImports.map fun name =>
        line 0 ("import \x7b " ++ name ++ " \x7d from \"./" ++ name ++ "\";")

/-- The words before the brace of a type. -/
def declaration (x : Context) : String :=
  "export " ++ x.kind.keyword ++ " " ++ x.name ++ supertypes x

/-- The imports and the first line of the type. -/
def header (x : Context) : String :=
  paragraph (imports x) ++ line 0 (declaration x ++ " \x7b")

/-! ## Members -/

/-- A field. -/
def property (x : Context) (p : Property) : String :=
  let type := types.nameFor p.type
  let readonly := if p.constraints.isFinal then "readonly " else ""
  if x.kind = .interface then line 1 (readonly ++ p.name ++ ": " ++ type ++ ";")
  else
    line 1 (words ([p.access.keyword] ++ wordWhen p.isStatic "static") ++ " " ++ readonly
      ++ field p ++ ": " ++ type ++ assigned p.initial ++ ";")

/-- A constant. -/
def constant (_ : Context) (p : Property) (_ : Nat) : String := enumerator p

/-- The constructor without parameters. -/
def defaultConstructor (x : Context) : String := spaced (block 1 "constructor()" (superCall x))

/-- The constructor with a parameter for every property. -/
def fullConstructor (x : Context) (ps : List Property) : String :=
  spaced (block 1 ("constructor(" ++ parameters (ps.map parameterFor) ++ ")")
    (superCall x ++ assignments "this." field "" ps))

/-- The accessor that reads a property. -/
def getter (_ : Context) (p : Property) : String :=
  spaced (block 1 ("get " ++ p.name ++ "(): " ++ types.nameFor p.type)
    (line 2 ("return this." ++ field p ++ ";")))

/-- The accessor that changes a property. -/
def setter (_ : Context) (p : Property) : String :=
  spaced (block 1 ("set " ++ p.name ++ "(value: " ++ types.nameFor p.type ++ ")")
    (line 2 ("this." ++ field p ++ " = value;")))

/-- Equality by the values of the properties. -/
def equality (x : Context) (ps : List Property) : String :=
  let comparisons := ps.map fun p => "this." ++ field p ++ " === other." ++ field p
  spaced (block 1 ("equals(other: " ++ x.name ++ "): boolean")
    (returnAll comparisons))

/-- The name of the class with its properties in parentheses. -/
def stringForm (x : Context) (ps : List Property) : String :=
  let shown (p : Property) : String := p.name ++ "=$\x7bthis." ++ field p ++ "\x7d"
  spaced (block 1 "toString(): string"
    (line 2 ("return \x60" ++ x.name ++ "(" ++ commas (ps.map shown) ++ ")\x60;")))

/-- A method.  An enumeration has none. -/
def method (x : Context) (m : Method) (form : BodyForm) : String :=
  if x.kind = .enumeration then ""
  else
    match form with
    | .declaration => spaced (line 1 (signature m ++ ";"))
    | .abstract =>
        spaced (line 1 (m.access.overridable.keyword ++ " abstract " ++ signature m ++ ";"))
    | .implemented =>
        spaced (block 1
          (words ([m.access.keyword] ++ wordWhen m.constraints.isStatic "static") ++ " "
            ++ signature m)
          (statements m))
    | .stub =>
        spaced (block 1 ("public " ++ signature m)
          (line 2 "throw new Error(\"Not implemented\");"))

end TypeScript

/-- The emitter for TypeScript. -/
def typescript : Emitter where
  name := "typescript"
  extension := "ts"
  types := TypeScript.types
  defaultValue := TypeScript.defaultValue
  singleConstructor := true
  header := TypeScript.header
  property := TypeScript.property
  constant := TypeScript.constant
  defaultConstructor := TypeScript.defaultConstructor
  fullConstructor := TypeScript.fullConstructor
  getter := TypeScript.getter
  setter := TypeScript.setter
  equality := TypeScript.equality
  stringForm := TypeScript.stringForm
  method := TypeScript.method
  footer := fun _ => line 0 "\x7d"

end ClassDiagram.Emit
