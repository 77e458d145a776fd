import ClassDiagram.Emit.Emitter
import ClassDiagram.Emit.Phrases
import ClassDiagram.Text.Find
import ClassDiagram.Text.Numeral

/-!
# PHP

Written for version 8.1, which has enumerations with backing values.  If every
value given to a constant is an integer, the enumeration is backed by integers,
and a constant without a value is one past the constant before it.  Otherwise it
is backed by texts, and a constant without a value is its own name.
-/

namespace ClassDiagram.Emit

namespace Php

open Text

/-! ## Types -/

/-- The PHP names of the known types. -/
def types : TypeTable :=
  [("string", "string"), ("wstring", "string"), ("text", "string"), ("char", "string"),
   ("uuid", "string"), ("bytes", "string"), ("bool", "bool"), ("boolean", "bool"),
   ("int8", "int"), ("int16", "int"), ("int32", "int"), ("int64", "int"), ("uint8", "int"),
   ("uint16", "int"), ("uint32", "int"), ("uint64", "int"), ("int", "int"), ("long", "int"),
   ("short", "int"), ("byte", "int"), ("float", "float"), ("float32", "float"),
   ("double", "float"), ("float64", "float"), ("decimal", "float"),
   ("date", "\\DateTimeImmutable"), ("time", "\\DateTimeImmutable"),
   ("datetime", "\\DateTimeImmutable"), ("void", "void"), ("unspecified", "mixed")]

/-- A value of a type. -/
def defaultValue (type : String) : String :=
  match TypeCategory.of type with
  | .truth => "false"
  | .integer => "0"
  | .decimal => "0.0"
  | .text => "''"
  | .void | .other => "null"

/-! ## Values of constants -/

/-- What backs the constants of an enumeration. -/
inductive Backing where
  /-- Nothing, as no constant has a value. -/
  | none
  | integers
  | texts
deriving DecidableEq, Repr

/-- The integer that is given as the value of a constant. -/
def integer? (p : Property) : Option Int64 :=
  p.initial.bind fun value => int64? (trimChars value.toList)

/-- What backs an enumeration with some constants. -/
def Backing.of (ps : List Property) : Backing :=
  let valued := ps.filter (·.initial.isSome)
  if valued.isEmpty then .none
  else if valued.all fun p => (integer? p).isSome then .integers
  else .texts

/-- One past the last of some constants.  Sums wrap around at 64 bits. -/
def nextInteger (ps : List Property) : Int64 :=
  ps.foldl (fun next p => (integer? p).getD next + 1) 0

/-- The integer of the constant at a place, which is counted past it and back by one. -/
def integerAt (ps : List Property) (index : Nat) : Int64 := nextInteger (ps.take (index + 1)) - 1

/-- The value of a constant at its place, if the enumeration is backed. -/
def backingValue? (ps : List Property) (p : Property) (index : Nat) : Option String :=
  match Backing.of ps, p.initial with
  | .none, _ => none
  | _, some value => some value
  | .integers, none => some (toString (integerAt ps index))
  | .texts, none => some ("'" ++ p.name ++ "'")

/-! ## Parts of declarations -/

/-- A list of parameters. -/
def parameters (l : List Parameter) : String := typedParameters types " $" l

/-- The name, the parameters and the return type of a method. -/
def signature (m : Method) : String :=
  "function " ++ annotatedSignature types (parameters m.parameters) m

/-- The statements of a method. -/
def statements (m : Method) : String := returnStatement defaultValue m

/-- The call of the constructor of the base. -/
def parentCall (x : Context) : String := baseCall "parent::__construct();" x

/-! ## Before the members -/

/-- A path with the separator of name spaces. -/
def path (dotted : String) : String := replaceChar '.' "\\" dotted

/-- What the file uses from other name spaces. -/
def uses (x : Context) : List String :=
  firsts (configuredNames (fun module symbol => path module ++ "\\" ++ symbol) path x)

/-- The first line of the type. -/
def declaration (x : Context) : String :=
  match x.kind with
  | .enumeration =>
      "enum " ++ x.name
        ++ (match Backing.of x.properties with
            | .none => ""
            | .integers => ": int"
            | .texts => ": string")
  | .interface | .concrete | .abstract => x.kind.keyword ++ " " ++ x.name ++ supertypes x

/-- The name space, the uses and the first line of the type. -/
def header (x : Context) : String :=
  spaced (line 0 "<?php") ++ spaced (line 0 "declare(strict_types=1);")
    ++ packageClause "namespace " (x.package?.map path) ++ importClauses "use " (uses x)
    ++ line 0 (declaration x) ++ line 0 "\x7b"

/-! ## Members -/

/-- A field.  An interface has constants only, which need a value. -/
def property (x : Context) (p : Property) : String :=
  if x.kind = .interface then
    if p.initial.isSome then line 1 ("public const " ++ p.name ++ assigned p.initial ++ ";")
    else ""
  else
    let isReadonly := !p.isStatic && p.constraints.isFinal
    line 1 (words ([p.access.keyword] ++ wordWhen p.isStatic "static"
        ++ wordWhen isReadonly "readonly")
      ++ " " ++ types.nameFor p.type ++ " $" ++ p.name ++ assigned p.initial ++ ";")

/-- A constant. -/
def constant (x : Context) (p : Property) (index : Nat) : String :=
  line 1 ("case " ++ p.name ++ assigned (backingValue? x.properties p index) ++ ";")

/-- The constructor without parameters. -/
def defaultConstructor (x : Context) : String :=
  spaced (blockBelow 1 "public function __construct()" (parentCall x))

/-- The constructor with a parameter for every property. -/
def fullConstructor (x : Context) (ps : List Property) : String :=
  spaced (blockBelow 1
    ("public function __construct(" ++ parameters (ps.map parameterFor) ++ ")")
    (parentCall x ++ assignments "$this->" (·.name) "$" ps))

/-- The method that reads a property. -/
def getter (_ : Context) (p : Property) : String :=
  spaced (blockBelow 1
    ("public function get" ++ capitalize p.name ++ "(): " ++ types.nameFor p.type)
    (line 2 ("return $this->" ++ p.name ++ ";")))

/-- The method that changes a property. -/
def setter (_ : Context) (p : Property) : String :=
  spaced (blockBelow 1
    ("public function set" ++ capitalize p.name ++ "(" ++ types.nameFor p.type ++ " $"
      ++ p.name ++ "): void")
    (line 2 ("$this->" ++ p.name ++ " = $" ++ p.name ++ ";")))

/-- Equality by the values of the properties. -/
def equality (_ : Context) (ps : List Property) : String :=
  let comparisons := ps.map fun p => "$this->" ++ p.name ++ " === $other->" ++ p.name
  spaced (blockBelow 1 "public function equals(self $other): bool"
    (returnAll comparisons))

/-- The name of the class with its properties in parentheses. -/
def stringForm (x : Context) (ps : List Property) : String :=
  let shown := ps.map fun p => p.name ++ "=%s"
  let values := ps.map fun p => "var_export($this->" ++ p.name ++ ", true)"
  spaced (blockBelow 1 "public function __toString(): string"
    (line 2 ("return sprintf('" ++ x.name ++ "(" ++ commas shown ++ ")', " ++ commas values
      ++ ");")))

/-- A method. -/
def method (_ : Context) (m : Method) : BodyForm → String
  | .declaration =>
      spaced (line 1
        (words (["public"] ++ wordWhen m.constraints.isStatic "static") ++ " " ++ signature m
          ++ ";"))
  | .abstract =>
      spaced (line 1 ("abstract " ++ m.access.overridable.keyword ++ " " ++ signature m ++ ";"))
  | .implemented =>
      spaced (blockBelow 1
        (words (wordWhen m.constraints.isFinal "final" ++ [m.access.keyword]
          ++ wordWhen m.constraints.isStatic "static") ++ " " ++ signature m)
        (statements m))
  | .stub =>
      spaced (blockBelow 1 ("public " ++ signature m)
        (line 2 "throw new \\LogicException('Not implemented');"))

end Php

/-- The emitter for PHP. -/
def php : Emitter where
  name := "php"
  extension := "php"
  types := Php.types
  defaultValue := Php.defaultValue
  singleConstructor := true
  header := Php.header
  property := Php.property
  constant := Php.constant
  defaultConstructor := Php.defaultConstructor
  fullConstructor := Php.fullConstructor
  getter := Php.getter
  setter := Php.setter
  equality := Php.equality
  stringForm := Php.stringForm
  method := Php.method
  footer := fun _ => line 0 "\x7d"

end ClassDiagram.Emit
