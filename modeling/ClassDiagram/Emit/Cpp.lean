import ClassDiagram.Emit.Emitter
import ClassDiagram.Emit.Phrases
import ClassDiagram.Text.Find

/-!
# C++

One header to an entity, with all members defined in place.  Every member comes
with an access label of its own.
-/

namespace ClassDiagram.Emit

namespace Cpp

open Text

/-! ## Types -/

/-- The C++ names of the known types. -/
def types : TypeTable :=
  [("string", "std::string"), ("text", "std::string"), ("wstring", "std::wstring"),
   ("char", "char"), ("bool", "bool"), ("boolean", "bool"), ("int8", "std::int8_t"),
   ("byte", "std::int8_t"), ("int16", "std::int16_t"), ("short", "std::int16_t"),
   ("int32", "std::int32_t"), ("int", "std::int32_t"), ("int64", "std::int64_t"),
   ("long", "std::int64_t"), ("uint8", "std::uint8_t"), ("uint16", "std::uint16_t"),
   ("uint32", "std::uint32_t"), ("uint64", "std::uint64_t"), ("float", "float"),
   ("float32", "float"), ("double", "double"), ("float64", "double"), ("decimal", "double"),
   ("date", "std::chrono::year_month_day"), ("time", "std::chrono::seconds"),
   ("datetime", "std::chrono::system_clock::time_point"), ("uuid", "std::string"),
   ("bytes", "std::vector<std::uint8_t>"), ("void", "void"), ("unspecified", "std::any")]

/-- The standard headers, each after a part of the types that need it. -/
def standardHeaders : List (String × String) :=
  [("std::string", "string"), ("std::wstring", "string"), ("std::int", "cstdint"),
   ("std::uint", "cstdint"), ("std::chrono", "chrono"), ("std::vector", "vector"),
   ("std::any", "any")]

/-- A value of a type. -/
def defaultValue (type : String) : String :=
  match TypeCategory.of type with
  | .truth => "false"
  | .integer => "0"
  | .decimal => "0.0"
  | .void | .text | .other => "\x7b\x7d"

/-! ## Parts of declarations -/

/-- A list of parameters. -/
def parameters (l : List Parameter) : String := typedParameters types " " l

/-- The return type, the name and the parameters of a method. -/
def signature (m : Method) : String := typedSignature types m

/-- The body of a method, on one line. -/
def statements (m : Method) : String :=
  if m.returnsVoid then "\x7b\x7d"
  else "\x7b return " ++ defaultValue m.returns ++ "; \x7d"

/-- The label that gives the members after it their access. -/
def label (access : Access) : String := line 0 (access.keyword ++ ":")

/-- The name space of the file, if it has one. -/
def nameSpace? (x : Context) : Option String := x.package?.map (replaceChar '.' "::")

/-! ## Before and after the members -/

/-- The standard headers that a type needs. -/
def headersOf (type : String) : List String :=
  let name := types.nameFor type
  (standardHeaders.filter fun (part, _) => occurs part name).map fun (_, file) =>
    "<" ++ file ++ ">"

/-- What the file includes. -/
def includes (x : Context) : List String :=
  firsts (x.usedTypes.flatMap headersOf
    ++ (if x.emitsValueMembers x.options.members.stringForm then ["<sstream>", "<string>"] else [])
    ++ (if x.owesStubs then ["<stdexcept>"] else [])
    ++ x.configuredImports.map (fun (module, _) => "<" ++ module ++ ">")
    ++ x.entityImports.map fun name => "\"" ++ name ++ ".h\"")

/-- The first line of the type. -/
def declaration (x : Context) : String :=
  if x.kind = .enumeration then "enum class " ++ x.name
  else
    "class " ++ x.name
      ++ (if x.parents.isEmpty then "" else " : " ++ commas (x.parents.map ("public " ++ ·)))

/-- The includes, the name space and the first line of the type.  An interface starts with
a virtual destructor. -/
def header (x : Context) : String :=
  spaced (line 0 "#pragma once")
    ++ paragraph ((includes x).map fun file => line 0 ("#include " ++ file))
    ++ (match nameSpace? x with
        | some space => spaced (line 0 ("namespace " ++ space ++ " \x7b"))
        | none => "")
    ++ line 0 (declaration x ++ " \x7b")
    ++ (if x.kind = .interface then
          spaced (label .everyone ++ line 1 ("virtual ~" ++ x.name ++ "() = default;"))
        else "")

/-- The end of the type and of the name space. -/
def footer (x : Context) : String :=
  line 0 "\x7d;"
    ++ (match nameSpace? x with
        | some space => "\n" ++ line 0 ("\x7d  // namespace " ++ space)
        | none => "")

/-! ## Members -/

/-- A field.  Those of an interface are for everyone. -/
def property (x : Context) (p : Property) : String :=
  label (if x.kind = .interface then .everyone else p.access)
    ++ line 1 ((if p.isStatic then "inline static " else "")
      ++ (if p.constraints.isFinal && p.initial.isSome then "const " else "")
      ++ types.nameFor p.type ++ " " ++ p.name ++ assigned p.initial ++ ";")

/-- A constant. -/
def constant (_ : Context) (p : Property) (_ : Nat) : String := enumerator p

/-- The constructor without parameters. -/
def defaultConstructor (x : Context) : String :=
  spaced (label .everyone ++ line 1 (x.name ++ "() = default;"))

/-- The constructor with a parameter for every property. -/
def fullConstructor (x : Context) (ps : List Property) : String :=
  let start (p : Property) : String := p.name ++ "(" ++ p.name ++ ")"
  spaced (label .everyone
    ++ line 1 (x.name ++ "(" ++ parameters (ps.map parameterFor) ++ ")")
    ++ line 2 (": " ++ commas (ps.map start) ++ " \x7b\x7d"))

/-- The method that reads a property. -/
def getter (_ : Context) (p : Property) : String :=
  spaced (label .everyone
    ++ line 1 (types.nameFor p.type ++ " get" ++ capitalize p.name ++ "() const \x7b return "
      ++ p.name ++ "; \x7d"))

/-- The method that changes a property. -/
def setter (_ : Context) (p : Property) : String :=
  spaced (label .everyone
    ++ line 1 ("void set" ++ capitalize p.name ++ "(const " ++ types.nameFor p.type
      ++ "& value) \x7b " ++ p.name ++ " = value; \x7d"))

/-- Equality and inequality by the values of the properties. -/
def equality (x : Context) (ps : List Property) : String :=
  let comparisons := ps.map fun p => p.name ++ " == other." ++ p.name
  spaced (label .everyone
      ++ block 1 ("bool operator==(const " ++ x.name ++ "& other) const")
        (returnAll comparisons))
    ++ spaced (line 1 ("bool operator!=(const " ++ x.name
      ++ "& other) const \x7b return !(*this == other); \x7d"))

/-- The name of the class with its properties in braces. -/
def stringForm (x : Context) (ps : List Property) : String :=
  let field (index : Nat) (p : Property) : String :=
    " << \"" ++ (if index = 0 then "" else ", ") ++ p.name ++ "=\" << " ++ p.name
  spaced (label .everyone
    ++ block 1 "std::string toString() const"
      (line 2 "std::ostringstream out;"
        ++ line 2 ("out << \"" ++ x.name ++ "\x7b\"" ++ String.join (ps.mapIdx field)
          ++ " << \"\x7d\";")
        ++ line 2 "return out.str();"))

/-- A method.  An enumeration has none. -/
def method (x : Context) (m : Method) (form : BodyForm) : String :=
  if x.kind = .enumeration then ""
  else
    let toImplement (access : Access) : String :=
      spaced (label access ++ line 1 ("virtual " ++ signature m ++ " = 0;"))
    match form with
    | .declaration => toImplement .everyone
    | .abstract => toImplement m.access
    | .implemented =>
        let before :=
          if m.constraints.isStatic then "static "
          else if m.constraints.isVirtual then "virtual "
          else ""
        let after :=
          if m.constraints.isFinal && !m.constraints.isStatic then " final" else ""
        spaced (label m.access
          ++ line 1 (before ++ signature m ++ after ++ " " ++ statements m))
    | .stub =>
        spaced (label .everyone
          ++ line 1 (signature m
            ++ " override \x7b throw std::logic_error(\"Not implemented\"); \x7d"))

end Cpp

/-- The emitter for C++. -/
def cpp : Emitter where
  name := "cpp"
  extension := "h"
  types := Cpp.types
  defaultValue := Cpp.defaultValue
  header := Cpp.header
  property := Cpp.property
  constant := Cpp.constant
  defaultConstructor := Cpp.defaultConstructor
  fullConstructor := Cpp.fullConstructor
  getter := Cpp.getter
  setter := Cpp.setter
  equality := Cpp.equality
  stringForm := Cpp.stringForm
  method := Cpp.method
  footer := Cpp.footer

end ClassDiagram.Emit
