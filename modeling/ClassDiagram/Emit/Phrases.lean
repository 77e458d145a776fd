import ClassDiagram.Emit.Context
import ClassDiagram.Emit.Layout
import ClassDiagram.LogicalType

/-!
# Phrases

What several languages write alike.  They differ in the names of types, in the names that
hold properties, and in a keyword or a mark.  These are arguments here, and a language
is left with what is its own.
-/

namespace ClassDiagram.Emit

/-! ## Before the members -/

/-- The clause that names the package of a file, if it has one. -/
def packageClause (keyword : String) : Option String → String
  | some package => spaced (line 0 (keyword ++ package ++ ";"))
  | none => ""

/-- Clauses that name what a file imports. -/
def importClauses (keyword : String) (names : List String) : String :=
  paragraph (names.map fun name => line 0 (keyword ++ name ++ ";"))

/-- The names that the options have every file import: the symbols of a module, or all of it. -/
def configuredNames (symbolOf : String → String → String) (allOf : String → String)
    (x : Context) : List String :=
  x.configuredImports.flatMap fun (module, symbols) =>
    match symbols with
    | some symbols => symbols.map (symbolOf module)
    | none => [allOf module]

/-- What a type is derived from.  A class extends its first base only. -/
def supertypes (x : Context) : String :=
  match x.kind with
  | .enumeration => ""
  | .interface => if x.parents.isEmpty then "" else " extends " ++ commas x.parents
  | .concrete | .abstract =>
      (match x.bases with
        | [] => ""
        | base :: _ => " extends " ++ base)
        ++ (if x.interfaces.isEmpty then "" else " implements " ++ commas x.interfaces)

/-! ## Properties -/

/-- The value that a declaration gives, if there is one. -/
def assigned : Option String → String
  | some value => " = " ++ value
  | none => ""

/-- A constant of an enumeration, in a list separated by commas. -/
def enumerator (p : Property) : String := line 1 (p.name ++ assigned p.initial ++ ",")

/-- Statements that assign to the fields of an owner the parameters for some properties, which
start with a mark. -/
def assignments (owner : String) (field : Property → String) (mark : String)
    (ps : List Property) : String :=
  String.join (ps.map fun p => line 2 (owner ++ field p ++ " = " ++ mark ++ p.name ++ ";"))

/-- The statement that returns whether some conditions hold, one to a line. -/
def returnAll (conditions : List String) : String :=
  line 2 ("return " ++ ("\n" ++ margin 3 ++ "&& ").intercalate conditions ++ ";")

/-- The call of the constructor of the base, for a class that has one. -/
def baseCall (call : String) (x : Context) : String := if x.bases.isEmpty then "" else line 2 call

/-! ## Methods -/

/-- A list of parameters with their types before their names, and a mark between the two. -/
def typedParameters (types : TypeTable) (mark : String) (l : List Parameter) : String :=
  commas (l.map fun p => types.nameFor p.type ++ mark ++ p.name)

/-- The return type, the name and the parameters of a method. -/
def typedSignature (types : TypeTable) (m : Method) : String :=
  types.nameFor m.returns ++ " " ++ m.name ++ "(" ++ typedParameters types " " m.parameters ++ ")"

/-- A parameter with its type after its name. -/
def annotatedParameter (types : TypeTable) (p : Parameter) : String :=
  p.name ++ ": " ++ types.nameFor p.type

/-- The name of a method, its parameters as they are given, and the return type. -/
def annotatedSignature (types : TypeTable) (parameters : String) (m : Method) : String :=
  m.name ++ "(" ++ parameters ++ "): " ++ types.nameFor m.returns

/-- The statement that returns a value of the return type, if there is one. -/
def returnStatement (defaultValue : String → String) (m : Method) : String :=
  if m.returnsVoid then "" else line 2 ("return " ++ defaultValue m.returns ++ ";")

end ClassDiagram.Emit
