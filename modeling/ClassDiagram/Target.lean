import ClassDiagram.Emit.Cpp
import ClassDiagram.Emit.CSharp
import ClassDiagram.Emit.Java
import ClassDiagram.Emit.Php
import ClassDiagram.Emit.Python
import ClassDiagram.Emit.TypeScript
import ClassDiagram.Schema.Backend

/-!
# Targets

A target is what a model can be turned into: code in one of six languages, or a
schema.  A target goes by several spellings, in any case and with blanks around
them.  A schema needs a dialect as well, and the options name it.

`select` finds the backends for a list of spellings.  It fails at the first
spelling without a backend, so nothing has been done by then.  A backend that is
asked for again counts once, where it came first.
-/

namespace ClassDiagram

open Text

/-! ## Targets and their spellings -/

/-- What a model can be turned into. -/
inductive Target where
  | java | csharp | cpp | python | typescript | php | sql
deriving DecidableEq, Repr

namespace Target

/-- All targets. -/
def all : List Target := [.java, .csharp, .cpp, .python, .typescript, .php, .sql]

/-- The name of a target. -/
def name : Target → String
  | .java => "java"
  | .csharp => "csharp"
  | .cpp => "cpp"
  | .python => "python"
  | .typescript => "typescript"
  | .php => "php"
  | .sql => "sql"

/-- Other spellings of a target. -/
def aliases : Target → List String
  | .csharp => ["c#", "cs"]
  | .cpp => ["c++"]
  | .python => ["py"]
  | .typescript => ["ts"]
  | .java | .php | .sql => []

/-- The target that a spelling stands for. -/
def ofSpelling? (spelling : String) : Option Target :=
  all.find? fun t => (t.name :: t.aliases).contains (folded spelling)

end Target

/-! ## Backends -/

/-- Why a spelling has no backend. -/
inductive SelectionError where
  /-- No target is spelt like this. -/
  | target (spelling : String)
  /-- No dialect is spelt like this. -/
  | dialect (spelling : String)
deriving DecidableEq, Repr

/-- The report of a spelling without a backend. -/
def SelectionError.message : SelectionError → String
  | .target spelling => "Unsupported target: " ++ spelling
  | .dialect spelling => "Unsupported SQL dialect: " ++ spelling

/-- The backend for schemas in the dialect that the options name. -/
def schemaBackend (o : Options) : Except SelectionError Emit.Backend :=
  let spelling := o.dialectFor Target.sql.name
  match Schema.dialect? spelling with
  | some d => .ok (Schema.backend d)
  | none => .error (.dialect spelling)

/-- The backend of a target. -/
def Target.backend (o : Options) : Target → Except SelectionError Emit.Backend
  | .java => .ok Emit.java.backend
  | .csharp => .ok Emit.csharp.backend
  | .cpp => .ok Emit.cpp.backend
  | .python => .ok Emit.python.backend
  | .typescript => .ok Emit.typescript.backend
  | .php => .ok Emit.php.backend
  | .sql => schemaBackend o

/-- The backend that a spelling stands for. -/
def backendFor (o : Options) (spelling : String) : Except SelectionError Emit.Backend :=
  match Target.ofSpelling? spelling with
  | some t => t.backend o
  | none => .error (.target spelling)

/-- The backends for some spellings, each where it comes first. -/
def select (o : Options) (spellings : List String) : Except SelectionError (List Emit.Backend) :=
  (spellings.mapM (backendFor o)).map (firstsBy Emit.Backend.name)

end ClassDiagram
