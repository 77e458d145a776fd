import ClassDiagram.OrderedMap
import ClassDiagram.Text.Blank

/-!
# Options

What a run may be told besides the drawing and the targets.  Every option has a
default, so the empty set of options is `{}`.
-/

namespace ClassDiagram

open Text

/-- Which members are made up for a class. -/
structure MemberSwitches where
  /-- A constructor without parameters. -/
  defaultConstructor : Bool := true
  /-- A constructor with a parameter for every property. -/
  fullConstructor : Bool := true
  /-- Equality and hashing by value. -/
  equality : Bool := false
  /-- A text for an instance. -/
  stringForm : Bool := false
deriving DecidableEq, Repr

/-- The options of one target. -/
structure TargetOptions where
  /-- What every file imports: modules, of some only certain symbols. -/
  imports : OrderedMap String (Option (List String)) := ∅
  /-- The dialect of a schema. -/
  dialect : Option String := none
  /-- All tables of a schema go into one script. -/
  singleScript : Bool := false
  /-- The name of that script. -/
  scriptName : Option String := none
deriving DecidableEq

/-- The options of a run. -/
structure Options where
  /-- The package or name space of the files, which counts if it is not blank. -/
  package : Option String := none
  /-- Which members are made up. -/
  members : MemberSwitches := {}
  /-- All properties are for their own class only. -/
  encapsulate : Bool := false
  /-- The options of the targets, by name. -/
  targets : OrderedMap String TargetOptions := ∅
deriving DecidableEq

/-- The dialect of a schema that names none. -/
def defaultDialect : String := "ansi"

/-- The name of a script that has none. -/
def defaultScriptName : String := "schema.sql"

namespace Options

instance : Inhabited Options := ⟨{}⟩

/-- The package, if there is one. -/
def packageName? (o : Options) : Option String :=
  (o.package.map trim).filter (!·.isEmpty)

/-- The options of a target. -/
def target? (o : Options) (name : String) : Option TargetOptions := o.targets.get? name

/-- What the files of a target import. -/
def importsFor (o : Options) (name : String) : List (String × Option (List String)) :=
  match o.target? name with
  | some t => t.imports.toList
  | none => []

/-- The dialect that a target is to use. -/
def dialectFor (o : Options) (name : String) : String :=
  ((o.target? name).bind (·.dialect)).getD defaultDialect

end Options

end ClassDiagram
