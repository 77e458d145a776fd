import ClassDiagram.Json.Fields
import ClassDiagram.Options.Basic

/-!
# Options in JSON

Options are a record with the fields `package`, `generate`,
`encapsulate_all_props` and `targets`, all of which may be left out.
-/

namespace ClassDiagram

open Json

/-- The switches for made up members. -/
def MemberSwitches.ofJson? (value : Read) : Option MemberSwitches := do
  let fields ← fields? ["default_ctor", "full_arg_ctor", "equal_hashcode", "to_string"] value
  let usual : MemberSwitches := {}
  let defaultConstructor ← optional? fields "default_ctor" usual.defaultConstructor bool?
  let fullConstructor ← optional? fields "full_arg_ctor" usual.fullConstructor bool?
  let equality ← optional? fields "equal_hashcode" usual.equality bool?
  let stringForm ← optional? fields "to_string" usual.stringForm bool?
  some { defaultConstructor, fullConstructor, equality, stringForm }

/-- The options of one target. -/
def TargetOptions.ofJson? (value : Read) : Option TargetOptions := do
  let fields ← fields? ["imports", "dialect", "single_script", "filename"] value
  let imports ← optional? fields "imports" ∅ (map? (nullable? (list? text?)))
  let dialect ← optional? fields "dialect" none (nullable? text?)
  let singleScript ← optional? fields "single_script" false bool?
  let scriptName ← optional? fields "filename" none (nullable? text?)
  some { imports, dialect, singleScript, scriptName }

/-- The options of a run. -/
def Options.ofJson? (value : Read) : Option Options := do
  let fields ← fields? ["package", "generate", "encapsulate_all_props", "targets"] value
  let package ← optional? fields "package" none (nullable? text?)
  let members ← optional? fields "generate" {} MemberSwitches.ofJson?
  let encapsulate ← optional? fields "encapsulate_all_props" false bool?
  let targets ← optional? fields "targets" ∅ (map? TargetOptions.ofJson?)
  some { package, members, encapsulate, targets }

/-- The options that a document holds. -/
def Options.parse? (document : String) : Option Options := do
  Options.ofJson? (← Json.parse? document)

end ClassDiagram
